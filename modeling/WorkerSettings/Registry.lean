import WorkerSettings.Fault

/-!
# Registries of configuration objects

A worker can be given its configuration in code: objects of various kinds, at most one of
each kind. The kinds and the types of their objects are a parameter. A slot keeps its
object together with the object's own kind, and a look-up checks that kind against the one
it asks for; that the check never fails is a fact about every registry that the operations
make, not about the type.
-/

namespace WorkerSettings

/-- Kinds of configuration objects that can be named in a message. -/
class Labelled (κ : Type) where
  label : κ → String

structure Slot {κ : Type} (Object : κ → Type) where
  key : κ
  object : Sigma Object

structure Registry {κ : Type} (Object : κ → Type) where
  slots : List (Slot Object)

namespace Registry

variable {κ : Type} {Object : κ → Type}

def empty : Registry Object where
  slots := []

def size (registry : Registry Object) : Nat :=
  registry.slots.length

def isEmpty (registry : Registry Object) : Bool :=
  registry.slots.isEmpty

variable [DecidableEq κ]

def ofKind? (kind : κ) (object : Sigma Object) : Option (Object kind) :=
  if same : object.1 = kind then some (same ▸ object.2) else none

def slot? (registry : Registry Object) (kind : κ) : Option (Slot Object) :=
  registry.slots.find? (·.key = kind)

def contains (registry : Registry Object) (kind : κ) : Bool :=
  (registry.slot? kind).isSome

def find? (registry : Registry Object) (kind : κ) : Option (Object kind) :=
  (registry.slot? kind).bind fun slot => ofKind? kind slot.object

/-- Register an object in the place of any other of its kind. -/
def replace (registry : Registry Object) (kind : κ) (object : Object kind) : Registry Object where
  slots := ⟨kind, ⟨kind, object⟩⟩ :: registry.slots.filter (·.key ≠ kind)

@[simp] theorem find?_empty (kind : κ) : (empty : Registry Object).find? kind = none := rfl

@[simp] theorem find?_replace_self (registry : Registry Object) (kind : κ)
    (object : Object kind) : (registry.replace kind object).find? kind = some object := by
  simp [find?, slot?, replace, ofKind?]

theorem find?_replace_of_ne (registry : Registry Object) {kind other : κ} (object : Object kind)
    (ne : other ≠ kind) : (registry.replace kind object).find? other = registry.find? other := by
  have slot : (registry.replace kind object).slot? other = registry.slot? other := by
    simp only [slot?, replace, List.find?_cons, Ne.symm ne, decide_false, List.find?_filter]
    congr 1
    funext slot
    by_cases same : slot.key = other
    · simp [same, ne]
    · simp [same]
  simp [find?, slot]

variable [Labelled κ]

/-- Register the first object of a kind. -/
def add (registry : Registry Object) (kind : κ) (object : Object kind) :
    Except Fault (Registry Object) :=
  if registry.contains kind then
    .error (.duplicate (Labelled.label kind))
  else
    .ok (registry.replace kind object)

def get (registry : Registry Object) (kind : κ) : Except Fault (Object kind) :=
  match registry.find? kind with
  | some object => .ok object
  | none => .error (.notFound (Labelled.label kind))

inductive Act (Object : κ → Type)
  /-- Hand the registry over for one with an object more; a failure loses it. -/
  | extend (kind : κ) (object : Object kind)
  /-- Add an object; a failure changes nothing. -/
  | add (kind : κ) (object : Object kind)
  /-- Add an object or replace one. -/
  | replace (kind : κ) (object : Object kind)
  /-- Look an object up. -/
  | get (kind : κ)

inductive Reply (Object : κ → Type)
  | extended
  | size (size : Nat)
  | object (kind : κ) (object : Object kind)

/-- The answer to an act and the registry after it. After a failed handing over the
registry is an empty one. -/
def perform (registry : Registry Object) :
    Act Object → Except Fault (Reply Object) × Registry Object
  | .extend kind object =>
    match registry.add kind object with
    | .ok extended => (.ok .extended, extended)
    | .error fault => (.error fault, empty)
  | .add kind object =>
    match registry.add kind object with
    | .ok added => (.ok (.size added.size), added)
    | .error fault => (.error fault, registry)
  | .replace kind object =>
    (.ok (.size (registry.replace kind object).size), registry.replace kind object)
  | .get kind => ((registry.get kind).map (.object kind), registry)

end Registry

end WorkerSettings

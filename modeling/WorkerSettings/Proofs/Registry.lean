import Mathlib.Data.Finset.Card
import Mathlib.Data.List.Induction
import WorkerSettings.Registry
import WorkerSettings.Proofs.LastEntry

/-!
# Registries as partial maps

A registry stores objects of many types in one list, and a look-up finds a slot by its key and
then asks whether the object in it is of the kind of the key. Seen from outside it is a partial
map from kinds to objects: a kind has the object that was stored last, unless the registry has
been lost since. An act stores one object, loses the registry or leaves it as it was, and all
that holds after a run follows from these three.
-/

namespace WorkerSettings.Registry

variable {κ : Type} {Object : κ → Type}

def Act.kind : Act Object → κ
  | .extend kind _ => kind
  | .add kind _ => kind
  | .replace kind _ => kind
  | .get kind => kind

structure Event (Object : κ → Type) where
  act : Act Object
  answer : Except Fault (Reply Object)

namespace Event

/-- The event stores an object under its kind: a replacement in any case, and the two other ways
if they succeed. -/
inductive Stores : Event Object → (kind : κ) → Object kind → Prop
  | extend {kind : κ} {object : Object kind} {reply : Reply Object} :
      Stores ⟨.extend kind object, .ok reply⟩ kind object
  | add {kind : κ} {object : Object kind} {reply : Reply Object} :
      Stores ⟨.add kind object, .ok reply⟩ kind object
  | replace {kind : κ} {object : Object kind} {answer : Except Fault (Reply Object)} :
      Stores ⟨.replace kind object, answer⟩ kind object

/-- The event loses the registry, which was handed over and not given back. -/
inductive Loses : Event Object → Prop
  | extend {kind : κ} {object : Object kind} {fault : Fault} :
      Loses ⟨.extend kind object, .error fault⟩

variable {event : Event Object} {kind other : κ}

theorem Stores.eq_kind {object : Object kind} (stores : event.Stores kind object) :
    event.act.kind = kind := by
  cases stores <;> rfl

theorem Stores.unique {object object' : Object kind} (first : event.Stores kind object)
    (second : event.Stores kind object') : object = object' := by
  cases first <;> cases second <;> rfl

theorem Stores.not_loses {object : Object kind} (stores : event.Stores kind object) :
    ¬ event.Loses := by
  intro loses
  cases stores <;> cases loses

end Event

/-- The object is the last that was stored under the kind, and the registry has not been lost
since. -/
def LastStored (history : List (Event Object)) (kind : κ) (object : Object kind) : Prop :=
  ∃ before event after, history = before ++ event :: after ∧ event.Stores kind object ∧
    ∀ later ∈ after, ¬ later.Loses ∧ ∀ other, ¬ later.Stores kind other

theorem not_lastStored_nil {kind : κ} {object : Object kind} :
    ¬ LastStored [] kind object := by
  rintro ⟨before, event, after, split, _⟩
  simp at split

/-- The last event decides, or neither loses the registry nor is about the kind. -/
theorem lastStored_concat {history : List (Event Object)} {event : Event Object} {kind : κ}
    {object : Object kind} :
    LastStored (history ++ [event]) kind object ↔
      event.Stores kind object ∨
        (¬ event.Loses ∧ ∀ other, ¬ event.Stores kind other) ∧
          LastStored history kind object :=
  exists_last_concat_iff

/-- The object of every slot is of the kind of its key, and no kind has two slots. -/
structure Sound (registry : Registry Object) : Prop where
  typed : ∀ slot ∈ registry.slots, slot.object.1 = slot.key
  distinct : (registry.slots.map Slot.key).Nodup

theorem Sound.empty : (empty : Registry Object).Sound where
  typed slot member := by cases member
  distinct := List.nodup_nil

variable [DecidableEq κ] {registry after : Registry Object} {event : Event Object} {kind : κ}

theorem Sound.replace (sound : registry.Sound) (kind : κ) (object : Object kind) :
    (registry.replace kind object).Sound where
  typed slot member := by
    rcases List.mem_cons.mp member with rfl | member
    · rfl
    · exact sound.typed slot (List.mem_filter.mp member).1
  distinct := by
    rw [Registry.replace, List.map_cons, List.nodup_cons]
    constructor
    · intro member
      obtain ⟨slot, kept, same⟩ := List.mem_map.mp member
      have differs := (List.mem_filter.mp kept).2
      simp [same] at differs
    · exact sound.distinct.sublist (List.filter_sublist.map Slot.key)

/-- In a sound registry the object of a slot that was found is of the kind that was asked for. -/
theorem Sound.exists_ofKind? (sound : registry.Sound) {slot : Slot Object}
    (found : registry.slot? kind = some slot) :
    ∃ object, ofKind? kind slot.object = some object := by
  have key : slot.key = kind := by simpa using List.find?_some found
  have typed := sound.typed slot (List.mem_of_find?_eq_some found)
  rw [ofKind?, dif_pos (typed.trans key)]
  exact ⟨_, rfl⟩

theorem slot?_eq_none_iff :
    registry.slot? kind = none ↔ kind ∉ registry.slots.map Slot.key := by
  simp [slot?]

theorem Sound.find?_eq_none_iff (sound : registry.Sound) :
    registry.find? kind = none ↔ kind ∉ registry.slots.map Slot.key := by
  rw [find?, ← slot?_eq_none_iff]
  cases found : registry.slot? kind with
  | none => simp
  | some slot =>
    obtain ⟨object, cast⟩ := sound.exists_ofKind? found
    simp [cast]

theorem Sound.mem_keys_iff (sound : registry.Sound) :
    kind ∈ registry.slots.map Slot.key ↔ ∃ object, registry.find? kind = some object := by
  rw [← not_iff_not, ← sound.find?_eq_none_iff, ← Option.isSome_iff_exists,
    Option.not_isSome_iff_eq_none]

theorem Sound.contains_iff (sound : registry.Sound) :
    registry.contains kind = true ↔ ∃ object, registry.find? kind = some object := by
  rw [← sound.mem_keys_iff, contains, ← not_iff_not, Option.not_isSome_iff_eq_none,
    slot?_eq_none_iff]

inductive Effect (registry : Registry Object) (event : Event Object) : Registry Object → Prop
  | stored {kind : κ} {object : Object kind} (stores : event.Stores kind object) :
      Effect registry event (registry.replace kind object)
  | lost (loses : event.Loses) : Effect registry event empty
  | kept (safe : ¬ event.Loses) (silent : ∀ kind object, ¬ event.Stores kind object) :
      Effect registry event registry

theorem Effect.sound (effect : Effect registry event after) (sound : registry.Sound) :
    after.Sound := by
  cases effect with
  | stored stores => exact sound.replace _ _
  | lost loses => exact .empty
  | kept safe silent => exact sound

/-- After an event a kind has the object that the event has stored, or the one that it had
before. -/
theorem Effect.find?_eq_some_iff (effect : Effect registry event after) {object : Object kind} :
    after.find? kind = some object ↔
      event.Stores kind object ∨
        (¬ event.Loses ∧ ∀ other, ¬ event.Stores kind other) ∧
          registry.find? kind = some object := by
  cases effect with
  | @stored storedKind storedObject stores =>
    by_cases same : kind = storedKind
    · subst same
      rw [find?_replace_self, Option.some.injEq]
      constructor
      · rintro rfl
        exact .inl stores
      · rintro (stores' | ⟨⟨_, silent⟩, _⟩)
        · exact stores.unique stores'
        · exact (silent _ stores).elim
    · have silent : ∀ other, ¬ event.Stores kind other := fun other stores' =>
        same (stores'.eq_kind.symm.trans stores.eq_kind)
      simp [find?_replace_of_ne registry storedObject same, silent, stores.not_loses]
  | lost loses =>
    have silent : ¬ event.Stores kind object := fun stores => stores.not_loses loses
    simp [loses, silent]
  | kept safe silent => simp [safe, silent]

/-- An event about another kind leaves what a kind has, if it leaves the registry. -/
theorem Effect.find?_of_ne (effect : Effect registry event after)
    (differs : event.act.kind ≠ kind) (safe : ¬ event.Loses) :
    after.find? kind = registry.find? kind := by
  have silent : ∀ object, ¬ event.Stores kind object :=
    fun object stores => differs stores.eq_kind
  apply Option.ext
  intro object
  simp [effect.find?_eq_some_iff, silent, safe]

variable [Labelled κ]

theorem get_eq_ok_iff {object : Object kind} :
    registry.get kind = .ok object ↔ registry.find? kind = some object := by
  rw [get]
  cases registry.find? kind <;> simp

theorem get_eq_error_iff {fault : Fault} :
    registry.get kind = .error fault ↔
      registry.find? kind = none ∧ fault = .notFound (Labelled.label kind) := by
  rw [get]
  cases registry.find? kind <;> simp [eq_comm]

theorem add_eq_error_iff (object : Object kind) {fault : Fault} :
    registry.add kind object = .error fault ↔
      registry.contains kind = true ∧ fault = .duplicate (Labelled.label kind) := by
  rw [add]
  split
  · rename_i present
    simp [present, eq_comm]
  · rename_i absent
    simp [absent]

theorem eq_of_add_eq_ok {object : Object kind} (ok : registry.add kind object = .ok after) :
    after = registry.replace kind object := by
  rw [add] at ok
  split at ok
  · cases ok
  · cases ok
    rfl

def eventOf (registry : Registry Object) (act : Act Object) : Event Object where
  act
  answer := (registry.perform act).1

theorem effect_perform (registry : Registry Object) (act : Act Object) :
    Effect registry (registry.eventOf act) (registry.perform act).2 := by
  cases act with
  | extend kind object =>
    cases added : registry.add kind object with
    | error fault =>
      simp only [eventOf, perform, added]
      exact .lost .extend
    | ok extended =>
      simp only [eventOf, perform, added, eq_of_add_eq_ok added]
      exact .stored .extend
  | add kind object =>
    cases added : registry.add kind object with
    | error fault =>
      simp only [eventOf, perform, added]
      exact .kept (by rintro ⟨⟩) (by rintro _ _ ⟨⟩)
    | ok extended =>
      simp only [eventOf, perform, added, eq_of_add_eq_ok added]
      exact .stored .add
  | replace kind object => exact .stored .replace
  | get kind => exact .kept (by rintro ⟨⟩) (by rintro _ _ ⟨⟩)

def step (past : List (Event Object) × Registry Object) (act : Act Object) :
    List (Event Object) × Registry Object :=
  (past.1 ++ [past.2.eventOf act], (past.2.perform act).2)

/-- Carry out acts one after the other, from an empty registry: the history and the registry
after it. -/
def run (acts : List (Act Object)) : List (Event Object) × Registry Object :=
  acts.foldl step ([], empty)

theorem run_concat (acts : List (Act Object)) (act : Act Object) :
    run (acts ++ [act]) = step (run acts) act :=
  List.foldl_concat step ([], empty) act acts

theorem sound_run (acts : List (Act Object)) : (run acts).2.Sound := by
  induction acts using List.reverseRecOn with
  | nil => exact .empty
  | append_singleton acts act ih =>
    rw [run_concat]
    exact (effect_perform (run acts).2 act).sound ih

/-- After a run a look-up finds what was stored last. -/
theorem find?_run_iff (acts : List (Act Object)) (kind : κ) (object : Object kind) :
    (run acts).2.find? kind = some object ↔ LastStored (run acts).1 kind object := by
  induction acts using List.reverseRecOn with
  | nil =>
    refine iff_of_false ?_ not_lastStored_nil
    rw [run, List.foldl_nil, find?_empty]
    rintro ⟨⟩
  | append_singleton acts act ih =>
    rw [run_concat, step, lastStored_concat, ← ih]
    exact (effect_perform (run acts).2 act).find?_eq_some_iff

/-- A registry after a history is a partial map from kinds to objects. -/
structure Reflects (history : List (Event Object)) (registry : Registry Object) : Prop where
  /-- A look-up gives exactly the object that was stored last. -/
  found : ∀ kind object, registry.get kind = .ok object ↔ LastStored history kind object
  /-- It fails exactly if there is none, and says so. -/
  missing : ∀ kind fault, registry.get kind = .error fault ↔
    (¬ ∃ object, LastStored history kind object) ∧ fault = .notFound (Labelled.label kind)
  /-- A registry can be extended exactly by a kind that has no object. -/
  extend_fails : ∀ kind object fault,
    (registry.perform (.extend kind object)).1 = .error fault ↔
      (∃ stored, LastStored history kind stored) ∧ fault = .duplicate (Labelled.label kind)
  /-- An object can be added exactly to a kind that has none. -/
  add_fails : ∀ kind object fault,
    (registry.perform (.add kind object)).1 = .error fault ↔
      (∃ stored, LastStored history kind stored) ∧ fault = .duplicate (Labelled.label kind)
  /-- A failure to extend the registry leaves an empty one. -/
  extend_loses : ∀ kind object fault,
    (registry.perform (.extend kind object)).1 = .error fault →
      (registry.perform (.extend kind object)).2 = empty
  /-- A failure to add an object changes nothing. -/
  add_keeps : ∀ kind object fault,
    (registry.perform (.add kind object)).1 = .error fault →
      (registry.perform (.add kind object)).2 = registry
  /-- An object can always be replaced. -/
  replace_succeeds : ∀ kind object, ∃ reply,
    (registry.perform (.replace kind object)).1 = .ok reply
  /-- An act about one kind makes no difference to another, unless it loses the registry. -/
  independent : ∀ act kind, act.kind ≠ kind → ¬ (registry.eventOf act).Loses →
    (registry.perform act).2.get kind = registry.get kind
  /-- A look-up changes nothing. -/
  get_keeps : ∀ kind, (registry.perform (.get kind)).2 = registry
  /-- The size is the number of kinds that have an object. -/
  size : ∃ kinds : Finset κ, (∀ kind, kind ∈ kinds ↔ ∃ object, LastStored history kind object) ∧
    registry.size = kinds.card
  /-- A registry is empty exactly if its size is zero. -/
  isEmpty : registry.isEmpty = true ↔ registry.size = 0
  /-- Every object is of the kind of its key. -/
  typed : ∀ slot ∈ registry.slots, slot.object.1 = slot.key
  /-- The check of a look-up never fails on a slot that is there. -/
  castable : ∀ kind slot, registry.slot? kind = some slot →
    ∃ object, ofKind? kind slot.object = some object

/-- After any run a registry is the partial map of what was stored last. -/
theorem reflects_run (acts : List (Act Object)) : Reflects (run acts).1 (run acts).2 := by
  have sound := sound_run acts
  have holds := find?_run_iff acts
  have present (kind : κ) : (run acts).2.contains kind = true ↔
      ∃ object, LastStored (run acts).1 kind object := by
    rw [sound.contains_iff]
    exact exists_congr (holds kind)
  constructor
  case found =>
    intro kind object
    rw [get_eq_ok_iff, holds]
  case missing =>
    intro kind fault
    rw [get_eq_error_iff, Option.eq_none_iff_forall_ne_some]
    simp only [ne_eq, holds, not_exists]
  case extend_fails =>
    intro kind object fault
    rw [← present, ← add_eq_error_iff object, perform]
    split <;> rename_i added <;> simp [added]
  case add_fails =>
    intro kind object fault
    rw [← present, ← add_eq_error_iff object, perform]
    split <;> rename_i added <;> simp [added]
  case extend_loses =>
    intro kind object fault failed
    rw [perform] at failed ⊢
    split at failed
    · cases failed
    · rfl
  case add_keeps =>
    intro kind object fault failed
    rw [perform] at failed ⊢
    split at failed
    · cases failed
    · rfl
  case replace_succeeds =>
    intro kind object
    exact ⟨_, rfl⟩
  case independent =>
    intro act kind differs safe
    rw [get, get, (effect_perform (run acts).2 act).find?_of_ne differs safe]
  case get_keeps =>
    intro kind
    rfl
  case size =>
    refine ⟨((run acts).2.slots.map Slot.key).toFinset, fun kind => ?_, ?_⟩
    · rw [List.mem_toFinset, sound.mem_keys_iff]
      exact exists_congr (holds kind)
    · rw [List.toFinset_card_of_nodup sound.distinct, List.length_map, Registry.size]
  case isEmpty => rw [Registry.isEmpty, Registry.size, List.isEmpty_iff, List.length_eq_zero_iff]
  case typed => exact sound.typed
  case castable =>
    intro kind slot found
    exact sound.exists_ofKind? found

end WorkerSettings.Registry

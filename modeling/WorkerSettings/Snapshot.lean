import Std.Data.HashMap
import Std.Data.TreeMap
import WorkerSettings.Numeral
import WorkerSettings.Fault

/-!
# Snapshots of an environment

Settings are read from anything that gives variables their texts: a map made for the
purpose or the environment of the process. An empty text counts as not set; any other,
blanks included, is a value as it stands. A count is read between blanks, and a value
that is no count is reported as it stands.
-/

namespace WorkerSettings

/-- Something that gives variables their texts. -/
class Snapshot (σ : Type) where
  /-- The text of a variable, if it is set. -/
  text? : σ → String → Option String

namespace Snapshot

instance : Snapshot (Std.HashMap String String) where
  text? env name := env[name]?

instance : Snapshot (Std.TreeMap String String) where
  text? env name := env[name]?

/-- A snapshot that is only looked at, in the place where it is. -/
structure Borrowed (σ : Type) where
  snapshot : σ

instance {σ : Type} [Snapshot σ] : Snapshot (Borrowed σ) where
  text? env := text? env.snapshot

variable {σ : Type} [Snapshot σ]

/-- The value of a variable: its text, unless that is empty. -/
def value? (env : σ) (name : String) : Option String :=
  (text? env name).filter (!·.isEmpty)

/-- The count of `width` bits that a variable holds, or the fault of holding something else. -/
def count? (width : Nat) (env : σ) (name : String) : Except Fault (Option (BitVec width)) :=
  match value? env name with
  | none => .ok none
  | some value =>
    match Numeral.ofText? width value with
    | some count => .ok (some count)
    | none => .error (.invalidNumber name value)

end Snapshot

end WorkerSettings

import WorkerSettings.Binary64.Written
import WorkerSettings.Text.Quoted
import WorkerSettings.Fault

/-!
# Rejections of a record

A text is read from left to right and the first thing wrong with it is the answer. Either
it ends too early, or it is not JSON, or it is JSON and not the record that was asked for.
Only the last kind has a message.
-/

namespace WorkerSettings.Json

/-- A value of the wrong kind, as a message describes it. -/
inductive Found
  | null
  | boolean (value : Bool)
  | integer (value : Int)
  | real (value : Float)
  | text (value : String)
  | sequence
  | map
  deriving DecidableEq

def Found.describe : Found → String
  | .null => "null"
  | .boolean true => "boolean `true`"
  | .boolean false => "boolean `false`"
  | .integer value => "integer `" ++ toString value ++ "`"
  | .real value => "floating point `" ++ Binary64.written value ++ "`"
  | .text value => "string " ++ Text.quoted value
  | .sequence => "sequence"
  | .map => "map"

/-- Why a JSON value is not the record that was asked for. -/
inductive Mismatch
  /-- A key of the record occurs a second time. -/
  | duplicateField (key : String)
  /-- A key that the record needs does not occur. -/
  | missingField (key : String)
  /-- A value is of the wrong kind. -/
  | invalidType (found : Found) (expected : String)
  /-- A value is of the right kind and out of range. -/
  | invalidValue (found : Found) (expected : String)
  /-- A list ends before the field at `index` of a record of `size` fields. -/
  | invalidLength (index : Nat) (record : String) (size : Nat)
  /-- The record is complete and its values are refused. -/
  | refused (fault : Fault)
  deriving DecidableEq

def Mismatch.message : Mismatch → String
  | .duplicateField key => "duplicate field `" ++ key ++ "`"
  | .missingField key => "missing field `" ++ key ++ "`"
  | .invalidType found expected =>
    "invalid type: " ++ found.describe ++ ", expected " ++ expected
  | .invalidValue found expected =>
    "invalid value: " ++ found.describe ++ ", expected " ++ expected
  | .invalidLength index record size =>
    "invalid length " ++ Nat.repr index ++ ", expected " ++ record ++ " with " ++
      Nat.repr size ++ " elements"
  | .refused fault => fault.message

inductive Rejection
  /-- The text ends too early. -/
  | truncated
  /-- The text is not JSON. -/
  | malformed
  /-- The text is JSON and not the record. -/
  | mismatch (cause : Mismatch)
  deriving DecidableEq

end WorkerSettings.Json

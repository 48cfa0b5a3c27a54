import WorkerSettings.Json.Number
import WorkerSettings.Json.Quoted

/-!
# Fields of a record

A record has fields in a fixed order, each with a key and a form: text, or a count of some
number of bits. An optional field may be absent or `null`. A `Tuple` gives every field of
a list its value, so the type of a record's values follows from its fields.
-/

namespace WorkerSettings.Json

inductive Form
  | text
  | count (width : Nat)

namespace Form

abbrev Value : Form → Type
  | .text => String
  | .count width => BitVec width

/-- The form in messages. -/
def describe : Form → String
  | .text => "a string"
  | .count width => "u" ++ Nat.repr width

def write : (form : Form) → form.Value → List Char
  | .text, value => quote value
  | .count _, value => Numeral.digits value.toNat

end Form

inductive Field
  | required (key : String) (form : Form)
  | optional (key : String) (form : Form)

namespace Field

def key : Field → String
  | .required key _ => key
  | .optional key _ => key

abbrev Value : Field → Type
  | .required _ form => form.Value
  | .optional _ form => Option form.Value

/-- The value of a field that does not occur, if it need not. -/
def absent? : (field : Field) → Option field.Value
  | .required _ _ => none
  | .optional _ _ => some none

/-- The value of a field as JSON, unless it is to be left out. -/
def write? : (field : Field) → field.Value → Option (List Char)
  | .required _ form, value => some (form.write value)
  | .optional _ form, value => value.map form.write

end Field

/-- A value for each field, in order. -/
abbrev Tuple : List Field → Type
  | [] => Unit
  | field :: fields => field.Value × Tuple fields

/-- The members of an object with these values: keys and values as JSON. -/
def members : (fields : List Field) → Tuple fields → List (String × List Char)
  | [], _ => []
  | field :: fields, (value, values) =>
    match field.write? value with
    | some written => (field.key, written) :: members fields values
    | none => members fields values

/-- The rejection of the value at the start of the text, where `expected` is due. Words,
strings and numbers are read to the end before they are found to be of the wrong kind. -/
def rejectValue (expected : String) (cs : List Char) : Rejection :=
  let wrong (found : Found) : Rejection := .mismatch (.invalidType found expected)
  let word (letters : List Char) (rest : List Char) (found : Found) : Rejection :=
    match readWord letters rest with
    | .ok _ => wrong found
    | .error rejection => rejection
  match cs with
  | [] => .truncated
  | 'n' :: rest => word "ull".toList rest .null
  | 't' :: rest => word "rue".toList rest (.boolean true)
  | 'f' :: rest => word "alse".toList rest (.boolean false)
  | '[' :: _ => wrong .sequence
  | '\x7b' :: _ => wrong .map
  | '"' :: rest =>
    match readString rest with
    | .ok (value, _) => wrong (.text value)
    | .error rejection => rejection
  | c :: rest =>
    if c = '-' ∨ c.isDigit then
      match readNumber (c :: rest) with
      | .ok (.integer value, _) => wrong (.integer value)
      | .ok (.real value, _) => wrong (.real value)
      | .error rejection => rejection
    else
      .malformed

def readText (cs : List Char) : Reading String :=
  match cs with
  | '"' :: rest => readString rest
  | _ => .error (rejectValue Form.text.describe cs)

def readCount (width : Nat) (cs : List Char) : Reading (BitVec width) :=
  match cs with
  | [] => .error .truncated
  | c :: rest =>
    if c = '-' ∨ c.isDigit then
      (readNumber (c :: rest)).andThen fun number rest =>
        match number with
        | .integer value =>
          match Numeral.fitInt? width value with
          | some count => .ok (count, rest)
          | none =>
            .error (.mismatch (.invalidValue (.integer value) (Form.count width).describe))
        | .real value =>
          .error (.mismatch (.invalidType (.real value) (Form.count width).describe))
    else
      .error (rejectValue (Form.count width).describe cs)

/-- Read a value of a form, which blanks may precede. -/
def Form.read (form : Form) (cs : List Char) : Reading form.Value :=
  match form with
  | .text => readText (dropBlanks cs)
  | .count width => readCount width (dropBlanks cs)

def Field.read (field : Field) (cs : List Char) : Reading field.Value :=
  match field with
  | .required _ form => form.read cs
  | .optional _ form =>
    match dropBlanks cs with
    | 'n' :: rest =>
      match readWord "ull".toList rest with
      | .ok rest => .ok (none, rest)
      | .error rejection => .error rejection
    | _ => (form.read cs).map some

theorem readText_leavesBelow (cs : List Char) :
    Reading.LeavesBelow cs.length (readText cs) := by
  unfold readText
  split
  · exact (readString_leavesBelow _).mono (Nat.le_succ _)
  · exact .error _ _

theorem readCount_leavesBelow (width : Nat) (cs : List Char) :
    Reading.LeavesBelow cs.length (readCount width cs) := by
  unfold readCount
  split
  · exact .error _ _
  · split
    · refine (readNumber_leavesBelow _).andThen fun number rest less => ?_
      split
      · split
        · exact .ok less
        · exact .error _ _
      · exact .error _ _
    · exact .error _ _

theorem Form.read_leavesBelow (form : Form) (cs : List Char) :
    Reading.LeavesBelow cs.length (form.read cs) := by
  cases form with
  | text => exact (readText_leavesBelow _).mono (dropBlanks_length_le cs)
  | count width => exact (readCount_leavesBelow width _).mono (dropBlanks_length_le cs)

theorem Field.read_leavesBelow (field : Field) (cs : List Char) :
    Reading.LeavesBelow cs.length (field.read cs) := by
  cases field with
  | required key form => exact form.read_leavesBelow cs
  | optional key form =>
    unfold Field.read
    split
    · rename_i start
      split
      · rename_i word
        exact .ok (Nat.lt_of_le_of_lt (readWord_length_le word) (length_lt_of_dropBlanks start))
      · exact .error _ _
    · exact (form.read_leavesBelow cs).map _

end WorkerSettings.Json

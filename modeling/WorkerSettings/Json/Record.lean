import WorkerSettings.Json.Field
import WorkerSettings.Json.Skip

/-!
# Records

A record is read from an object, whose members may come in any order among unknown ones,
or from a list, whose elements are the fields in order. The values are checked as soon as
the closing bracket is read, before anything that follows it.
-/

namespace WorkerSettings.Json

/-- A kind of record: its name in messages, its fields, their values in a record, and what
values make a record. -/
structure Shape (α : Type) where
  name : String
  fields : List Field
  toTuple : α → Tuple fields
  ofTuple : Tuple fields → Except Fault α

/-- The values that the members read so far have given the fields. -/
abbrev Draft : List Field → Type
  | [] => Unit
  | field :: fields => Option field.Value × Draft fields

def Draft.empty : (fields : List Field) → Draft fields
  | [] => ()
  | _ :: fields => (none, Draft.empty fields)

def readColon (cs : List Char) : Except Rejection (List Char) :=
  match dropBlanks cs with
  | [] => .error .truncated
  | ':' :: rest => .ok rest
  | _ :: _ => .error .malformed

/-- Read the colon and the value of the member `key` into the draft. A key of the record
that occurs again is rejected before its colon; the value of an unknown key is passed
over. -/
def Draft.readMember : {fields : List Field} → Draft fields → String → List Char →
    Reading (Draft fields)
  | [], draft, _, cs =>
    match readColon cs with
    | .error rejection => .error rejection
    | .ok afterColon =>
      match skipValue afterColon with
      | .error rejection => .error rejection
      | .ok rest => .ok (draft, rest)
  | field :: _, (slot, draft), key, cs =>
    if key = field.key then
      match slot with
      | some _ => .error (.mismatch (.duplicateField key))
      | none =>
        match readColon cs with
        | .error rejection => .error rejection
        | .ok afterColon => (field.read afterColon).map fun value => (some value, draft)
    else
      (readMember draft key cs).map fun draft => (slot, draft)

/-- The values of the fields, once all members are read. The first field in order that
needs a value and has none is missing. -/
def Draft.finish : {fields : List Field} → Draft fields → Except Mismatch (Tuple fields)
  | [], _ => .ok ()
  | field :: _, (slot, draft) =>
    match slot.or field.absent? with
    | none => .error (.missingField field.key)
    | some value =>
      match finish draft with
      | .ok values => .ok (value, values)
      | .error mismatch => .error mismatch

theorem readColon_length_lt {cs rest : List Char} (read : readColon cs = .ok rest) :
    rest.length < cs.length := by
  unfold readColon at read
  split at read
  · cases read
  · rename_i start
    cases read
    exact length_lt_of_dropBlanks start
  · cases read

theorem Draft.readMember_leavesBelow {fields : List Field} (draft : Draft fields) (key : String)
    (cs : List Char) : Reading.LeavesBelow cs.length (draft.readMember key cs) := by
  induction fields with
  | nil =>
    unfold readMember
    split
    · exact .error _ _
    · rename_i colon
      split
      · exact .error _ _
      · rename_i value
        have := readColon_length_lt colon
        have := skipValue_length_lt value
        exact .ok (by omega)
  | cons field fields ih =>
    obtain ⟨slot, draft⟩ := draft
    unfold readMember
    split
    · split
      · exact .error _ _
      · split
        · exact .error _ _
        · rename_i colon
          have := readColon_length_lt colon
          exact ((field.read_leavesBelow _).map _).mono (Nat.le_of_lt this)
    · exact (ih draft).map _

-- The matches are named for the bounds under `decreasing_by`; not every branch needs them.
set_option linter.unusedVariables false in
/-- Read members up to and with the closing bracket. -/
def readMembers {fields : List Field} (draft : Draft fields) (cs : List Char) :
    Reading (Draft fields) :=
  match start : dropBlanks cs with
  | [] => .error .truncated
  | '"' :: rest =>
    match name : readString rest with
    | .error rejection => .error rejection
    | .ok (key, afterKey) =>
      match member : draft.readMember key afterKey with
      | .error rejection => .error rejection
      | .ok (extended, afterMember) =>
        match next : dropBlanks afterMember with
        | [] => .error .truncated
        | ',' :: rest => readMembers extended rest
        | '\x7d' :: rest => .ok (extended, rest)
        | _ :: _ => .error .malformed
  | _ :: _ => .error .malformed
termination_by cs.length
decreasing_by
  have := length_lt_of_dropBlanks start
  have := readString_leavesBelow _ name
  have := draft.readMember_leavesBelow _ _ member
  have := length_lt_of_dropBlanks next
  omega

theorem readMembers_step {fields : List Field} (draft : Draft fields) (cs : List Char) :
    readMembers draft cs =
      match dropBlanks cs with
      | [] => .error .truncated
      | '"' :: rest =>
        (readString rest).andThen fun key afterKey =>
          (draft.readMember key afterKey).andThen fun extended afterMember =>
            match dropBlanks afterMember with
            | [] => .error .truncated
            | ',' :: rest => readMembers extended rest
            | '\x7d' :: rest => .ok (extended, rest)
            | _ :: _ => .error .malformed
      | _ :: _ => .error .malformed := by
  rw [readMembers.eq_def]
  split <;> simp [*]
  split <;> simp [*]
  split <;> simp [*]
  split <;> simp [*]

/-- Read an object after its opening bracket. -/
def readObject (fields : List Field) (cs : List Char) : Reading (Tuple fields) :=
  let read : Reading (Draft fields) :=
    match dropBlanks cs with
    | '\x7d' :: rest => .ok (.empty fields, rest)
    | _ => readMembers (.empty fields) cs
  read.andThen fun draft rest =>
    match draft.finish with
    | .ok values => .ok (values, rest)
    | .error mismatch => .error (.mismatch mismatch)

/-- Where the next element of a list starts: `none` at the closing bracket. Elements after
the first follow a comma. -/
def nextElement (first : Bool) (cs : List Char) : Except Rejection (Option (List Char)) :=
  match dropBlanks cs with
  | [] => .error .truncated
  | ']' :: _ => .ok none
  | c :: rest =>
    if first then .ok (some (c :: rest))
    else if c = ',' then .ok (some rest)
    else .error .malformed

/-- Read the elements of a list as the fields from the one at `index` on, up to the
closing bracket, in a record of `size` fields. A field without an element takes the value
of a field that does not occur. -/
def readElements (record : String) (size : Nat) : (fields : List Field) → (index : Nat) →
    (first : Bool) → List Char → Reading (Tuple fields)
  | [], _, _, cs => .ok ((), cs)
  | field :: fields, index, first, cs =>
    match nextElement first cs with
    | .error rejection => .error rejection
    | .ok (some start) =>
      (field.read start).andThen fun value rest =>
        (readElements record size fields (index + 1) false rest).map fun values =>
          (value, values)
    | .ok none =>
      match field.absent? with
      | some value =>
        (readElements record size fields (index + 1) first cs).map fun values => (value, values)
      | none => .error (.mismatch (.invalidLength index record size))

/-- Read a list after its opening bracket. -/
def readList (record : String) (fields : List Field) (cs : List Char) : Reading (Tuple fields) :=
  (readElements record fields.length fields 0 true cs).andThen fun values rest =>
    match dropBlanks rest with
    | [] => .error .truncated
    | ']' :: rest => .ok (values, rest)
    | _ :: _ => .error .malformed

namespace Shape

variable {α : Type}

def describe (shape : Shape α) : String :=
  "struct " ++ shape.name

/-- Read the record at the start of the text. -/
def readRecord (shape : Shape α) (cs : List Char) : Reading α :=
  let read : Reading (Tuple shape.fields) :=
    match dropBlanks cs with
    | '\x7b' :: rest => readObject shape.fields rest
    | '[' :: rest => readList shape.describe shape.fields rest
    | cs => .error (rejectValue shape.describe cs)
  read.andThen fun values rest =>
    match shape.ofTuple values with
    | .ok record => .ok (record, rest)
    | .error fault => .error (.mismatch (.refused fault))

/-- Read a text that holds one record and blanks. -/
def read (shape : Shape α) (cs : List Char) : Except Rejection α :=
  match shape.readRecord cs with
  | .error rejection => .error rejection
  | .ok (record, rest) =>
    match dropBlanks rest with
    | [] => .ok record
    | _ :: _ => .error .malformed

end Shape

end WorkerSettings.Json

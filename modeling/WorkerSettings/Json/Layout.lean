import WorkerSettings.Json.Record

/-!
# Writing records

A record is written as an object with its members in the order of the fields, those
without a value left out: on one line without blanks, or with a line for each member. The
two layouts differ only in the blanks before each member, after each colon and before the
closing bracket.
-/

namespace WorkerSettings.Json

structure Layout where
  /-- Before each member. -/
  indent : List Char
  /-- After each colon. -/
  gap : List Char
  /-- Before the closing bracket. -/
  outdent : List Char

namespace Layout

def compact : Layout where
  indent := []
  gap := []
  outdent := []

/-- A line for each member, two spaces in. -/
def pretty : Layout where
  indent := ['\n', ' ', ' ']
  gap := [' ']
  outdent := ['\n']

/-- One member: its key and its value, which is JSON already. -/
def writeMember (layout : Layout) (key : String) (value : List Char) : List Char :=
  layout.indent ++ quote key ++ ':' :: layout.gap ++ value

def writeMembers (layout : Layout) : List (String × List Char) → List Char
  | [] => []
  | [(key, value)] => layout.writeMember key value
  | (key, value) :: next :: members =>
    layout.writeMember key value ++ ',' :: layout.writeMembers (next :: members)

def writeObject (layout : Layout) (members : List (String × List Char)) : List Char :=
  '\x7b' :: layout.writeMembers members ++ layout.outdent ++ ['\x7d']

end Layout

def Shape.write {α : Type} (shape : Shape α) (layout : Layout) (record : α) : List Char :=
  layout.writeObject (members shape.fields (shape.toTuple record))

end WorkerSettings.Json

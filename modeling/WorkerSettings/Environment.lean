import WorkerSettings.Snapshot

/-!
# The environment of a process

Variables with values of bytes. A value need not be text, and a variable whose value is
not UTF-8 reads as not set.

An environment is handed over as entries `name=value`, and a read finds what follows
`name=` in the first entry that has it. The name of an entry runs to the first equals sign
after its first character, so a name that is handed over with an equals sign becomes part
of the value, and a name that is read with one reaches into a value: where `A` is `B=1`,
reading `A=B` gives `1`.
-/

namespace WorkerSettings

/-- The variables of a process, each with the bytes of its value. Of two entries with one
name the first counts. -/
structure Environment where
  entries : List (String × ByteArray)

namespace Environment

def empty : Environment where
  entries := []

def value? (env : Environment) (name : String) : Option ByteArray :=
  env.entries.lookup name

/-- Give a variable a value, in place of the one it had. -/
def set (env : Environment) (name : String) (value : ByteArray) : Environment where
  entries := (name, value) :: env.entries.eraseP (·.1 == name)

def unset (env : Environment) (name : String) : Environment where
  entries := env.entries.filter (·.1 != name)

/-- The entry of the bytes `name=value`, if they have a name and the name is text. -/
def entry? (bytes : List UInt8) : Option (String × ByteArray) :=
  match bytes with
  | [] => none
  | first :: rest =>
    match rest.dropWhile (· != 0x3D) with
    | [] => none
    | _ :: value =>
      (String.fromUTF8? (first :: rest.takeWhile (· != 0x3D)).toByteArray).map
        (·, value.toByteArray)

def ofEntries (entries : List (List UInt8)) : Environment where
  entries := entries.filterMap entry?

/-- The environment of entries that each end in a zero byte. -/
def ofBlock (block : ByteArray) : Environment :=
  ofEntries (block.data.toList.splitOnP (· == 0))

/-- The environment of names and values that are handed over as entries. -/
def ofList (pairs : List (String × ByteArray)) : Environment :=
  ofEntries (pairs.map fun pair => pair.1.toUTF8.data.toList ++ 0x3D :: pair.2.data.toList)

/-- What follows the bytes `head` in `bytes`, if `bytes` begins with them. -/
def dropHead? (head bytes : ByteArray) : Option ByteArray :=
  (head.data.toList.isPrefixOf? bytes.data.toList).map List.toByteArray

/-- The name that an entry of the text could have, and what the text has after the equals
sign that ends it. -/
def splitName (name : String) : String × List Char :=
  match name.toList with
  | [] => ("", [])
  | first :: rest =>
    (String.ofList (first :: rest.takeWhile (· != '=')), (rest.dropWhile (· != '=')).drop 1)

/-- What a name that holds an equals sign reaches: the value of an entry has to begin with
the rest of the name and one more equals sign. -/
def within? (env : Environment) (name : String) : Option ByteArray :=
  let (stem, inner) := splitName name
  env.entries.findSome? fun entry =>
    if entry.1 = stem then dropHead? (String.ofList (inner ++ ['='])).toUTF8 entry.2 else none

/-- An equals sign stands after the first character of the name. -/
def isWithin (name : String) : Bool :=
  name.toList.tail.contains '='

/-- What follows `name=` in the entries. -/
def read? (env : Environment) (name : String) : Option ByteArray :=
  if isWithin name then env.within? name else env.value? name

/-- The text of a variable. A value that is not UTF-8 counts as not set. -/
def text? (env : Environment) (name : String) : Option String :=
  (env.read? name).bind String.fromUTF8?

instance : Snapshot Environment where
  text? := text?

theorem lookup_eraseP_of_ne (entries : List (String × ByteArray)) {name other : String}
    (ne : other ≠ name) :
    (entries.eraseP (·.1 == name)).lookup other = entries.lookup other := by
  induction entries with
  | nil => rfl
  | cons entry entries ih =>
    obtain ⟨key, value⟩ := entry
    by_cases same : key = name
    · have differs : (other == name) = false := by simp [ne]
      simp [same, List.lookup_cons, differs]
    · simp [same, List.lookup_cons, ih]

@[simp] theorem value?_set_self (env : Environment) (name : String) (value : ByteArray) :
    (env.set name value).value? name = some value := by
  simp [value?, set]

theorem value?_set_of_ne (env : Environment) {name other : String} (value : ByteArray)
    (ne : other ≠ name) : (env.set name value).value? other = env.value? other := by
  have differs : (other == name) = false := by simp [ne]
  simp [value?, set, List.lookup_cons, differs, lookup_eraseP_of_ne env.entries ne]

/-- The text of a variable whose name holds no equals sign is that of its value. -/
theorem text?_eq (env : Environment) {name : String} (plain : '=' ∉ name.toList) :
    env.text? name = (env.value? name).bind String.fromUTF8? := by
  have outside : isWithin name = false := by
    simpa [isWithin] using fun found => plain (List.mem_of_mem_tail found)
  simp [text?, read?, outside]

end Environment

end WorkerSettings

import WorkerSettings.Text.Blank
import WorkerSettings.EnvFile.Template

/-!
# Assignments of an environment file

A logical line is blank, a comment, or an assignment `name=value`, which the word `export`
may precede. A missing name or equals sign is reported by the number of bytes before it in
the line, a flaw of the value by its place in the value.
-/

namespace WorkerSettings.EnvFile

structure Assignment where
  name : String
  value : Template
  deriving DecidableEq

namespace Assignment

def isNameStart (c : Char) : Bool :=
  c.isAlpha || c == '_'

def isNameRest (c : Char) : Bool :=
  c.isAlphanum || c == '_' || c == '.'

/-- The name at the start of the text and what follows it; a failure gives what was left. -/
def readName (cs : List Char) : Except (List Char) (List Char × List Char) :=
  match cs with
  | [] => .error []
  | c :: rest =>
    if isNameStart c then
      .ok (c :: rest.takeWhile isNameRest, rest.dropWhile isNameRest)
    else
      .error (c :: rest)

/-- What follows an equals sign, which blanks may precede; a failure gives what was left
after the blanks. -/
def readEquals (cs : List Char) : Except (List Char) (List Char) :=
  match Text.trimStart cs with
  | '=' :: rest => .ok rest
  | cs => .error cs

/-- The name and the equals sign of an assignment, and what follows. The word `export` is
a name like any other where an equals sign follows it. -/
def readTarget (cs : List Char) : Except (List Char) (List Char × List Char) := do
  let (name, afterName) ← readName cs
  match readEquals afterName with
  | .ok rest => return (name, rest)
  | .error left =>
    if name = "export".toList then
      let (name, afterName) ← readName left
      return (name, ← readEquals afterName)
    else
      throw left

/-- Nothing but a comment is left. -/
def isVoid (cs : List Char) : Bool :=
  match cs with
  | [] => true
  | c :: _ => c == '#'

/-- The assignment of a logical line, if there is one, or the position of its flaw. -/
def ofLine (line : List Char) : Except Nat (Option Assignment) :=
  let line := Text.trimEnd line
  let start := Text.trimStart line
  if isVoid start then
    .ok none
  else
    match readTarget start with
    | .error left => .error (Text.byteLength line - Text.byteLength left)
    | .ok (name, rest) =>
      let value := Text.trimStart rest
      if isVoid value then
        .ok (some ⟨String.ofList name, []⟩)
      else
        match Template.parse value with
        | .ok template => .ok (some ⟨String.ofList name, template⟩)
        | .error position => .error position

end Assignment

end WorkerSettings.EnvFile

import WorkerSettings.Text.Alphanumeric
import WorkerSettings.Text.ByteLength

/-!
# Values of an environment file

The value of an assignment is written with quotes, escapes and references to variables.
It is read as a template, characters and references, without looking at any variable, so
whether a value is well formed never depends on what a variable holds. Expanding a
template puts the values of the variables in the places of the references.
-/

namespace WorkerSettings.EnvFile

inductive Piece
  | literal (c : Char)
  | reference (name : String)
  deriving DecidableEq

/-- A value whose references are not yet replaced. -/
abbrev Template : Type :=
  List Piece

namespace Template

/-- The value of a template: a variable that is not set counts as empty. -/
def expand (text? : String → Option String) (template : Template) : String :=
  String.ofList (template.flatMap fun
    | .literal c => [c]
    | .reference name => ((text? name).getD "").toList)

/-- What the characters before it make of the next character of a value. A `quoted` mode
goes back into double quotes. -/
inductive Mode
  | plain
  /-- After an unquoted blank: only blanks and a comment may follow. -/
  | ended
  | single
  | double
  | escape (quoted : Bool)
  /-- In a reference after `$`. -/
  | name (quoted : Bool) (sofar : List Char)
  /-- In a reference between braces. -/
  | braced (quoted : Bool) (sofar : List Char)

inductive Move
  | go (pieces : List Piece) (mode : Mode)
  /-- A comment begins and the value ends. -/
  | stop
  | refuse

namespace Mode

/-- The mode around an escape or a reference. -/
def around (quoted : Bool) : Mode :=
  if quoted then .double else .plain

def unescape? (c : Char) : Option Char :=
  if c = '\\' ∨ c = '\'' ∨ c = '"' ∨ c = '$' ∨ c = ' ' then some c
  else if c = 'n' then some '\n'
  else none

def reference (sofar : List Char) : Piece :=
  .reference (String.ofList sofar)

/-- What a character does. A name after `$` ends at the first character that is neither
letter nor numeral; that character stands for itself, whatever it is, unless it is a `$`
that starts the next reference. -/
def step : Mode → Char → Move
  | .plain, c =>
    if c = '$' then .go [] (.name false [])
    else if c = '\'' then .go [] .single
    else if c = '"' then .go [] .double
    else if c = '\\' then .go [] (.escape false)
    else if c = ' ' ∨ c = '\t' then .go [] .ended
    else .go [.literal c] .plain
  | .ended, c =>
    if c = ' ' ∨ c = '\t' then .go [] .ended
    else if c = '#' then .stop
    else .refuse
  | .single, c =>
    if c = '\'' then .go [] .plain else .go [.literal c] .single
  | .double, c =>
    if c = '$' then .go [] (.name true [])
    else if c = '"' then .go [] .plain
    else if c = '\\' then .go [] (.escape true)
    else .go [.literal c] .double
  | .escape quoted, c =>
    match unescape? c with
    | some char => .go [.literal char] (around quoted)
    | none => .refuse
  | .name quoted sofar, c =>
    if Text.isAlphanumeric c then .go [] (.name quoted (sofar ++ [c]))
    else if c = '\x7b' ∧ sofar = [] then .go [] (.braced quoted [])
    else if c = '$' then .go [reference sofar] (.name quoted [])
    else .go [reference sofar, .literal c] (around quoted)
  | .braced quoted sofar, c =>
    if c = '\x7d' then .go [reference sofar] (around quoted)
    else .go [] (.braced quoted (sofar ++ [c]))

/-- What the end of the value adds, or `none` where it may not end. A backslash at the end
counts for nothing. -/
def finish? : Mode → Option (List Piece)
  | .plain | .ended | .escape false => some []
  | .name false sofar => some [reference sofar]
  | .single | .double | .escape true | .name true _ | .braced _ _ => none

end Mode

inductive Flaw
  /-- The character at an index may not stand there. -/
  | character (index : Nat)
  /-- A quote or a brace is left open. -/
  | unterminated
  deriving DecidableEq

/-- Read the rest of a value, the character at `index` being next. -/
def read (mode : Mode) (index : Nat) : List Char → Except Flaw Template
  | [] =>
    match mode.finish? with
    | some pieces => .ok pieces
    | none => .error .unterminated
  | c :: cs =>
    match mode.step c with
    | .go pieces next => (read next (index + 1) cs).map (pieces ++ ·)
    | .stop => .ok []
    | .refuse => .error (.character index)

/-- Read a value. A flaw is reported by the index of its character, and what is left open
by the last byte of the value. -/
def parse (cs : List Char) : Except Nat Template :=
  match read .plain 0 cs with
  | .ok template => .ok template
  | .error (.character index) => .error index
  | .error .unterminated => .error (Text.byteLength cs - 1)

end Template

end WorkerSettings.EnvFile

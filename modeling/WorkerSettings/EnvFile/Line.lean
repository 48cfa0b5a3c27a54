import WorkerSettings.Text.Blank
import WorkerSettings.Text.ByteLength

/-!
# Lines of an environment file

A physical line ends with its line feed. A logical line is one or more physical lines: it
goes on while a quote is open, or the last character was a backslash or an unquoted blank.
An unquoted blank before `#` cuts a logical line off, and a line whose first character
that is not blank is `#` counts for nothing, whatever has been gathered for it.

A physical line is decoded when it is reached, so the lines before one that is not UTF-8
stand.
-/

namespace WorkerSettings.EnvFile

inductive Ending
  /-- The whole file was read. -/
  | complete
  /-- The file is malformed at a position. -/
  | malformed (position : Nat)
  /-- A physical line is not UTF-8. -/
  | notText
  deriving DecidableEq

/-- The physical lines of a file, each with its line feed. -/
def physicalLines : List UInt8 → List (List UInt8)
  | [] => []
  | byte :: bytes =>
    if byte = 0x0A then
      [byte] :: physicalLines bytes
    else
      match physicalLines bytes with
      | [] => [[byte]]
      | line :: lines => (byte :: line) :: lines

def decodeLine (line : List UInt8) : Option (List Char) :=
  (String.fromUTF8? line.toByteArray).map String.toList

/-- What the characters before it make of the next character of a logical line. -/
inductive Quoting
  | plain
  /-- After an unquoted blank. -/
  | blank
  | escape
  | double
  | doubleEscape
  | single
  | singleEscape
  deriving DecidableEq

namespace Quoting

/-- What an unquoted character leads to, but for a blank. -/
def unquoted (c : Char) : Quoting :=
  if c = '\\' then .escape else if c = '"' then .double else if c = '\'' then .single else .plain

/-- What a character leads to, or `none` where it starts a comment. -/
def next? (quoting : Quoting) (c : Char) : Option Quoting :=
  match quoting with
  | .plain =>
    if Text.isBlank c ∧ c ≠ '\n' ∧ c ≠ '\r' then some .blank else some (unquoted c)
  | .blank => if c = '#' then none else some (unquoted c)
  | .escape => some .plain
  | .double => some (if c = '\\' then .doubleEscape else if c = '"' then .plain else .double)
  | .doubleEscape => some .double
  | .single => some (if c = '\\' then .singleEscape else if c = '\'' then .plain else .single)
  | .singleEscape => some .single

end Quoting

/-- How a physical line leaves the logical line that it belongs to. -/
inductive LineEnd
  /-- Cut off by a comment, after the characters `before` it. -/
  | comment (before : List Char)
  | quoting (quoting : Quoting)

def scanLine (quoting : Quoting) : List Char → LineEnd
  | [] => .quoting quoting
  | c :: cs =>
    match quoting.next? c with
    | none => .comment []
    | some next =>
      match scanLine next cs with
      | .comment before => .comment (c :: before)
      | .quoting last => .quoting last

/-- A line without its line feed, and without a carriage return before that. -/
def dropLineBreak (cs : List Char) : List Char :=
  match cs.reverse with
  | '\n' :: '\r' :: rest => rest.reverse
  | '\n' :: rest => rest.reverse
  | _ => cs

/-- The first character that is not blank is `#`. -/
def isComment (cs : List Char) : Bool :=
  (Text.trimStart cs).head? == some '#'

/-- The logical lines of the physical lines that are left, where `gathered` belongs to the
first of them already, and how they end. -/
def logicalLines (quoting : Quoting) (gathered : List Char) :
    List (List UInt8) → List (List Char) × Ending
  | [] => ([], if quoting = .plain then .complete else .malformed (Text.byteLength gathered))
  | bytes :: more =>
    match decodeLine bytes with
    | none => ([], .notText)
    | some line =>
      if isComment (gathered ++ line) then
        logicalLines .plain [] more
      else
        match scanLine quoting line with
        | .comment before =>
          let (lines, ending) := logicalLines .plain [] more
          ((gathered ++ before) :: lines, ending)
        | .quoting .plain =>
          let (lines, ending) := logicalLines .plain [] more
          (dropLineBreak (gathered ++ line) :: lines, ending)
        | .quoting quoting => logicalLines quoting (gathered ++ line) more

end WorkerSettings.EnvFile

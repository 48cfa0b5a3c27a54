import WorkerSettings.Text.ByteLength
import WorkerSettings.Json.Blank

/-!
# Strings of JSON

Writing escapes the quote, the backslash and the control characters below `U+0020`, and
nothing else. Reading goes in two steps. `scan` finds the end of a string and accepts any
code unit of four hexadecimal digits; that is all there is to passing over a string.
`join` pairs the surrogates among the code units, and a surrogate without its partner
makes a string that is read malformed.
-/

namespace WorkerSettings.Json

def escapedChar (c : Char) : List Char :=
  match c with
  | '"' => ['\\', '"']
  | '\\' => ['\\', '\\']
  | '\x08' => ['\\', 'b']
  | '\t' => ['\\', 't']
  | '\n' => ['\\', 'n']
  | '\x0c' => ['\\', 'f']
  | '\r' => ['\\', 'r']
  | _ =>
    if c.toNat < 0x20 then
      ['\\', 'u', '0', '0', Nat.digitChar (c.toNat / 16), Nat.digitChar (c.toNat % 16)]
    else
      [c]

/-- A string between its quotes. -/
def quote (s : String) : List Char :=
  '"' :: s.toList.flatMap escapedChar ++ ['"']

/-- The value of a hexadecimal digit of either case. -/
def hexValue? (c : Char) : Option Nat :=
  if '0' ≤ c ∧ c ≤ '9' then some (c.toNat - '0'.toNat)
  else if 'a' ≤ c ∧ c ≤ 'f' then some (c.toNat - 'a'.toNat + 10)
  else if 'A' ≤ c ∧ c ≤ 'F' then some (c.toNat - 'A'.toNat + 10)
  else none

def codeUnit? (a b c d : Char) : Option Nat := do
  let a ← hexValue? a
  let b ← hexValue? b
  let c ← hexValue? c
  let d ← hexValue? d
  return ((a * 16 + b) * 16 + c) * 16 + d

def unescape? : Char → Option Char
  | '"' => some '"'
  | '\\' => some '\\'
  | '/' => some '/'
  | 'b' => some '\x08'
  | 'f' => some '\x0c'
  | 'n' => some '\n'
  | 'r' => some '\r'
  | 't' => some '\t'
  | _ => none

/-- A part of a string: a character, or a code unit that may be a surrogate. -/
inductive Piece
  | char (c : Char)
  | unit (value : Nat)

/-- The parts of a string and its end: what follows the closing quote, or the first thing
that is wrong before it. -/
structure Scan where
  pieces : List Piece
  ending : Except Rejection (List Char)

namespace Scan

def fail (rejection : Rejection) : Scan where
  pieces := []
  ending := .error rejection

def cons (piece : Piece) (scan : Scan) : Scan where
  pieces := piece :: scan.pieces
  ending := scan.ending

@[simp] theorem ending_fail (rejection : Rejection) : (fail rejection).ending = .error rejection :=
  rfl

@[simp] theorem ending_cons (piece : Piece) (scan : Scan) :
    (cons piece scan).ending = scan.ending := rfl

end Scan

/-- Read a string after its opening quote, up to and with its closing one. An escape of a
code unit that fewer than four bytes are left for ends too early. -/
def scan : List Char → Scan
  | [] => .fail .truncated
  | '"' :: rest => { pieces := [], ending := .ok rest }
  | ['\\'] => .fail .truncated
  | '\\' :: 'u' :: a :: b :: c :: d :: rest =>
    match codeUnit? a b c d with
    | some value => .cons (.unit value) (scan rest)
    | none => .fail .malformed
  | '\\' :: 'u' :: rest =>
    if Text.byteLength rest < 4 then .fail .truncated else .fail .malformed
  | '\\' :: letter :: rest =>
    match unescape? letter with
    | some c => .cons (.char c) (scan rest)
    | none => .fail .malformed
  | c :: rest => if c.toNat < 0x20 then .fail .malformed else .cons (.char c) (scan rest)

def isHighSurrogate (unit : Nat) : Bool :=
  0xD800 ≤ unit && unit ≤ 0xDBFF

def isLowSurrogate (unit : Nat) : Bool :=
  0xDC00 ≤ unit && unit ≤ 0xDFFF

def pairedChar (high low : Nat) : Char :=
  Char.ofNat ((high - 0xD800) * 0x400 + (low - 0xDC00) + 0x10000)

/-- The string of the parts, and what follows it. A surrogate is missed only when what
comes after it has been read. -/
def join (ending : Except Rejection (List Char)) :
    List Piece → Reading (List Char)
  | [] => ending.map ([], ·)
  | .char c :: pieces => (join ending pieces).map (c :: ·)
  | .unit value :: pieces =>
    if isLowSurrogate value then
      .error .malformed
    else if isHighSurrogate value then
      match pieces with
      | .unit next :: pieces =>
        if isLowSurrogate next then
          (join ending pieces).map (pairedChar value next :: ·)
        else
          .error .malformed
      | .char _ :: _ => .error .malformed
      | [] => ending.bind fun _ => .error .malformed
    else
      (join ending pieces).map (Char.ofNat value :: ·)

/-- Read a string after its opening quote. -/
def readString (cs : List Char) : Reading String :=
  (join (scan cs).ending (scan cs).pieces).map String.ofList

def skipString (cs : List Char) : Except Rejection (List Char) :=
  (scan cs).ending

theorem skipString_length_lt {cs rest : List Char} (read : skipString cs = .ok rest) :
    rest.length < cs.length := by
  unfold skipString at read
  fun_induction scan cs <;> simp_all [Scan.fail, Scan.cons] <;> omega

theorem join_leavesBelow {ending : Except Rejection (List Char)} {bound : Nat}
    (less : ∀ rest, ending = .ok rest → rest.length < bound) (pieces : List Piece) :
    Reading.LeavesBelow bound (join ending pieces) := by
  fun_induction join ending pieces with
  | case1 =>
    cases ending with
    | error rejection => exact .error _ _
    | ok rest => exact .ok (less rest rfl)
  | case2 c pieces ih => exact ih.map _
  | case3 => exact .error _ _
  | case4 value next pieces _ _ _ ih => exact ih.map _
  | case5 => exact .error _ _
  | case6 => exact .error _ _
  | case7 =>
    cases ending with
    | error rejection => exact .error _ _
    | ok rest => exact .error _ _
  | case8 value pieces _ _ ih => exact ih.map _

theorem readString_leavesBelow (cs : List Char) :
    Reading.LeavesBelow cs.length (readString cs) :=
  (join_leavesBelow (fun _ read => skipString_length_lt read) _).map _

end WorkerSettings.Json

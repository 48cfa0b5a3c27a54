import WorkerSettings.Numeral
import WorkerSettings.Json.Blank

/-!
# Numbers of JSON

A literal is read as its parts: sign, whole digits, fraction, exponent. Its value is an
integer when it has neither fraction nor exponent and fits 64 bits, else a binary
fraction, and a literal beyond the greatest binary fraction has no value. Passing over a
number only asks for the parts, and calls every incomplete literal malformed.
-/

namespace WorkerSettings.Json

structure Literal where
  negative : Bool
  whole : List Char
  /-- The digits after the point, if there is one. -/
  fraction : Option (List Char)
  /-- The exponent, if there is one. -/
  exponent : Option Int

namespace Literal

/-- The digits at the start of the text and what follows them. -/
def digits (cs : List Char) : List Char × List Char :=
  (cs.takeWhile Char.isDigit, cs.dropWhile Char.isDigit)

/-- The digits at the start of the text, of which there has to be one. -/
def readDigits (cs : List Char) : Reading (List Char) :=
  match cs with
  | [] => .error .truncated
  | c :: _ => if c.isDigit then .ok (digits cs) else .error .malformed

/-- The digits before the point. A leading zero stands alone. -/
def readWhole (cs : List Char) : Reading (List Char) :=
  (readDigits cs).andThen fun whole rest =>
    match whole with
    | '0' :: _ :: _ => .error .malformed
    | _ => .ok (whole, rest)

/-- A point and the digits after it, if there is a point. -/
def readFraction (cs : List Char) : Reading (Option (List Char)) :=
  match cs with
  | '.' :: rest => (readDigits rest).map some
  | _ => .ok (none, cs)

/-- The sign and the digits of an exponent. -/
def readPower (cs : List Char) : Reading Int :=
  match cs with
  | '-' :: rest => (readDigits rest).map fun power => -Numeral.value power
  | '+' :: rest => (readDigits rest).map fun power => Numeral.value power
  | _ => (readDigits cs).map fun power => Numeral.value power

def readExponent (cs : List Char) : Reading (Option Int) :=
  match cs with
  | 'e' :: rest => (readPower rest).map some
  | 'E' :: rest => (readPower rest).map some
  | _ => .ok (none, cs)

/-- What follows the sign of a literal, and whether it is a minus sign. -/
def readSign : List Char → Bool × List Char
  | '-' :: rest => (true, rest)
  | cs => (false, cs)

def read (cs : List Char) : Reading Literal :=
  (readWhole (readSign cs).2).andThen fun whole afterWhole =>
    (readFraction afterWhole).andThen fun fraction afterFraction =>
      (readExponent afterFraction).map fun exponent =>
        { negative := (readSign cs).1, whole, fraction, exponent }

end Literal

inductive Number
  | integer (value : Int)
  | real (value : Float)

/-- Add digits to a significand while it fits 64 bits; the digits that are left. -/
def significand (start : Nat) : List Char → Nat × List Char
  | [] => (start, [])
  | digit :: digits =>
    let next := 10 * start + Numeral.value [digit]
    if next < Nat.pow 2 64 then significand next digits else (start, digit :: digits)

/-- The binary fraction `10 ^ power`, for a power of at most 308. -/
def powerOfTen (power : Nat) : Float :=
  Float.ofScientific 1 false power

/-- The binary fraction near `significand * 10 ^ exponent`, unless it is too large. A
significand of 64 bits is gone after two divisions by the greatest power of ten. -/
def scaled? (significand : Nat) (exponent : Int) : Option Float :=
  let start := Float.ofScientific significand false 0
  let power := exponent.natAbs
  if 0 ≤ exponent then
    if significand = 0 then
      some start
    else if power ≤ 308 then
      let product := start * powerOfTen power
      if product.isInf then none else some product
    else
      none
  else if power ≤ 308 then
    some (start / powerOfTen power)
  else if power ≤ 616 then
    some (start / powerOfTen 308 / powerOfTen (power - 308))
  else
    some 0

/-- The value of a literal, unless it is too large. Whole digits beyond 64 bits count as
powers of ten, and digits of the fraction beyond them are passed over. A negative zero and
a negative integer beyond 64 bits are binary fractions. -/
def Literal.value? (literal : Literal) : Option Number :=
  let (whole, beyond) := significand 0 literal.whole
  let signed (x : Float) : Float := if literal.negative then -x else x
  if literal.fraction.isNone && literal.exponent.isNone && beyond.isEmpty then
    if !literal.negative then
      some (.integer whole)
    else if 0 < whole && whole ≤ Nat.pow 2 63 then
      some (.integer (-whole))
    else
      some (.real (signed (Float.ofScientific whole false 0)))
  else
    let fraction := literal.fraction.getD []
    let (total, passed) := significand whole fraction
    let shift : Int := beyond.length - (fraction.length - passed.length : Nat)
    (scaled? total (shift + literal.exponent.getD 0)).map (.real ∘ signed)

def readNumber (cs : List Char) : Reading Number :=
  (Literal.read cs).andThen fun literal rest =>
    match literal.value? with
    | some number => .ok (number, rest)
    | none => .error .malformed

def skipNumber (cs : List Char) : Except Rejection (List Char) :=
  match Literal.read cs with
  | .ok (_, rest) => .ok rest
  | .error _ => .error .malformed

namespace Literal

theorem readDigits_leavesBelow (cs : List Char) :
    Reading.LeavesBelow cs.length (readDigits cs) := by
  unfold readDigits
  split
  · exact .error _ _
  · rename_i c tail
    split
    · rename_i isDigit
      refine .ok ?_
      have bound := (List.dropWhile_suffix Char.isDigit (l := tail)).length_le
      simp only [List.dropWhile_cons, isDigit, if_true, List.length_cons]
      omega
    · exact .error _ _

theorem readWhole_leavesBelow (cs : List Char) :
    Reading.LeavesBelow cs.length (readWhole cs) := by
  refine (readDigits_leavesBelow cs).andThen fun whole rest less => ?_
  split
  · exact .error _ _
  · exact .ok less

theorem readFraction_leavesBelow (cs : List Char) :
    Reading.LeavesBelow (cs.length + 1) (readFraction cs) := by
  unfold readFraction
  split
  · exact ((readDigits_leavesBelow _).map _).mono (by simp only [List.length_cons]; omega)
  · exact .ok (Nat.lt_succ_self _)

theorem readPower_leavesBelow (cs : List Char) :
    Reading.LeavesBelow cs.length (readPower cs) := by
  unfold readPower
  split
  · exact ((readDigits_leavesBelow _).map _).mono (Nat.le_succ _)
  · exact ((readDigits_leavesBelow _).map _).mono (Nat.le_succ _)
  · exact (readDigits_leavesBelow _).map _

theorem readExponent_leavesBelow (cs : List Char) :
    Reading.LeavesBelow (cs.length + 1) (readExponent cs) := by
  unfold readExponent
  split
  · exact ((readPower_leavesBelow _).map _).mono (by simp only [List.length_cons]; omega)
  · exact ((readPower_leavesBelow _).map _).mono (by simp only [List.length_cons]; omega)
  · exact .ok (Nat.lt_succ_self _)

theorem readSign_length_le (cs : List Char) : (readSign cs).2.length ≤ cs.length := by
  unfold readSign
  split
  · exact Nat.le_succ _
  · exact Nat.le_refl _

theorem read_leavesBelow (cs : List Char) : Reading.LeavesBelow cs.length (read cs) := by
  have sign := readSign_length_le cs
  refine (readWhole_leavesBelow _).andThen fun whole afterWhole less => ?_
  refine (readFraction_leavesBelow _).andThen fun fraction afterFraction less' => ?_
  exact ((readExponent_leavesBelow _).map _).mono (by omega)

end Literal

theorem readNumber_leavesBelow (cs : List Char) :
    Reading.LeavesBelow cs.length (readNumber cs) := by
  refine (Literal.read_leavesBelow cs).andThen fun literal rest less => ?_
  split
  · exact .ok less
  · exact .error _ _

theorem skipNumber_length_lt {cs rest : List Char} (read : skipNumber cs = .ok rest) :
    rest.length < cs.length := by
  unfold skipNumber at read
  split at read
  · rename_i scanned
    cases read
    exact Literal.read_leavesBelow cs scanned
  · cases read

end WorkerSettings.Json

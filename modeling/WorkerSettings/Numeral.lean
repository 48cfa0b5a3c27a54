import WorkerSettings.Text.Blank

/-!
# Numerals

A count written in an environment variable: blanks, an optional plus sign, one or more
decimal digits with any number of leading zeros, blanks. A count has a width in bits,
and a numeral whose value does not fit the width is no numeral of that width. A minus
sign is never accepted, not even before zero, and only ASCII digits are digits.
-/

namespace WorkerSettings.Numeral

/-- The value of a run of decimal digits, the most significant one first. -/
def value (digits : List Char) : Nat :=
  Nat.ofDigitChars 10 digits 0

def digits (n : Nat) : List Char :=
  Nat.toDigits 10 n

@[simp] theorem value_digits (n : Nat) : value (digits n) = n :=
  Nat.ofDigitChars_toDigits (by decide) (by decide)

theorem isDigit_of_mem_digits {n : Nat} {c : Char} (member : c ∈ digits n) : c.isDigit = true :=
  Nat.isDigit_of_mem_toDigits (by decide) (by decide) member

def dropPlus : List Char → List Char
  | '+' :: cs => cs
  | cs => cs

/-- A number as a count of `width` bits, if it fits: the bits then still have its value. -/
def fit? (width : Nat) (n : Nat) : Option (BitVec width) :=
  if (BitVec.ofNat width n).toNat = n then some (BitVec.ofNat width n) else none

theorem fit?_eq_some_iff {width n : Nat} {count : BitVec width} :
    fit? width n = some count ↔ count.toNat = n := by
  unfold fit?
  constructor
  · intro fits
    split at fits
    · rename_i same
      cases fits
      exact same
    · cases fits
  · rintro rfl
    simp

def fitInt? (width : Nat) : Int → Option (BitVec width)
  | .ofNat n => fit? width n
  | .negSucc _ => none

theorem fitInt?_eq_some_iff {width : Nat} {n : Int} {count : BitVec width} :
    fitInt? width n = some count ↔ n = count.toNat := by
  cases n with
  | ofNat n =>
    rw [fitInt?, fit?_eq_some_iff, Int.ofNat_eq_natCast, Int.natCast_inj]
    exact eq_comm
  | negSucc n => simp [fitInt?]

/-- Read an optional plus sign and digits, all of the text, as a count of `width` bits. -/
def parse? (width : Nat) (cs : List Char) : Option (BitVec width) :=
  let ds := dropPlus cs
  if ds ≠ [] ∧ ds.all Char.isDigit = true then fit? width (value ds) else none

/-- Read a count of `width` bits between blanks. -/
def ofText? (width : Nat) (s : String) : Option (BitVec width) :=
  parse? width (Text.trim s.toList)

end WorkerSettings.Numeral

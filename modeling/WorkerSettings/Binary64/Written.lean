import WorkerSettings.Binary64.Shortest

/-!
# Binary fractions in messages

How a message shows a finite number that is no count: the shortest digits that read back,
with a point in them where the leading digit is near the units, else in scientific
notation with a signed exponent.
-/

namespace WorkerSettings.Binary64

/-- Where numbers are written with a plain point: the leading digit's least and greatest
exponent. -/
structure PointRange where
  least : Int
  greatest : Int

/-- Messages write a plain point from `0.00001` up to sixteen digits before the point. -/
def pointRange : PointRange where
  least := -5
  greatest := 15

/-- Digits with a plain point; a whole number ends in `.0`. -/
def pointed (digits : List Char) (leading : Int) : List Char :=
  if leading < 0 then
    "0.".toList ++ List.replicate (-leading - 1).toNat '0' ++ digits
  else
    let whole := leading.toNat + 1
    let fraction := digits.drop whole
    digits.take whole ++ List.replicate (whole - digits.length) '0' ++ '.' ::
      (if fraction.isEmpty then ['0'] else fraction)

def scientific (digits : List Char) (leading : Int) : List Char :=
  digits.take 1 ++ (if digits.length ≤ 1 then [] else '.' :: digits.drop 1) ++ 'e' ::
    (if leading < 0 then '-' else '+') :: Nat.toDigits 10 leading.natAbs

/-- The text of a finite number. Zero keeps its sign. -/
def written (x : Float) : String :=
  let sign := if Nat.pow 2 63 ≤ x.toBits.toNat then ['-'] else []
  let magnitude :=
    if x.toBits.toNat % Nat.pow 2 63 = 0 then
      "0.0".toList
    else
      let decimal := shortest x
      let digits := Nat.toDigits 10 decimal.digits
      let leading := decimal.exponent + digits.length - 1
      if pointRange.least ≤ leading ∧ leading ≤ pointRange.greatest then
        pointed digits leading
      else
        scientific digits leading
  String.ofList (sign ++ magnitude)

end WorkerSettings.Binary64

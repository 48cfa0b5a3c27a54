/-!
# Shortest decimals of binary fractions

A finite binary fraction is read back from any decimal that is nearer to it than to its
neighbours. Among those decimals `shortest` takes one with the fewest digits, and of
these the nearest. All of it is exact arithmetic on natural numbers: for each number of
digits the only candidates are the two neighbours of the value on that decimal grid.
-/

namespace WorkerSettings.Binary64

/-- The magnitude `mantissa * 2 ^ exponent` of a finite binary fraction. -/
structure Magnitude where
  mantissa : Nat
  exponent : Int
  /-- The neighbour below is half as far away as the neighbour above. -/
  narrowBelow : Bool

def magnitude (x : Float) : Magnitude :=
  let bits : Nat := x.toBits.toNat % Nat.pow 2 63
  let fraction : Nat := bits % Nat.pow 2 52
  let biased : Nat := bits / Nat.pow 2 52
  if biased = 0 then
    { mantissa := fraction, exponent := -1074, narrowBelow := false }
  else
    { mantissa := Nat.pow 2 52 + fraction, exponent := (biased : Int) - 1075
      narrowBelow := fraction = 0 && 1 < biased }

structure Decimal where
  digits : Nat
  exponent : Int
  deriving DecidableEq

/-- The numbers from `low / denominator` to `high / denominator` around a value, which is
`value / denominator`. The ends belong to the interval when it is `closed`. -/
structure Interval where
  low : Nat
  value : Nat
  high : Nat
  denominator : Nat
  closed : Bool

/-- The interval of numbers that are rounded to a magnitude. Ties go to even mantissas. -/
def Magnitude.interval (m : Magnitude) : Interval :=
  let below := if m.narrowBelow then 1 else 2
  let scale := Nat.pow 2 m.exponent.toNat
  { low := (4 * m.mantissa - below) * scale
    value := 4 * m.mantissa * scale
    high := (4 * m.mantissa + 2) * scale
    denominator := 4 * Nat.pow 2 (-m.exponent).toNat
    closed := m.mantissa % 2 = 0 }

namespace Interval

def holds (interval : Interval) (decimal : Decimal) : Bool :=
  let point := decimal.digits * Nat.pow 10 decimal.exponent.toNat * interval.denominator
  let unit := Nat.pow 10 (-decimal.exponent).toNat
  if interval.closed then
    interval.low * unit ≤ point && point ≤ interval.high * unit
  else
    interval.low * unit < point && point < interval.high * unit

/-- The exponent of the leading decimal digit of the value. -/
def leadingExponent (interval : Interval) : Int :=
  if interval.denominator ≤ interval.value then
    ((Nat.toDigits 10 (interval.value / interval.denominator)).length : Int) - 1
  else
    let ceiling := (interval.denominator + interval.value - 1) / interval.value
    (-(Nat.toDigits 10 (ceiling - 1)).length : Int)

/-- The best decimal of the interval among the multiples of `10 ^ exponent`: the nearer
neighbour of the value, the even one on a tie. -/
def onGrid? (interval : Interval) (exponent : Int) : Option Decimal :=
  let scaled := interval.value * Nat.pow 10 (-exponent).toNat
  let unit := interval.denominator * Nat.pow 10 exponent.toNat
  let lower : Decimal := ⟨scaled / unit, exponent⟩
  let upper : Decimal := ⟨scaled / unit + 1, exponent⟩
  let remainder := scaled % unit
  let lowerFirst :=
    2 * remainder < unit || (2 * remainder == unit && lower.digits % 2 == 0)
  let candidates := if lowerFirst then [lower, upper] else [upper, lower]
  candidates.find? interval.holds

end Interval

def Decimal.trimmed (decimal : Decimal) : Decimal :=
  let digits := Nat.toDigits 10 decimal.digits
  let kept := (digits.reverse.dropWhile (· == '0')).reverse
  ⟨Nat.ofDigitChars 10 kept 0, decimal.exponent + (digits.length - kept.length : Nat)⟩

/-- The shortest decimal that reads back as a finite number other than zero, the nearest
one where several are as short. Seventeen digits always suffice. -/
def shortest (x : Float) : Decimal :=
  let interval := (magnitude x).interval
  let leading := interval.leadingExponent
  let grids := (List.range 18).map fun (count : Nat) => leading - count
  ((grids.findSome? interval.onGrid?).getD ⟨0, 0⟩).trimmed

end WorkerSettings.Binary64

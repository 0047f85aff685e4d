/-
**The fewest decimal digits that read back.**

A finite double is a whole number times a power of two. The reals that round to it form an
interval, whose ends belong to it exactly when the whole number is even. Of the decimals inside the
interval, `Binary.shortest` takes one with the fewest digits, and of those the nearest to the
double; of two equally near ones, the one with the even last digit.

All of it is exact arithmetic on natural numbers:

* `Parts.ofBits?`: the parts of a double, `none` for infinities and what is no number;
* `Interval`: the interval, scaled to whole numbers;
* `Binary.shortest`: digits and exponent.
-/

namespace MetricRelay

/-- A positive decimal: the digits, read as one number, times a power of ten. -/
structure Decimal where
  digits : Nat
  exponent : Int
  deriving DecidableEq, Repr

namespace Decimal

/-- A positive double: `mantissa * 2 ^ exponent`, and whether the gap below it is half the gap
above it. -/
structure Binary where
  mantissa : Nat
  exponent : Int
  narrowBelow : Bool
  deriving DecidableEq, Repr

/-- A finite double: a sign and a size, which is absent for zero. -/
structure Parts where
  negative : Bool
  size : Option Binary
  deriving DecidableEq, Repr

/-- Two to the number of bits of a fraction, which is also the weight of the bit in front of it. -/
def hiddenBit : Nat := 4503599627370496

/-- The parts of a finite double, from its bits: one for the sign, eleven for the exponent and
fifty-two for the fraction. -/
def Parts.ofBits? (bits : Nat) : Option Parts :=
  let negative := bits / (hiddenBit * 2048) % 2 == 1
  let biased : Nat := bits / hiddenBit % 2048
  let fraction : Nat := bits % hiddenBit
  if biased = 2047 then none
  else if biased = 0 then
    if fraction = 0 then some ⟨negative, none⟩
    else some ⟨negative, some ⟨fraction, -1074, false⟩⟩
  else
    some ⟨negative, some ⟨hiddenBit + fraction, (biased : Int) - 1075, fraction == 0 && biased > 1⟩⟩

/-- How many decimal digits a number has. -/
def length (n : Nat) : Nat :=
  if n < 10 then 1 else length (n / 10) + 1

/-- The reals that round to a double, as multiples of a fourth of `scale`: a decimal
`digits * 10 ^ exponent` lies inside when `4 * digits * step` lies between `low` and `high`. -/
structure Interval where
  low : Nat
  middle : Nat
  high : Nat
  /-- The ends belong to the interval. -/
  closed : Bool
  /-- Four times the size of one unit of the last decimal place. -/
  step : Nat
  deriving DecidableEq, Repr

namespace Interval

/-- The interval of a double, measured on the grid of the multiples of `10 ^ exponent`. -/
def of (double : Binary) (exponent : Int) : Interval :=
  let scale := Nat.pow 2 double.exponent.toNat * Nat.pow 10 (-exponent).toNat
  let below := if double.narrowBelow then 1 else 2
  { low := (4 * double.mantissa - below) * scale
    middle := 4 * double.mantissa * scale
    high := (4 * double.mantissa + 2) * scale
    closed := double.mantissa % 2 == 0
    step := 4 * Nat.pow 2 (-double.exponent).toNat * Nat.pow 10 exponent.toNat }

/-- The multiple of the step that a point stands for lies in the interval. -/
def contains (interval : Interval) (point : Nat) : Bool :=
  let value := point * interval.step
  if interval.closed then interval.low ≤ value && value ≤ interval.high
  else interval.low < value && value < interval.high

/-- The last point that is not above the middle. -/
def floor (interval : Interval) : Nat :=
  interval.middle / interval.step

/-- The nearer of the double's two neighbours on the grid, among those that lie inside. -/
def nearest? (interval : Interval) : Option Nat :=
  let lower := interval.floor
  let upper := lower + 1
  match interval.contains lower && lower != 0, interval.contains upper with
  | true, true =>
    let down := interval.middle - lower * interval.step
    let up := upper * interval.step - interval.middle
    if down < up || (down == up && lower % 2 == 0) then some lower else some upper
  | true, false => some lower
  | false, true => some upper
  | false, false => none

end Interval

namespace Binary

/-- The power of ten of the first decimal digit. -/
def magnitude (double : Binary) : Int :=
  let whole := double.mantissa * Nat.pow 2 double.exponent.toNat
  let parts := Nat.pow 2 (-double.exponent).toNat
  if whole ≥ parts then (length (whole / parts) : Int) - 1
  else
    let places := length parts - length whole
    if whole * Nat.pow 10 places ≥ parts then -places else -(places + 1)

/-- The decimal of at most `count` more digits, beginning with `used` of them. -/
def search (double : Binary) (used : Nat) : Nat → Decimal
  | 0 => ⟨(Interval.of double (double.magnitude - 16)).floor, double.magnitude - 16⟩
  | count + 1 =>
    let exponent := double.magnitude - used
    match (Interval.of double exponent).nearest? with
    | some digits => ⟨digits, exponent⟩
    | none => search double (used + 1) count

/-- The nearest of the shortest decimals that round to the double. Seventeen digits are always
enough. -/
def shortest (double : Binary) : Decimal :=
  search double 0 17

end Binary

end Decimal

end MetricRelay

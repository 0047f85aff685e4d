/-
**How a decimal is written.**

A `Layout` holds the decisions of one written form of numbers: which sizes are written without an
exponent, and how an exponent looks. `Layout.write` is the text of a finite double in that form: a
sign, and the shortest digits that read back.
-/

import MetricRelay.Decimal.Shortest
import MetricRelay.Text.Integer

namespace MetricRelay.Decimal

/-- The decisions of a written form. -/
structure Layout where
  /-- The smallest power of ten of a first digit that is written without an exponent. -/
  lowest : Int
  /-- The greatest power of ten of a first digit that is written without an exponent. -/
  highest : Int
  /-- What marks a whole number that is written without an exponent. -/
  wholeEnd : List Char
  /-- What stands between the digits and the exponent. -/
  mark : Char
  /-- What stands before an exponent that is not negative. -/
  plus : List Char
  deriving DecidableEq, Repr

/-- The same number with digits that do not end in a zero. -/
def normal (decimal : Decimal) : Decimal :=
  if decimal.digits ≠ 0 ∧ decimal.digits % 10 = 0 then
    normal ⟨decimal.digits / 10, decimal.exponent + 1⟩
  else decimal
termination_by decimal.digits
decreasing_by omega

namespace Layout

/-- A positive decimal without an exponent: its digits with the point after `places` of them. -/
def positional (layout : Layout) (digits : List Char) (power : Int) : List Char :=
  if power < 0 then
    '0' :: '.' :: (List.replicate (-power - 1).toNat '0' ++ digits)
  else
    let places := power.toNat + 1
    if digits.length ≤ places then
      digits ++ List.replicate (places - digits.length) '0' ++ layout.wholeEnd
    else
      digits.take places ++ '.' :: digits.drop places

/-- A positive decimal with an exponent: one digit, the point and the others if there are any, and
the power of ten of the first digit. -/
def scientific (layout : Layout) (digits : List Char) (power : Int) : List Char :=
  let whole := digits.take 1
  let rest := digits.drop 1
  let number := if rest.isEmpty then whole else whole ++ '.' :: rest
  let sign := if power < 0 then [] else layout.plus
  number ++ layout.mark :: sign ++ Text.signedDigits power

/-- A positive decimal with the digits that count. The power of its first digit decides the form. -/
def writePositive (layout : Layout) (decimal : Decimal) : List Char :=
  let decimal := decimal.normal
  let digits := Text.digits decimal.digits
  let power := decimal.exponent + digits.length - 1
  if layout.lowest ≤ power && power ≤ layout.highest then layout.positional digits power
  else layout.scientific digits power

/-- A finite double in this form. -/
def write (layout : Layout) (parts : Parts) : List Char :=
  let sign := if parts.negative then ['-'] else []
  match parts.size with
  | none => sign ++ '0' :: layout.wholeEnd
  | some size => sign ++ layout.writePositive size.shortest

end Layout

end MetricRelay.Decimal

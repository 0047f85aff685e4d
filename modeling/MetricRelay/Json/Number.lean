/-
**The numbers of JSON.**

A `Numeral` is a number as it is spelled. `Numeral.value` is the value it stands for:

* a whole number without point and exponent that 64 bits hold stays a whole number, and minus zero
  is a double;
* every other numeral is a double: its digits are read as one whole number as long as 64 bits hold
  it, and that number is scaled by a power of ten with one multiplication or division;
* a numeral beyond every double has no value.
-/

import MetricRelay.Json.Basic
import MetricRelay.Text.Integer

namespace MetricRelay.Json

/-- A number as it is spelled: digits before the point, digits after it, and an exponent. -/
structure Numeral where
  negative : Bool
  whole : List Char
  fraction : Option (List Char)
  exponent : Option Int
  deriving DecidableEq, Repr

namespace Numeral

/-- The digits that a text begins with, and what follows them. -/
def spanDigits (text : List Char) : List Char × List Char :=
  (text.takeWhile Char.isDigit, text.dropWhile Char.isDigit)

/-- Reads what follows the mark of an exponent: a sign that may be missing, and digits. -/
def exponent? : List Char → Option Int
  | '+' :: rest => (Text.natural? rest).map Int.ofNat
  | '-' :: rest => (Text.natural? rest).map fun n => -Int.ofNat n
  | digits => (Text.natural? digits).map Int.ofNat

/-- Reads what follows the digits of the fraction: nothing, or an exponent. -/
def withExponent? (negative : Bool) (whole : List Char) (fraction : Option (List Char)) :
    List Char → Option Numeral
  | [] => some ⟨negative, whole, fraction, none⟩
  | c :: rest =>
    if c = 'e' ∨ c = 'E' then
      (exponent? rest).map fun exponent => ⟨negative, whole, fraction, some exponent⟩
    else none

/-- Reads a numeral behind its sign. A whole part of several digits does not begin with a zero. -/
def unsigned? (negative : Bool) (text : List Char) : Option Numeral :=
  let (whole, rest) := spanDigits text
  if whole.isEmpty ∨ (whole.length > 1 ∧ whole.head? = some '0') then none
  else
    match rest with
    | '.' :: rest =>
      let (fraction, rest) := spanDigits rest
      if fraction.isEmpty then none else withExponent? negative whole (some fraction) rest
    | rest => withExponent? negative whole none rest

/-- Reads a numeral. A plus before it is refused. -/
def parse? : List Char → Option Numeral
  | '-' :: rest => unsigned? true rest
  | spelled => unsigned? false spelled

/-- The greatest number that 64 bits hold. -/
def maxWord : Nat := 18446744073709551615

/-- Reads digits on top of a number as long as 64 bits hold the result. The answer is the number
and the digits that are left over. -/
def absorb (value : Nat) : List Char → Nat × List Char
  | [] => (value, [])
  | c :: rest =>
    let next := value * 10 + Text.digitValue c
    if next ≤ maxWord then absorb next rest else (value, c :: rest)

/-- The double nearest to a power of ten. -/
def powerOfTen (n : Nat) : Float :=
  Float.ofScientific 1 false n

/-- A whole number times a power of ten, as a double; `none` beyond every double. -/
def scaled? (significand : Nat) (exponent : Int) : Option Float :=
  let value := Float.ofNat significand
  if exponent ≥ 0 then
    if exponent ≤ 308 then
      let product := value * powerOfTen exponent.toNat
      if product.isInf then none else some product
    else if significand = 0 then some value else none
  else if exponent ≥ -308 then some (value / powerOfTen (-exponent).toNat)
  else if exponent ≥ -616 then some (value / powerOfTen 308 / powerOfTen (-exponent - 308).toNat)
  else some (Float.ofNat 0)

/-- The double that a numeral stands for, without its sign. -/
def size? (numeral : Numeral) : Option Float :=
  let (significand, skipped) := absorb 0 numeral.whole
  let fraction := numeral.fraction.getD []
  let (digits, left) := absorb significand fraction
  let point : Int := (skipped.length : Int) - ((fraction.length - left.length : Nat) : Int)
  scaled? digits (point + numeral.exponent.getD 0)

/-- The double that a numeral stands for, unless it is beyond every double. -/
def float? (numeral : Numeral) : Option Float :=
  numeral.size?.map fun size => if numeral.negative then -size else size

/-- The whole number that a numeral stands for, if it is spelled as one that 64 bits hold. -/
def int? (numeral : Numeral) : Option Int :=
  if numeral.fraction.isSome ∨ numeral.exponent.isSome then none
  else
    let size := Text.digitsValue numeral.whole
    if numeral.negative then
      if 0 < size ∧ size ≤ 9223372036854775808 then some (-(size : Int)) else none
    else if size ≤ maxWord then some (size : Int) else none

/-- The value that a numeral stands for; `Json.faulty` where it is beyond every double. -/
def value (numeral : Numeral) : Json :=
  match numeral.int? with
  | some n => .int n
  | none =>
    match numeral.float? with
    | some x => .float x
    | none => .faulty

end Numeral

end MetricRelay.Json

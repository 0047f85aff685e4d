/-
**Numbers and moments in TOML.**

Whole numbers are decimal with an optional sign, or without a sign in base sixteen, eight or two;
single underscores may stand between digits, and the value has to fit 64 bits with a sign. A number
with a fraction or an exponent must not be greater than every double. A moment is a date, a time, or
both with an optional distance from universal time.
-/

import MetricRelay.Toml.Basic
import MetricRelay.Toml.Quoted

namespace MetricRelay.Toml

open Text (Reader)
open Text.Reader

/-- Digits with single underscores between them; the underscores are left out. -/
def digitRun (isDigit : Char → Bool) : Reader (List Char) := do
  let first ← one isDigit
  let rest ← collect (one isDigit <|> (do char '_'; one isDigit))
  return first :: rest

/-- Reads a sign that may be missing: the number is negative. -/
def sign : Reader Bool := do
  let c ← maybe (one fun c => c == '+' || c == '-')
  return c == some '-'

/-- A sign and decimal digits; a zero at the beginning stands alone. -/
def decimal : Reader (Bool × List Char) := do
  let negative ← sign
  match ← peek with
  | some '0' => do
    char '0'
    return (negative, ['0'])
  | _ => return (negative, ← digitRun Char.isDigit)

/-- The size of the least number that 64 bits hold with a sign. -/
def maxNegative : Nat := 9223372036854775808

/-- The whole number of this size, if 64 bits hold it. -/
def bounded (negative : Bool) (magnitude : Nat) : Reader Toml :=
  if negative then
    if magnitude ≤ maxNegative then return .integer (-(magnitude : Int)) else failure
  else if magnitude < maxNegative then return .integer magnitude
  else failure

/-- Reads a whole number in some base behind its mark. It has no sign. -/
def based (base : Nat) (mark : Char) (isDigit : Char → Bool) : Reader Toml := do
  word ['0', mark]
  let digits ← digitRun isDigit
  bounded false (baseValue base digits)

/-- Reads a whole number. -/
def wholeNumber : Reader Toml :=
  based 16 'x' isHexDigit <|> based 8 'o' (fun c => '0' ≤ c && c ≤ '7') <|>
    based 2 'b' (fun c => c == '0' || c == '1') <|>
    (do
      let (negative, digits) ← decimal
      bounded negative (baseValue 10 digits))

/-- Reads an exponent. -/
def exponent : Reader Int := do
  let _ ← one fun c => c == 'e' || c == 'E'
  let negative ← sign
  let digits ← digitRun Char.isDigit
  let magnitude : Int := baseValue 10 digits
  return if negative then -magnitude else magnitude

/-- Reads a point and the digits behind it. -/
def fraction : Reader (List Char) := do
  char '.'
  digitRun Char.isDigit

/-- The least number that is nearer to the double after the greatest one than to that one. -/
def overflowLimit : Nat := Nat.pow 2 1024 - Nat.pow 2 970

/-- The number with these digits and a power of ten is greater than every double, also after
rounding. -/
def overflows (digits : List Char) (power : Int) : Bool :=
  let value := baseValue 10 digits
  let size : Int := digits.length + power
  if value = 0 ∨ size < 300 then false
  else if 0 ≤ power then 400 < power || overflowLimit ≤ value * Nat.pow 10 power.toNat
  else overflowLimit * Nat.pow 10 (-power).toNat ≤ value

/-- Reads a number with a fraction, an exponent or both. -/
def fractional : Reader Toml := do
  let (negative, whole) ← decimal
  let after ← maybe fraction
  let power ← maybe exponent
  let digits := whole ++ after.getD []
  let shift : Int := (after.getD []).length
  if after.isNone && power.isNone then failure
  else if !negative && overflows digits (power.getD 0 - shift) then failure
  else return .float

/-- Reads a name that stands for no finite number. -/
def special : Reader Toml := do
  let _ ← sign
  word ['i', 'n', 'f'] <|> word ['n', 'a', 'n']
  return .float

/-- A number of a fixed count of digits, between two bounds. -/
def field (count least greatest : Nat) : Reader Nat := do
  let digits ← collectUpTo (one Char.isDigit) count
  let value := baseValue 10 digits
  if digits.length = count ∧ least ≤ value ∧ value ≤ greatest then return value else failure

/-- How many days a month has. -/
def monthLength (year month : Nat) : Nat :=
  if month = 2 then
    if year % 4 = 0 ∧ (year % 100 ≠ 0 ∨ year % 400 = 0) then 29 else 28
  else if month = 4 ∨ month = 6 ∨ month = 9 ∨ month = 11 then 30
  else 31

/-- Reads a date that there is. -/
def date : Reader Unit := do
  let year ← field 4 0 9999
  char '-'
  let month ← field 2 1 12
  char '-'
  let _ ← field 2 1 (monthLength year month)

/-- A time of day; its last minute may have a leap second. -/
def time : Reader Unit := do
  let _ ← field 2 0 23
  char ':'
  let _ ← field 2 0 59
  char ':'
  let _ ← field 2 0 60
  let _ ← maybe (do
    char '.'
    let _ ← someRun Char.isDigit)

/-- Reads a distance from universal time. -/
def offset : Reader Unit :=
  (do let _ ← one fun c => c == 'Z' || c == 'z') <|> (do
    let _ ← one fun c => c == '+' || c == '-'
    let _ ← field 2 0 23
    char ':'
    let _ ← field 2 0 59)

/-- Reads a moment. -/
def dateTime : Reader Toml := do
  (do
      date
      let _ ← maybe (do
        let _ ← one fun c => c == 'T' || c == 't' || c == ' '
        time
        let _ ← maybe offset)) <|> time
  return .moment

/-- Reads a number or a moment. What is read as a moment is no number any more. -/
def numeric : Reader Toml := dateTime <|> fractional <|> special <|> wholeNumber

end MetricRelay.Toml

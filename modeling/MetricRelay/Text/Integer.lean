/-
**Whole numbers in decimal.**

* `digits` writes a natural number and `natural?` reads one, with any number of leading zeros;
* `signedDigits` writes a whole number and `integer?` reads one, with a sign that may be missing.
-/

namespace MetricRelay.Text

/-- The character of a digit. -/
def digitChar (digit : Nat) : Char :=
  Char.ofNat (48 + digit)

/-- The digit that a character is. -/
def digitValue (c : Char) : Nat :=
  c.toNat - 48

/-- The decimal digits of a natural number, without leading zeros. -/
def digits (n : Nat) : List Char :=
  if n < 10 then [digitChar n] else digits (n / 10) ++ [digitChar (n % 10)]

/-- A whole number with a minus sign in front when it is negative. -/
def signedDigits : Int → List Char
  | .ofNat n => digits n
  | .negSucc n => '-' :: digits (n + 1)

/-- The number that a list of digit characters stands for. -/
def digitsValue (text : List Char) : Nat :=
  text.foldl (fun value c => value * 10 + digitValue c) 0

/-- Reads a natural number: at least one digit, and nothing else. -/
def natural? (text : List Char) : Option Nat :=
  if text ≠ [] ∧ text.all Char.isDigit then some (digitsValue text) else none

/-- Reads a whole number, with a sign or without. -/
def integer? : List Char → Option Int
  | '+' :: rest => (natural? rest).map Int.ofNat
  | '-' :: rest => (natural? rest).map fun n => -Int.ofNat n
  | text => (natural? text).map Int.ofNat

end MetricRelay.Text

/-
**The text of a JSON value.**

`Json.compact` puts no blanks between the parts of a value, `Json.pretty` starts a line for each
item and member and indents it by two more blanks than what holds it. Both write texts and numbers
alike: in a text only the quote, the backslash and the characters below U+0020 are escaped, and a
double is written with the fewest digits that read back, in the form `Json.layout`.
-/

import MetricRelay.Json.Basic
import MetricRelay.Decimal.Layout

namespace MetricRelay

namespace Json

/-- The digit of a number below sixteen; letters are written small. -/
def hexDigit (n : Nat) : Char :=
  if n < 10 then Char.ofNat (48 + n) else Char.ofNat (87 + n)

/-- How a character is written in a quoted text. -/
def escape (c : Char) : List Char :=
  if c = '"' then ['\\', '"']
  else if c = '\\' then ['\\', '\\']
  else if c = '\x08' then ['\\', 'b']
  else if c = '\t' then ['\\', 't']
  else if c = '\n' then ['\\', 'n']
  else if c = '\x0c' then ['\\', 'f']
  else if c = '\r' then ['\\', 'r']
  else if c.toNat < 0x20 then
    ['\\', 'u', '0', '0', hexDigit (c.toNat / 16), hexDigit (c.toNat % 16)]
  else [c]

/-- A quoted text. -/
def quoted (text : List Char) : List Char :=
  '"' :: (text.flatMap escape ++ ['"'])

/-- Doubles are written without an exponent from 0.00001 up to sixteen digits before the point,
whole ones end in `.0`, and an exponent carries its sign. -/
def layout : Decimal.Layout where
  lowest := -5
  highest := 15
  wholeEnd := ['.', '0']
  mark := 'e'
  plus := ['+']

/-- A double; what is no finite number is written as `null`. -/
def floatChars (value : Float) : List Char :=
  match Decimal.Parts.ofBits? value.toBits.toNat with
  | some parts => layout.write parts
  | none => ['n', 'u', 'l', 'l']

/-- The text of a value that is no container. A faulty value is written as `null`. -/
def leafChars : Json → List Char
  | bool true => ['t', 'r', 'u', 'e']
  | bool false => ['f', 'a', 'l', 's', 'e']
  | int value => Text.signedDigits value
  | float value => floatChars value
  | text value => quoted value.toList
  | _ => ['n', 'u', 'l', 'l']

mutual

/-- The text of a value without blanks between its parts. -/
def chars : Json → List Char
  | array items => '[' :: (itemChars items ++ [']'])
  | object members => '{' :: (memberChars members ++ ['}'])
  | leaf => leafChars leaf

/-- The items of an array, with commas between them. -/
def itemChars : List Json → List Char
  | [] => []
  | [item] => chars item
  | item :: rest => chars item ++ ',' :: itemChars rest

/-- The members of an object, with commas between them. -/
def memberChars : List (String × Json) → List Char
  | [] => []
  | [(key, value)] => quoted key.toList ++ ':' :: chars value
  | (key, value) :: rest => quoted key.toList ++ ':' :: chars value ++ ',' :: memberChars rest

end

/-- The text of a value without blanks between its parts. -/
def compact (value : Json) : String :=
  String.ofList value.chars

/-- The start of a line inside `depth` containers. -/
def lineStart (depth : Nat) : List Char :=
  '\n' :: List.replicate (2 * depth) ' '

mutual

/-- The text of a value inside `depth` containers, one line for each item and member. -/
def prettyChars (depth : Nat) : Json → List Char
  | array [] => ['[', ']']
  | array items => '[' :: (prettyItems (depth + 1) items ++ lineStart depth ++ [']'])
  | object [] => ['{', '}']
  | object members => '{' :: (prettyMembers (depth + 1) members ++ lineStart depth ++ ['}'])
  | leaf => leafChars leaf

/-- The items of an array, each on a line of its own. -/
def prettyItems (depth : Nat) : List Json → List Char
  | [] => []
  | [item] => lineStart depth ++ prettyChars depth item
  | item :: rest => lineStart depth ++ prettyChars depth item ++ ',' :: prettyItems depth rest

/-- The members of an object, each on a line of its own with a blank behind the colon. -/
def prettyMembers (depth : Nat) : List (String × Json) → List Char
  | [] => []
  | [(key, value)] =>
    lineStart depth ++ quoted key.toList ++ ':' :: ' ' :: prettyChars depth value
  | (key, value) :: rest =>
    lineStart depth ++ quoted key.toList ++ ':' :: ' ' :: prettyChars depth value ++
      ',' :: prettyMembers depth rest

end

/-- The text of a value, one line for each item and member. -/
def pretty (value : Json) : String :=
  String.ofList (value.prettyChars 0)

end Json

end MetricRelay

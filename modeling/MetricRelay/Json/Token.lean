/-
**The words of a JSON text.**

A `Scanner` reads a text one character at a time. Between words it skips blanks; inside a word it
keeps what it has read so far. `Token.scan?` is the list of the words of a text, `none` when a word
is malformed.

A quoted text is kept as a list of pieces, since an escape may stand for half of a surrogate pair:
`Piece.join?` puts the halves together, and a half that is left alone makes the text faulty.
-/

import MetricRelay.Json.Number

namespace MetricRelay.Json

/-- A part of a quoted text: a character, or a 16-bit unit given by its number. -/
inductive Piece where
  | char (c : Char)
  | unit (code : Nat)
  deriving DecidableEq, Repr

namespace Piece

/-- The unit is the first half of a surrogate pair. -/
def isHigh (code : Nat) : Bool := 0xD800 ≤ code && code < 0xDC00

/-- The unit is the second half of a surrogate pair. -/
def isLow (code : Nat) : Bool := 0xDC00 ≤ code && code < 0xE000

/-- The characters of a list of pieces; `none` when half of a pair stands alone. -/
def join? : List Piece → Option (List Char)
  | [] => some []
  | char c :: rest => (join? rest).map (c :: ·)
  | unit high :: unit low :: rest =>
    if isHigh high then
      if isLow low then
        (join? rest).map (Char.ofNat (0x10000 + (high - 0xD800) * 0x400 + (low - 0xDC00)) :: ·)
      else none
    else if isLow high then none
    else (join? (unit low :: rest)).map (Char.ofNat high :: ·)
  | unit code :: rest =>
    if isHigh code || isLow code then none else (join? rest).map (Char.ofNat code :: ·)

end Piece

/-- A word of a JSON text. -/
inductive Token where
  | beginArray
  | endArray
  | beginObject
  | endObject
  | comma
  | colon
  /-- A number, a truth value or `null`. -/
  | leaf (value : Json)
  /-- A quoted text; `none` when it holds half of a surrogate pair. -/
  | text (value : Option String)

/-- Where the reading of a text stands. What has been read of a word is kept in reverse. -/
inductive Scanner where
  | between
  | number (read : List Char)
  | name (read : List Char)
  | text (read : List Piece)
  /-- A backslash has been read. -/
  | escape (read : List Piece)
  /-- The digits of a unit are being read: the value so far and how many are still to come. -/
  | unit (read : List Piece) (value missing : Nat)
  deriving DecidableEq, Repr

namespace Scanner

/-- The characters that may stand between words. -/
def isBlank (c : Char) : Bool := c == ' ' || c == '\t' || c == '\n' || c == '\r'

/-- The characters that numbers consist of. -/
def isNumeric (c : Char) : Bool :=
  c.isDigit || c == '-' || c == '+' || c == '.' || c == 'e' || c == 'E'

/-- The value of a hexadecimal digit, in either letter case. -/
def hexValue? (c : Char) : Option Nat :=
  if '0' ≤ c ∧ c ≤ '9' then some (c.toNat - 48)
  else if 'a' ≤ c ∧ c ≤ 'f' then some (c.toNat - 87)
  else if 'A' ≤ c ∧ c ≤ 'F' then some (c.toNat - 55)
  else none

/-- The word that a character is by itself. -/
def mark? : Char → Option Token
  | '[' => some .beginArray
  | ']' => some .endArray
  | '{' => some .beginObject
  | '}' => some .endObject
  | ',' => some .comma
  | ':' => some .colon
  | _ => none

/-- The character that a one-letter escape stands for. -/
def escaped? : Char → Option Char
  | '"' => some '"'
  | '\\' => some '\\'
  | '/' => some '/'
  | 'b' => some '\x08'
  | 'f' => some '\x0c'
  | 'n' => some '\n'
  | 'r' => some '\r'
  | 't' => some '\t'
  | _ => none

/-- The value that a name stands for. -/
def named? (name : List Char) : Option Json :=
  if name = ['n', 'u', 'l', 'l'] then some .null
  else if name = ['t', 'r', 'u', 'e'] then some (.bool true)
  else if name = ['f', 'a', 'l', 's', 'e'] then some (.bool false)
  else none

/-- The quoted text with these pieces, the last one first. -/
def closed (read : List Piece) : Token :=
  .text ((Piece.join? read.reverse).map String.ofList)

/-- A character between words: the word that it is, if it is one, or the word that it begins. -/
def start? (c : Char) : Option (List Token × Scanner) :=
  if isBlank c then some ([], between)
  else if c = '"' then some ([], text [])
  else if c.isDigit ∨ c = '-' then some ([], number [c])
  else if c.isAlpha then some ([], name [c])
  else (mark? c).map fun token => ([token], between)

/-- The end of the text: the last word, if one is being read. -/
def finish? : Scanner → Option (List Token)
  | between => some []
  | number read => (Numeral.parse? read.reverse).map fun numeral => [.leaf numeral.value]
  | name read => (named? read.reverse).map fun value => [.leaf value]
  | _ => none

/-- One more character: the words it completes, and where the reading stands after it. -/
def step? (scanner : Scanner) (c : Char) : Option (List Token × Scanner) :=
  match scanner with
  | between => start? c
  | number read =>
    if isNumeric c then some ([], number (c :: read))
    else do
      let word ← finish? (number read)
      let (tokens, next) ← start? c
      return (word ++ tokens, next)
  | name read =>
    if c.isAlpha then some ([], name (c :: read))
    else do
      let word ← finish? (name read)
      let (tokens, next) ← start? c
      return (word ++ tokens, next)
  | text read =>
    if c = '"' then some ([closed read], between)
    else if c = '\\' then some ([], escape read)
    else if c.toNat < 0x20 then none
    else some ([], text (.char c :: read))
  | escape read =>
    if c = 'u' then some ([], unit read 0 4)
    else (escaped? c).map fun c => ([], text (.char c :: read))
  | unit read value missing => do
    let digit ← hexValue? c
    let value := value * 16 + digit
    if missing ≤ 1 then return ([], text (.unit value :: read))
    else return ([], unit read value (missing - 1))

/-- Reads a text to its end. The words read so far are kept in reverse. -/
def run? (scanner : Scanner) (read : List Token) : List Char → Option (List Token)
  | [] => (finish? scanner).map fun word => read.reverse ++ word
  | c :: rest =>
    match step? scanner c with
    | some (tokens, next) => run? next (tokens.reverse ++ read) rest
    | none => none

end Scanner

/-- The words of a text, unless one of them is malformed. -/
def Token.scan? (text : List Char) : Option (List Token) :=
  Scanner.run? .between [] text

end MetricRelay.Json

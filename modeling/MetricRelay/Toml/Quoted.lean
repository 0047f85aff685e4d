/-
**Blanks, keys and quoted texts in TOML.**

A text stands between double quotes, where a backslash begins an escape, or between single quotes,
where every character stands for itself. Three quotes in place of one make the text go on over line
ends: the first line end is dropped when nothing precedes it, every line end counts as a line feed,
one or two quotes may stand anywhere and also right before the closing ones, and between double
quotes a backslash at the end of a line drops all blanks and line ends that follow.
-/

import MetricRelay.Text.Reader

namespace MetricRelay.Toml

open Text (Reader)
open Text.Reader

/-- The characters that may stand between words of one line. -/
def isBlank (c : Char) : Bool := c == ' ' || c == '\t'

/-- A character that may stand in comments and texts: any but control characters, except the
tabulator. -/
def isPrintable (c : Char) : Bool := c == '\t' || (' ' ≤ c && c != '\x7f')

/-- Skips blanks. -/
def blanks : Reader Unit := do
  let _ ← run isBlank

/-- Reads the end of a line. -/
def lineEnd : Reader Unit := char '\n' <|> word ['\r', '\n']

/-- Reads a comment up to the end of its line. -/
def comment : Reader Unit := do
  char '#'
  let _ ← run isPrintable

/-- Skips blanks, comments and line ends. -/
def gap : Reader Unit := do
  let _ ← collect ((do let _ ← someRun isBlank) <|> lineEnd <|> (do comment; lineEnd))

/-- A digit in base sixteen, in either letter case. -/
def isHexDigit (c : Char) : Bool :=
  c.isDigit || ('a' ≤ c && c ≤ 'f') || ('A' ≤ c && c ≤ 'F')

/-- The value of a digit in base sixteen. -/
def hexValue (c : Char) : Nat :=
  if c.isDigit then c.toNat - 48 else if 'a' ≤ c then c.toNat - 87 else c.toNat - 55

/-- The number that some digits stand for in a base. -/
def baseValue (base : Nat) (digits : List Char) : Nat :=
  digits.foldl (fun value c => value * base + hexValue c) 0

/-- A character given by a fixed number of digits in base sixteen. -/
def unicode (count : Nat) : Reader (List Char) := do
  let digits ← collectUpTo (one isHexDigit) count
  let code := baseValue 16 digits
  if digits.length = count ∧ code.isValidChar then return [Char.ofNat code] else failure

/-- What may follow the backslash of an escape, and what it stands for. -/
def simpleEscapes : List (Char × Char) :=
  [('b', '\x08'), ('f', '\x0c'), ('n', '\n'), ('r', '\r'), ('t', '\t'), ('"', '"'), ('\\', '\\')]

/-- Reads an escape: the character that is meant. -/
def escaped : Reader (List Char) := do
  char '\\'
  let c ← one fun _ => true
  match simpleEscapes.lookup c with
  | some meant => return [meant]
  | none => if c = 'u' then unicode 4 else if c = 'U' then unicode 8 else failure

/-- Characters that stand for themselves between double quotes. -/
def plain : Reader (List Char) :=
  someRun fun c => isPrintable c && c != '"' && c != '\\'

/-- Characters that stand for themselves between single quotes. -/
def literal : Reader (List Char) :=
  someRun fun c => isPrintable c && c != '\''

/-- A backslash at the end of a line, with all blanks and line ends that follow. -/
def continuation : Reader (List Char) := do
  char '\\'
  blanks
  lineEnd
  let _ ← collect ((do let _ ← someRun isBlank) <|> lineEnd)
  return []

/-- Reads a line end as a line feed. -/
def lineFeed : Reader (List Char) := do
  lineEnd
  return ['\n']

/-- One or two quotes inside a text that ends with three. -/
def innerQuotes (quote : Char) : Reader (List Char) := do
  let quotes ← someRun (· == quote)
  if quotes.length ≤ 2 then return quotes else failure

/-- The three quotes at the end of a text, with up to two more before them that belong to it. -/
def closingQuotes (quote : Char) : Reader (List Char) := do
  let quotes ← run (· == quote)
  if 3 ≤ quotes.length ∧ quotes.length ≤ 5 then return quotes.drop 3 else failure

/-- A text of several lines between three quotes on both sides. -/
def longText (quote : Char) (piece : Reader (List Char)) : Reader String := do
  word [quote, quote, quote]
  let _ ← maybe lineEnd
  let pieces ← collect (piece <|> lineFeed <|> innerQuotes quote)
  let last ← closingQuotes quote
  return String.ofList (pieces.flatten ++ last)

/-- Reads a text on one line, piece by piece. -/
def shortText (quote : Char) (piece : Reader (List Char)) : Reader String := do
  char quote
  let pieces ← collect piece
  char quote
  return String.ofList pieces.flatten

/-- Reads a text on one line, between double or single quotes. -/
def lineText : Reader String :=
  shortText '"' (plain <|> escaped) <|> shortText '\'' literal

/-- Reads a text, on one line or on several. -/
def quoted : Reader String := do
  let rest ← get
  if "\"\"\"".toList.isPrefixOf rest then longText '"' (plain <|> continuation <|> escaped)
  else if "'''".toList.isPrefixOf rest then longText '\'' literal
  else lineText

/-- The characters of keys without quotes. -/
def isKeyChar (c : Char) : Bool := c.isAlphanum || c == '_' || c == '-'

/-- Reads one part of a key, and blanks around it. -/
def keyPart : Reader String := do
  blanks
  let part ← lineText <|> (return String.ofList (← someRun isKeyChar))
  blanks
  return part

/-- The number of parts that a key must stay below. -/
def maxKeyParts : Nat := 80

/-- Reads a key with dots between its parts. -/
def key : Reader (List String) := do
  let parts ← separated (char '.') keyPart
  if parts.length < maxKeyParts then return parts else failure

end MetricRelay.Toml

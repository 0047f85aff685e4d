/-
**Readers of texts.**

A `Reader` reads something from the beginning of a text and leaves the rest, or does not apply. When
it does not apply, nothing is read: `first <|> second` tries both from the same place.

* `Reader.one`, `Reader.word`, `Reader.run`: a character, a fixed word, a run of characters;
* `Reader.collect`: as many things as there are, one after the other;
* `Reader.whole?`: a reader that has to read all of a text.
-/

namespace MetricRelay.Text

/-- Reads something from the front of a text, and leaves the rest. -/
abbrev Reader (α : Type) := StateT (List Char) Option α

namespace Reader

variable {α : Type}

/-- Reads a character that passes a test. -/
def one (test : Char → Bool) : Reader Char
  | [] => none
  | c :: rest => if test c then some (c, rest) else none

/-- Reads a certain character. -/
def char (c : Char) : Reader Unit := do
  let _ ← one (· == c)

/-- Reads certain characters, one after the other. -/
def word : List Char → Reader Unit
  | [] => pure ()
  | c :: rest => do
    char c
    word rest

/-- All characters up to the first one that fails a test. -/
def run (test : Char → Bool) : Reader (List Char) := fun text =>
  some (text.takeWhile test, text.dropWhile test)

/-- At least one character, up to the first one that fails a test. -/
def someRun (test : Char → Bool) : Reader (List Char) := do
  let first ← one test
  let rest ← run test
  return first :: rest

/-- The next character, which stays. -/
def peek : Reader (Option Char) := fun text => some (text.head?, text)

/-- Accepts the end of the text only. -/
def atEnd : Reader Unit
  | [] => some ((), [])
  | _ :: _ => none

/-- What `read` reads, if it applies. -/
def maybe (read : Reader α) : Reader (Option α) := fun text =>
  match read text with
  | some (value, rest) => some (some value, rest)
  | none => some (none, text)

/-- What `read` reads as often as it applies, but at most `limit` times. -/
def collectUpTo (read : Reader α) : Nat → Reader (List α)
  | 0 => pure []
  | limit + 1 => fun text =>
    match read text with
    | none => some ([], text)
    | some (value, rest) =>
      (collectUpTo read limit rest).map fun found => (value :: found.1, found.2)

/-- What `read` reads as often as it applies. It has to leave less than it is given. -/
def collect (read : Reader α) : Reader (List α) := fun text =>
  collectUpTo read text.length text

/-- What follows, one thing at least, with separators between. -/
def separated (separator : Reader Unit) (read : Reader α) : Reader (List α) := do
  let first ← read
  let rest ← collect (do separator; read)
  return first :: rest

/-- Reads a whole text. -/
def whole? (read : Reader α) (text : List Char) : Option α :=
  match read text with
  | some (value, []) => some value
  | _ => none

end Reader

end MetricRelay.Text

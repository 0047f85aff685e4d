/-
**The flags of a pattern.**

Flags are set in the pattern itself, for the rest of a group or for a group of their own: letters
that are set, then a dash, then letters that are cleared.
-/

import MetricRelay.Pattern.Expr
import MetricRelay.Text.Blank
import MetricRelay.Text.Reader

namespace MetricRelay.Pattern

open Text (Reader)
open Text.Reader
open Unicode (CharSet)

/-- The flags that hold at a place of a pattern. -/
structure Flags where
  ignoreCase : Bool := false
  /-- The beginning and the end of a line count as those of the text. -/
  lines : Bool := false
  /-- A dot takes line feeds, too. -/
  dotAll : Bool := false
  /-- A carriage return ends a line, too. -/
  anyLineEnd : Bool := false
  /-- Classes are those of the standard for all characters, and not only for ASCII. -/
  unicode : Bool := true
  /-- Repetitions are lazy unless they are marked. -/
  isLazy : Bool := false
  /-- Blanks and comments in the pattern count for nothing. -/
  verbose : Bool := false
  deriving DecidableEq, Repr

namespace Flags

/-- The flags after setting or clearing the one with a letter. -/
def assign (flags : Flags) (value : Bool) (letter : Char) : Flags :=
  match letter with
  | 'i' => { flags with ignoreCase := value }
  | 'm' => { flags with lines := value }
  | 's' => { flags with dotAll := value }
  | 'R' => { flags with anyLineEnd := value }
  | 'u' => { flags with unicode := value }
  | 'U' => { flags with isLazy := value }
  | 'x' => { flags with verbose := value }
  | _ => flags

/-- The letters of all flags. -/
def letters : List Char := ['i', 'm', 's', 'U', 'u', 'R', 'x']

/-- Letters that are set, and after a dash letters that are cleared; nothing occurs twice. -/
def isWellFormed (text : List Char) : Bool :=
  text.all (fun c => letters.contains c || c == '-') && decide text.Nodup &&
    text.getLast? != some '-'

/-- The flags after a text of letters; those behind a dash are cleared. -/
def apply (flags : Flags) (text : List Char) : Flags :=
  let set := text.takeWhile (· != '-')
  let cleared := text.dropWhile (· != '-')
  cleared.foldl (fun flags letter => flags.assign false letter)
    (set.foldl (fun flags letter => flags.assign true letter) flags)

/-- Blanks and comments, from the first one that does not count. -/
def skipFrom : Nat → List Char → List Char
  | 0, text => text
  | left + 1, text =>
    match text with
    | '#' :: rest => skipFrom left ((rest.dropWhile (· != '\n')).drop 1)
    | c :: rest => if Text.isBlank c then skipFrom left rest else c :: rest
    | [] => []

/-- Skips blanks and comments where they count for nothing. -/
def skip (flags : Flags) : Reader Unit := fun text =>
  some ((), if flags.verbose then skipFrom text.length text else text)

/-- The characters of words. -/
def word (flags : Flags) : CharSet :=
  if flags.unicode then Unicode.Property.word
  else ⟨[(0x30, 0x39), (0x41, 0x5A), (0x5F, 0x5F), (0x61, 0x7A)]⟩

/-- The digits. -/
def digit (flags : Flags) : CharSet :=
  if flags.unicode then Unicode.Property.digit else ⟨[(0x30, 0x39)]⟩

/-- The blanks. -/
def space (flags : Flags) : CharSet :=
  if flags.unicode then Unicode.Property.whiteSpace else ⟨[(0x09, 0x0D), (0x20, 0x20)]⟩

/-- The set with other cases, if case does not count. -/
def close (flags : Flags) (set : CharSet) : CharSet :=
  if flags.ignoreCase then
    if flags.unicode then Unicode.Folding.close set else Unicode.Folding.closeAscii set
  else set

/-- The set or, if it is negated, all other characters. Without the standard a negated set would
take bytes that are no characters, and is refused. -/
def negate? (flags : Flags) (negated : Bool) (set : CharSet) : Option CharSet :=
  if negated then if flags.unicode then some set.complement else none else some set

/-- What a dot stands for; without the standard it could be half of a character. -/
def dot? (flags : Flags) : Option CharSet :=
  if !flags.unicode then none
  else if flags.dotAll then some .all
  else if flags.anyLineEnd then some (CharSet.complement ⟨[(0x0A, 0x0A), (0x0D, 0x0D)]⟩)
  else some (CharSet.single 0x0A).complement

/-- What a caret requires. -/
def startLook (flags : Flags) : Look :=
  if flags.lines then if flags.anyLineEnd then .anyLineStart else .lineStart else .textStart

/-- What a dollar sign requires. -/
def endLook (flags : Flags) : Look :=
  if flags.lines then if flags.anyLineEnd then .anyLineEnd else .lineEnd else .textEnd

end Flags

end MetricRelay.Pattern

/-
**Escapes in patterns.**

After a backslash stands a character that is meant literally, a letter for a class of characters or
for a requirement, or the number of a character.
-/

import MetricRelay.Pattern.Flags
import MetricRelay.Text.Integer

namespace MetricRelay.Pattern

open Text (Reader)
open Text.Reader
open Unicode (CharSet)

/-- The smallest part of a pattern. -/
inductive Primitive where
  | char (c : Char)
  /-- A byte given by two digits in base sixteen. -/
  | byte (c : Char)
  | set (set : CharSet)
  | look (look : Look)

namespace Primitive

/-- The character that is meant; without the standard a byte above U+007F is none. -/
def char? (flags : Flags) : Primitive → Option Char
  | char c => some c
  | byte c => if flags.unicode || c.toNat ≤ 0x7F then some c else none
  | _ => none

end Primitive

namespace Escape

/-- A digit in base sixteen, in either letter case. -/
def isHexDigit (c : Char) : Bool :=
  c.isDigit || ('a' ≤ c && c ≤ 'f') || ('A' ≤ c && c ≤ 'F')

/-- The value of a digit in base sixteen. -/
def hexValue (c : Char) : Nat :=
  if c.isDigit then c.toNat - 48 else if 'a' ≤ c then c.toNat - 87 else c.toNat - 55

/-- The character with a number, if there is one. -/
def ofHex (digits : List Char) : Reader Char :=
  let code := digits.foldl (fun value c => value * 16 + hexValue c) 0
  if code.isValidChar then return Char.ofNat code else failure

/-- Reads a fixed number of digits in base sixteen. -/
def hexDigits (flags : Flags) (count : Nat) : Reader Char := do
  let digits ← collectUpTo (do flags.skip; one isHexDigit) count
  flags.skip
  if digits.length = count then ofHex digits else failure

/-- Reads digits in base sixteen between braces. -/
def hexBraces (flags : Flags) : Reader Char := do
  char '\x7b'
  let digits ← collect (do flags.skip; one isHexDigit)
  flags.skip
  char '\x7d'
  flags.skip
  if digits = [] then failure else ofHex digits

/-- Reads the number of a character behind the letter that says how it is spelled. -/
def number (flags : Flags) (mark : Char) : Reader Primitive := do
  flags.skip
  match ← peek with
  | some '\x7b' => return .char (← hexBraces flags)
  | _ =>
    match mark with
    | 'x' => return .byte (← hexDigits flags 2)
    | 'u' => return .char (← hexDigits flags 4)
    | _ => return .char (← hexDigits flags 8)

/-- Cuts a name in two at the first place where a separator stands. -/
def cut? (separator : List Char) : List Char → Option (List Char × List Char)
  | [] => none
  | c :: rest =>
    if separator.isPrefixOf (c :: rest) then some ([], (c :: rest).drop separator.length)
    else (cut? separator rest).map fun parts => (c :: parts.1, parts.2)

/-- What the name of a class asks for: the set, and whether all other characters are meant. -/
def query? (name : List Char) : Option (CharSet × Bool) :=
  let valued (parts : List Char × List Char) : Option CharSet :=
    Unicode.Lookup.valued? (String.ofList parts.1) (String.ofList parts.2)
  match cut? ['!', '='] name, cut? [':'] name, cut? ['='] name with
  | some parts, _, _ => (valued parts).map (·, true)
  | none, some parts, _ | none, none, some parts => (valued parts).map (·, false)
  | none, none, none => (Unicode.Lookup.named? (String.ofList name)).map (·, false)

/-- The name of a class: one character, or several between braces. -/
def className (flags : Flags) : Reader (List Char) := do
  flags.skip
  let c ← one (· != '\\')
  if c = '\x7b' then
    let name ← collect (do flags.skip; one (· != '\x7d'))
    flags.skip
    char '\x7d'
    return name
  else
    flags.skip
    return [c]

/-- A class of the standard by its name, negated or not. -/
def unicodeClass (flags : Flags) (negated : Bool) : Reader Primitive := do
  let name ← className flags
  match query? name with
  | some (set, others) =>
    let set := flags.close set
    if flags.unicode then return .set (if negated != others then set.complement else set)
    else failure
  | none => failure

/-- The class of a letter, or all that is not in it. -/
def letterClass (flags : Flags) (set : CharSet) (negated : Bool) : Reader Primitive :=
  match flags.negate? negated set with
  | some set => return .set set
  | none => failure

/-- The requirements that have a name between braces after a letter `b`. -/
def namedLooks : List (String × Look) :=
  [("start", .wordStart), ("end", .wordEnd), ("start-half", .noWordBefore),
    ("end-half", .noWordAfter)]

/-- The characters that names of bracketed requirements consist of. -/
def isNameChar (c : Char) : Bool := c.isAlpha || c == '-'

/-- What follows a letter `b`: a name between braces, unless something else begins there. -/
def boundary (flags : Flags) : Reader Primitive := fun text =>
  match text with
  | '\x7b' :: rest =>
    match flags.skip rest with
    | none | some (_, []) => none
    | some (_, next :: after) =>
      if isNameChar next then
        let named : Reader Primitive := do
          let name ← collect (do let c ← one isNameChar; flags.skip; return c)
          char '\x7d'
          match namedLooks.lookup (String.ofList name) with
          | some look => return .look look
          | none => failure
        named (next :: after)
      else some (.look .wordBoundary, text)
  | _ => some (.look .wordBoundary, text)

/-- The letters for control characters. -/
def controls : List (Char × Char) :=
  [('a', '\x07'), ('f', '\x0c'), ('t', '\t'), ('n', '\n'), ('r', '\r'), ('v', '\x0b')]

/-- A character that stands for itself after a backslash. -/
def isEscapable (c : Char) : Bool :=
  c.toNat ≤ 0x7F && !c.isAlphanum && c != '<' && c != '>'

/-- Reads an escape from its backslash on. -/
def read (flags : Flags) : Reader Primitive := do
  char '\\'
  let c ← one fun _ => true
  match c with
  | 'x' | 'u' | 'U' => number flags c
  | 'p' => unicodeClass flags false
  | 'P' => unicodeClass flags true
  | 'd' => letterClass flags flags.digit false
  | 'D' => letterClass flags flags.digit true
  | 's' => letterClass flags flags.space false
  | 'S' => letterClass flags flags.space true
  | 'w' => letterClass flags flags.word false
  | 'W' => letterClass flags flags.word true
  | 'A' => return .look .textStart
  | 'z' => return .look .textEnd
  | 'b' => boundary flags
  | 'B' => return .look .noWordBoundary
  | '<' => return .look .wordStart
  | '>' => return .look .wordEnd
  | c =>
    match controls.lookup c with
    | some control => return .char control
    | none => if isEscapable c then return .char c else failure

end Escape

end MetricRelay.Pattern

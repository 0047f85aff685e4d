/-
**Groups, choices and repetitions.**

`Reading` is a pattern that has been read in part: the parts of the current branch, the branches
before it, and the groups that are open around it. `Reading.step` reads one more part.

* `Reading.expr?`: the pattern in a text, which may be nested at most 250 deep.
-/

import MetricRelay.Pattern.Bracket
import MetricRelay.Pattern.Normal

namespace MetricRelay.Pattern

open Text (Reader)
open Text.Reader

/-- A part of a branch. -/
structure Part where
  expr : Expr Leaf
  depth : Nat := 0
  /-- It can be repeated; flags cannot. -/
  repeatable : Bool := true

/-- A group that is open: what stands before it, and the flags that hold after it. -/
structure OpenGroup where
  parts : List Part
  branches : List Part
  flags : Flags
  /-- The number of the group, if its match is remembered. -/
  number : Option Nat

/-- A pattern that has been read in part. The last part and the last branch come first. -/
structure Reading where
  flags : Flags := {}
  parts : List Part := []
  branches : List Part := []
  groups : List OpenGroup := []
  /-- The number of groups so far whose match is remembered. -/
  remembered : Nat := 0
  names : List (List Char) := []

namespace Part

/-- Some parts as one; more than one are a level deeper. -/
def fuse (join : List (Expr Leaf) → Expr Leaf) : List Part → Part
  | [] => { expr := .nothing }
  | [part] => part
  | parts =>
    { expr := join (parts.map fun part => part.expr)
      depth := parts.foldl (fun depth part => max depth part.depth) 0 + 1 }

/-- One character of a set. -/
def ofSet (flags : Flags) (set : Unicode.CharSet) : Part :=
  { expr := .ofSet set (!flags.unicode) }

/-- A character. Where letter case is ignored, it stands for the same letter in both cases. -/
def ofChar (flags : Flags) (c : Char) : Part :=
  let set := Unicode.CharSet.single c.toNat
  ofSet flags (if flags.unicode || c.toNat ≤ 0x7F then flags.close set else set)

/-- A requirement. -/
def ofLook (flags : Flags) (look : Look) : Part :=
  { expr := .leaf (.look look flags.word) }

end Part

namespace Reading

/-- One more part of the branch. -/
def push (reading : Reading) (part : Part) : Reading :=
  { reading with parts := part :: reading.parts }

/-- The branch that is being read. -/
def branch (reading : Reading) : Part :=
  Part.fuse .sequence reading.parts.reverse

/-- The choice between all branches of the group that is being read. -/
def choice (reading : Reading) : Part :=
  Part.fuse .choice (reading.branch :: reading.branches).reverse

/-- Ends a branch at a bar. -/
def bar (reading : Reading) : Reading :=
  { reading with parts := [], branches := reading.branch :: reading.branches }

/-- Opens a group inside. -/
def openGroup (reading : Reading) (flags : Flags) (isRemembered : Bool) : Reading :=
  let number := if isRemembered then some (reading.remembered + 1) else none
  { reading with
    flags
    parts := []
    branches := []
    remembered := number.getD reading.remembered
    groups := ⟨reading.parts, reading.branches, reading.flags, number⟩ :: reading.groups }

/-- Closes the innermost group: it becomes a part of the branch in front of it. -/
def closeGroup? (reading : Reading) : Option Reading :=
  match reading.groups with
  | [] => none
  | group :: groups =>
    let inner := reading.choice
    let expr :=
      match group.number with
      | some number => .group number inner.expr
      | none => inner.expr
    some { reading with
      flags := group.flags
      parts := { expr, depth := inner.depth + 1 } :: group.parts
      branches := group.branches
      groups }

/-- The last part is repeated. A mark turns what the flags say about lazy repetitions round. -/
def many? (reading : Reading) (least : Nat) (most : Option Nat) (marked : Bool) :
    Option Reading :=
  match reading.parts with
  | part :: parts =>
    if part.repeatable then
      let expr := part.expr.repeated least most (marked != reading.flags.isLazy)
      some { reading with parts := { expr, depth := part.depth + 1 } :: parts }
    else none
  | [] => none

/-- The letters of names of groups. -/
def nameLetters : Unicode.CharSet :=
  Unicode.Property.alphabetic.union Unicode.Property.newerLetters

/-- The digits of names of groups. -/
def nameNumbers : Unicode.CharSet :=
  (Unicode.Category.among ["Nd", "Nl", "No"]).union Unicode.Property.newerNumbers

/-- The name of a group. Its letters and numbers are those of Unicode 17.0. -/
def groupName : Reader (List Char) := do
  let isLetter (c : Char) : Bool := nameLetters.contains c.toNat
  let isNumber (c : Char) : Bool := nameNumbers.contains c.toNat
  let first ← one fun c => c == '_' || isLetter c
  let rest ← run fun c =>
    c == '_' || c == '.' || c == '[' || c == ']' || isLetter c || isNumber c
  char '>'
  return first :: rest

/-- A question mark at the beginning of a group, and what it introduces. -/
def marked (reading : Reading) : Reader Reading := do
  match ← maybe (word ['?', 'P', '<'] <|> word ['?', '<']) with
  | some _ =>
    let name ← groupName
    if reading.names.contains name then failure
    else return { reading.openGroup reading.flags true with names := name :: reading.names }
  | none =>
    char '?'
    let letters ← run fun c => c != ':' && c != ')'
    if Flags.isWellFormed letters then
      let flags := reading.flags.apply letters
      match ← one fun _ => true with
      | ':' => return reading.openGroup flags false
      | _ =>
        if letters.isEmpty then failure
        else return { reading.push { expr := .nothing, repeatable := false } with flags }
    else failure

/-- Reads what opens a group. -/
def group (reading : Reading) : Reader Reading := do
  char '('
  reading.flags.skip
  match ← peek with
  | some '?' => marked reading
  | _ => return reading.openGroup reading.flags true

/-- The greatest number of repetitions that can be written. -/
def maxCount : Nat := 4294967295

/-- A number of repetitions; blanks around it never count. -/
def count (flags : Flags) : Reader Nat := do
  let _ ← run Text.isBlank
  let digits ← collect (do let digit ← one Char.isDigit; flags.skip; return digit)
  let _ ← collect (do let _ ← one Text.isBlank; flags.skip)
  match Text.natural? digits with
  | some n => if n ≤ maxCount then return n else failure
  | none => failure

/-- Reads the bounds of a repetition between braces. -/
def bounds (flags : Flags) : Reader (Nat × Option Nat) := do
  char '\x7b'
  flags.skip
  let least ← count flags
  match ← maybe (do char ','; flags.skip) with
  | none =>
    char '\x7d'
    return (least, some least)
  | some _ =>
    match ← maybe (char '\x7d') with
    | some _ => return (least, none)
    | none =>
      let most ← count flags
      char '\x7d'
      if least ≤ most then return (least, some most) else failure

/-- A repetition. A question mark after it marks it as lazy. -/
def repetition (reading : Reading) (read : Reader (Nat × Option Nat)) : Reader Reading := do
  let (least, most) ← read
  let mark ← maybe (char '?')
  match reading.many? least most mark.isSome with
  | some reading => return reading
  | none => failure

/-- Reads a sign for a repetition, whose bounds are known. -/
def shortBounds (c : Char) (least : Nat) (most : Option Nat) : Reader (Nat × Option Nat) := do
  char c
  return (least, most)

/-- Reads an escape as a part. -/
def escape (reading : Reading) : Reader Reading := do
  let primitive ← Escape.read reading.flags
  match primitive with
  | .set set => return reading.push (.ofSet reading.flags set)
  | .look look => return reading.push (.ofLook reading.flags look)
  | other =>
    match other.char? reading.flags with
    | some c => return reading.push (.ofChar reading.flags c)
    | none => failure

/-- Reads one more part, or a sign between parts. -/
def step (reading : Reading) : Reader Reading := do
  let flags := reading.flags
  match ← peek with
  | some '(' => group reading
  | some ')' =>
    char ')'
    match reading.closeGroup? with
    | some reading => return reading
    | none => failure
  | some '|' => do
    char '|'
    return reading.bar
  | some '[' => do
    let operand ← Bracket.read flags
    return reading.push { Part.ofSet flags operand.set with depth := operand.depth }
  | some '?' => repetition reading (shortBounds '?' 0 (some 1))
  | some '*' => repetition reading (shortBounds '*' 0 none)
  | some '+' => repetition reading (shortBounds '+' 1 none)
  | some '\x7b' => repetition reading (do let found ← bounds flags; flags.skip; return found)
  | some '\\' => escape reading
  | some '.' => do
    char '.'
    match flags.dot? with
    | some set => return reading.push (.ofSet flags set)
    | none => failure
  | some '^' => do
    char '^'
    return reading.push (.ofLook flags flags.startLook)
  | some '$' => do
    char '$'
    return reading.push (.ofLook flags flags.endLook)
  | _ => return reading.push (.ofChar flags (← one fun _ => true))

/-- Reads parts to the end of the text. The number of steps bounds the reading. -/
def steps : Nat → Reading → Reader Reading
  | 0, reading => return reading
  | left + 1, reading => do
    reading.flags.skip
    match ← peek with
    | none => return reading
    | some _ => steps left (← step reading)

/-- How deep a pattern may be nested. -/
def maxDepth : Nat := 250

/-- The pattern in a text. -/
def expr? (text : List Char) : Option (Expr Leaf) := do
  let reading ← whole? (steps (text.length + 1) {}) text
  let choice := reading.choice
  if reading.groups.isEmpty && choice.depth ≤ maxDepth then some choice.expr else none

end Reading

end MetricRelay.Pattern

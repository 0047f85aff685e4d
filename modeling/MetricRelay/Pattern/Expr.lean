/-
**Patterns as sets of positions.**

A pattern is matched from many positions of a text at once. `Expr.ends` maps the positions from
which a match may begin to those at which it may end, and follows the structure of the pattern: one
part after another composes two such maps, a choice unites what they give, and a repetition goes
round until nothing new is reached. A set of positions is a number with a bit for each of them.

The leaves of a pattern say which characters are taken or what has to hold between two of them;
`Leaf.step` is what a leaf does to positions of one text.
-/

import MetricRelay.Unicode.Lookup

namespace MetricRelay.Pattern

open Unicode (CharSet)

/-- What is required between two characters, without taking one. -/
inductive Look where
  | textStart
  | textEnd
  | lineStart
  | lineEnd
  /-- A line ends with a carriage return, a line feed, or both. -/
  | anyLineStart
  | anyLineEnd
  | wordBoundary
  | noWordBoundary
  | wordStart
  | wordEnd
  | noWordBefore
  | noWordAfter
  deriving DecidableEq, Repr

/-- A part of a pattern that has no parts. -/
inductive Leaf where
  /-- Characters, one after the other. -/
  | literal (text : List Char)
  /-- One character of a set. A set that was given without the standard is a set of bytes. -/
  | chars (set : CharSet) (isBytes : Bool)
  /-- Characters of words are those of a set. -/
  | look (look : Look) (word : CharSet)
  deriving DecidableEq, Repr

/-- A pattern over leaves of some type. -/
inductive Expr (α : Type) where
  /-- Takes nothing. -/
  | nothing
  | leaf (value : α)
  | both (first second : Expr α)
  | either (first second : Expr α)
  /-- At least `least` times, and at most `most` times if that is given. Of several matches a lazy
  repetition prefers the one with the fewest rounds. -/
  | many (inner : Expr α) (least : Nat) (most : Option Nat) (isLazy : Bool)
  /-- A part whose match is remembered, and its number. -/
  | group (number : Nat) (inner : Expr α)
  deriving DecidableEq, Repr

/-- What a leaf does to positions: it keeps some of them, and moves past characters. -/
structure Step where
  kept : Nat
  length : Nat

namespace Step

/-- The positions that a step leads to. -/
def run (step : Step) (positions : Nat) : Nat :=
  (positions &&& step.kept) <<< step.length

end Step

namespace Look

/-- The requirement holds between two characters, of which there is none at the ends of a text. -/
def holds (word : CharSet) (before after : Option Char) : Look → Bool :=
  let isWord (c : Option Char) : Bool := c.any fun c => word.contains c.toNat
  let isFeed (c : Option Char) : Bool := c == some '\n'
  let isReturn (c : Option Char) : Bool := c == some '\r'
  fun
  | textStart => before.isNone
  | textEnd => after.isNone
  | lineStart => before.isNone || isFeed before
  | lineEnd => after.isNone || isFeed after
  | anyLineStart => before.isNone || isFeed before || (isReturn before && !isFeed after)
  | anyLineEnd => after.isNone || isReturn after || (isFeed after && !isReturn before)
  | wordBoundary => isWord before != isWord after
  | noWordBoundary => isWord before == isWord after
  | wordStart => !isWord before && isWord after
  | wordEnd => isWord before && !isWord after
  | noWordBefore => !isWord before
  | noWordAfter => !isWord after

end Look

namespace Leaf

/-- The positions of a text at which a test holds, from a bit on. The test is given the character
before the position, and the text after it. -/
def positions (test : Option Char → List Char → Bool) (bit : Nat) (before : Option Char) :
    List Char → Nat
  | [] => if test before [] then bit else 0
  | c :: rest =>
    (if test before (c :: rest) then bit else 0) ||| positions test (bit * 2) (some c) rest

/-- What a leaf does to the positions of a text. -/
def step (text : List Char) : Leaf → Step
  | .literal wanted =>
    ⟨positions (fun _ after => wanted.isPrefixOf after) 1 none text, wanted.length⟩
  | .chars set _ =>
    ⟨positions (fun _ after => after.head?.any fun c => set.contains c.toNat) 1 none text, 1⟩
  | .look required word =>
    ⟨positions (fun before after => required.holds word before after.head?) 1 none text, 0⟩

end Leaf

namespace Expr

variable {α β : Type}

/-- The pattern with a function on its leaves. -/
def map (f : α → β) : Expr α → Expr β
  | nothing => nothing
  | leaf value => leaf (f value)
  | both first second => both (map f first) (map f second)
  | either first second => either (map f first) (map f second)
  | many inner least most isLazy => many (map f inner) least most isLazy
  | group number inner => group number (map f inner)

/-- Goes round a number of times; once a round changes nothing, no further one does. -/
def rounds (round : Nat → Nat) : Nat → Nat → Nat
  | 0, positions => positions
  | count + 1, positions =>
    let next := round positions
    if next = positions then positions else rounds round count next

/-- Where a match may end that begins at one of some positions, in a text with less than `limit`
positions. -/
def ends (limit : Nat) : Expr Step → Nat → Nat
  | nothing, positions => positions
  | leaf step, positions => step.run positions
  | both first second, positions => ends limit second (ends limit first positions)
  | either first second, positions => ends limit first positions ||| ends limit second positions
  | many inner least most _, positions =>
    let start := rounds (ends limit inner) least positions
    let further :=
      match most with
      | some most => most - least
      | none => limit
    rounds (fun reached => reached ||| ends limit inner reached) further start
  | group _ inner, positions => ends limit inner positions

/-- Some part of a text matches: a match that may begin anywhere ends somewhere. -/
def occursIn (pattern : Expr Leaf) (text : String) : Bool :=
  let chars := text.toList
  let limit := chars.length + 1
  ends limit (pattern.map (Leaf.step chars)) (Nat.pow 2 limit - 1) != 0

end Expr

end MetricRelay.Pattern

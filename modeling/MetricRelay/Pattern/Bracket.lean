/-
**Classes of characters in brackets.**

A class lists characters, ranges and other classes. Two lists may be joined by `&&` for what is in
both, by `--` for what is in the first one only, and by `~~` for what is in exactly one of them; of
several joints the first one binds most.
-/

import MetricRelay.Pattern.Escape

namespace MetricRelay.Pattern.Bracket

open Text (Reader)
open Text.Reader
open Unicode (CharSet)

/-- How two lists are joined. -/
inductive Joint where
  | inBoth
  | onlyFirst
  | inOne
  deriving DecidableEq, Repr

/-- A set, and how deep the class that describes it is nested. -/
structure Operand where
  set : CharSet
  depth : Nat

/-- What has been read of a list. -/
structure Listing where
  set : CharSet := .empty
  items : Nat := 0
  depth : Nat := 0

namespace Listing

/-- One more item. -/
def add (list : Listing) (set : CharSet) (depth : Nat) : Listing :=
  ⟨list.set.union set, list.items + 1, max list.depth depth⟩

/-- The whole list; several items are one level deeper. -/
def operand (list : Listing) : Operand :=
  ⟨list.set, if 2 ≤ list.items then list.depth + 1 else list.depth⟩

end Listing

/-- What is still open around a list. -/
inductive Level where
  /-- A bracket, after another list. -/
  | bracket (outer : Listing) (negated : Bool)
  | joint (joint : Joint) (first : Operand)

/-- Two lists that are joined, each one closed under letter case first if that is ignored. -/
def Joint.join (flags : Flags) (joint : Joint) (first second : Operand) : Operand :=
  let left := flags.close first.set
  let right := flags.close second.set
  let set :=
    match joint with
    | inBoth => left.inter right
    | onlyFirst => left.minus right
    | inOne => left.symmetricDifference right
  ⟨set, max first.depth second.depth + 1⟩

/-- Joins a list to the one before it, if there is a joint between them. -/
def settle (flags : Flags) (levels : List Level) (second : Operand) : List Level × Operand :=
  match levels with
  | .joint joint first :: rest => (rest, joint.join flags first second)
  | levels => (levels, second)

/-- The classes of ASCII characters that have a name between colons. -/
def asciiClasses : List (String × CharSet) :=
  [("alnum", ⟨[(0x30, 0x39), (0x41, 0x5A), (0x61, 0x7A)]⟩),
    ("alpha", ⟨[(0x41, 0x5A), (0x61, 0x7A)]⟩),
    ("ascii", .ascii),
    ("blank", ⟨[(0x09, 0x09), (0x20, 0x20)]⟩),
    ("cntrl", ⟨[(0x00, 0x1F), (0x7F, 0x7F)]⟩),
    ("digit", ⟨[(0x30, 0x39)]⟩),
    ("graph", ⟨[(0x21, 0x7E)]⟩),
    ("lower", ⟨[(0x61, 0x7A)]⟩),
    ("print", ⟨[(0x20, 0x7E)]⟩),
    ("punct", ⟨[(0x21, 0x2F), (0x3A, 0x40), (0x5B, 0x60), (0x7B, 0x7E)]⟩),
    ("space", ⟨[(0x09, 0x0D), (0x20, 0x20)]⟩),
    ("upper", ⟨[(0x41, 0x5A)]⟩),
    ("word", ⟨[(0x30, 0x39), (0x41, 0x5A), (0x5F, 0x5F), (0x61, 0x7A)]⟩),
    ("xdigit", ⟨[(0x30, 0x39), (0x41, 0x46), (0x61, 0x66)]⟩)]

/-- A class with a name between colons, negated or not. -/
def asciiClass : Reader (CharSet × Bool) := do
  word ['[', ':']
  let mark ← maybe (char '^')
  let name ← run (· != ':')
  word [':', ']']
  match asciiClasses.lookup (String.ofList name) with
  | some set => return (set, mark.isSome)
  | none => failure

/-- The beginning of a class: a circumflex negates it, and dashes or else a closing bracket right at
the beginning are meant literally. -/
def opening (flags : Flags) : Reader (Bool × Listing) := do
  char '['
  flags.skip
  let mark ← maybe (do char '^'; flags.skip)
  let dashes ← collect (do char '-'; flags.skip)
  let list := dashes.foldl (fun list _ => list.add (.single '-'.toNat) 0) ({} : Listing)
  if dashes.isEmpty then
    match ← maybe (do char ']'; flags.skip) with
    | some _ => return (mark.isSome, list.add (.single ']'.toNat) 0)
    | none => return (mark.isSome, list)
  else return (mark.isSome, list)

/-- A character of a class, or an escape. -/
def primitive (flags : Flags) : Reader Primitive := do
  match ← peek with
  | some '\\' => Escape.read flags
  | _ => return .char (← one fun _ => true)

/-- The character that a primitive stands for in a class. -/
def member (flags : Flags) (primitive : Primitive) : Reader Nat :=
  match primitive.char? flags with
  | some c => if flags.unicode || c.toNat ≤ 0x7F then return c.toNat else failure
  | none => failure

/-- The character behind the one that was just read. A comment counts for nothing where that holds.
-/
def following (flags : Flags) (text : List Char) : Option Char :=
  if flags.verbose then
    match text.dropWhile Text.isBlank with
    | '#' :: rest => (rest.dropWhile Text.isBlank).head?
    | rest => rest.head?
  else text.head?

/-- A dash stands here, and a range goes on behind it: neither the end of the class nor another dash
does. -/
def isRange (flags : Flags) (text : List Char) : Bool :=
  match text with
  | '-' :: rest => following flags rest != some ']' && following flags rest != some '-'
  | _ => false

/-- One item of a class: a range, a character or a class with a letter. -/
def item (flags : Flags) : Reader CharSet := do
  let first ← primitive flags
  flags.skip
  let text ← get
  if isRange flags text then
    char '-'
    flags.skip
    let second ← primitive flags
    let least ← member flags first
    let greatest ← member flags second
    if least ≤ greatest then return ⟨[(least, greatest)]⟩ else failure
  else
    match first with
    | .set set => return set
    | .look _ => failure
    | other => return .single (← member flags other)

/-- The joint that a text begins with. -/
def joint? : List Char → Option Joint
  | '&' :: '&' :: _ => some .inBoth
  | '-' :: '-' :: _ => some .onlyFirst
  | '~' :: '~' :: _ => some .inOne
  | _ => none

/-- The set of a class at its end; `failure` where it cannot be negated. -/
def closed (flags : Flags) (negated : Bool) (operand : Operand) : Reader Operand :=
  match flags.negate? negated (flags.close operand.set) with
  | some set => return ⟨set, operand.depth + 1⟩
  | none => failure

/-- Reads on in a class, inside the classes and joints that are open. The number of steps bounds the
reading. -/
def rest (flags : Flags) : Nat → List Level → Listing → Reader Operand
  | 0, _, _ => failure
  | steps + 1, levels, list => do
    flags.skip
    let text ← get
    match text with
    | '[' :: _ =>
      match ← maybe asciiClass with
      | some (set, negated) =>
        match flags.negate? negated (flags.close set) with
        | some set => rest flags steps levels (list.add set 0)
        | none => failure
      | none =>
        let (negated, inner) ← opening flags
        rest flags steps (.bracket list negated :: levels) inner
    | ']' :: _ =>
      char ']'
      match settle flags levels list.operand with
      | ([.bracket _ negated], operand) => closed flags negated operand
      | (.bracket outer negated :: levels, operand) =>
        let inner ← closed flags negated operand
        rest flags steps levels (outer.add inner.set inner.depth)
      | _ => failure
    | _ =>
      match joint? text with
      | some joint =>
        let _ ← collectUpTo (one fun _ => true) 2
        let (levels, first) := settle flags levels list.operand
        rest flags steps (.joint joint first :: levels) {}
      | none =>
        let set ← item flags
        rest flags steps levels (list.add set 0)

/-- Reads a class with its brackets. -/
def read (flags : Flags) : Reader Operand := do
  let (negated, list) ← opening flags
  let text ← get
  rest flags (text.length + 1) [.bracket {} negated] list

end MetricRelay.Pattern.Bracket

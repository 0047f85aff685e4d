/-
**How large a pattern is once it is compiled.**

A pattern counts as too large when one of its automata takes more than ten megabytes. There are two
of them: one reads a text forward and marks where groups begin and end, the other one reads it
backward. `Plan.build` goes through a pattern as a construction of the automaton does and keeps only
the size; it stops when the automaton is too large.

A choice between literals is built as a tree in which literals that begin alike share their states.
-/

import MetricRelay.Pattern.Draft
import MetricRelay.Pattern.Extent

namespace MetricRelay.Pattern

open Unicode.Utf8 (ByteRange)

/-- The direction in which an automaton reads. -/
inductive Direction where
  | forward
  | backward
  deriving DecidableEq, Repr

/-- What is built for a leaf. -/
inductive Plan.Sort where
  /-- A state for each byte. -/
  | line (bytes : List UInt8)
  | single
  /-- A state with links for ranges of ASCII characters. -/
  | fan (ranges : Nat)
  | network (pieces : List (List ByteRange))

/-- What is built for a leaf, and the extent of the leaf. -/
structure Plan where
  sort : Plan.Sort
  extent : Extent

namespace Plan

/-- What is built for a leaf. -/
def ofLeaf (leaf : Leaf) : Plan where
  sort :=
    match leaf with
    | .literal text => .line (text.flatMap fun c => Unicode.Utf8.bytes c.toNat)
    | .chars set _ =>
      if set.isAscii then .fan set.ranges.length else .network (Unicode.Utf8.sequences set)
    | .look _ _ => .single
  extent := leaf.extent

/-- A part that has been built. Where it ends in a fork, what follows is a branch of the fork. -/
structure Built where
  draft : Draft
  endsInFork : Bool := false

namespace Built

/-- The draft when the end is linked to what follows. -/
def linked (built : Built) : Draft :=
  if built.endsInFork then built.draft.link 1 else built.draft

end Built

/-- Builds a leaf. The last state is the one that goes on. -/
def leaf (direction : Direction) (plan : Plan) (draft : Draft) : Draft :=
  match plan.sort with
  | .line bytes => draft.add bytes.length
  | .single => draft.add 1
  | .fan ranges => (draft.add 1).addFan ranges
  | .network pieces =>
    match direction with
    | .forward => draft.forward pieces
    | .backward => draft.backward pieces

/-- The literals of a choice between literals, and between nothing else. -/
def literals? : Expr Plan → Option (List (List UInt8))
  | .leaf ⟨.line bytes, _⟩ => some [bytes]
  | .either first rest => do return (← literals? first) ++ (← literals? rest)
  | _ => none

/-- Cuts a list at every empty entry. Empty entries at the beginning count as one. -/
def segments : List (List UInt8) → List (List (List UInt8))
  | [] => [[]]
  | [] :: rest =>
    match segments rest with
    | [] :: following :: others => [] :: following :: others
    | others => [] :: others
  | literal :: rest => cutAfter [literal] rest
where
  /-- Cuts the rest of a list whose current segment is collected in reverse. -/
  cutAfter (segment : List (List UInt8)) : List (List UInt8) → List (List (List UInt8))
    | [] => [segment.reverse]
    | [] :: rest => segment.reverse :: cutAfter [] rest
    | literal :: rest => cutAfter (literal :: segment) rest

/-- Literals with the same first byte, without their first byte, together; their order stays. -/
def families (literals : List (List UInt8)) : List (List (List UInt8)) :=
  let sorted := literals.mergeSort fun first second => first.headD 0 ≤ second.headD 0
  (sorted.splitBy fun first second => first.headD 0 == second.headD 0).map fun family =>
    family.map (·.drop 1)

/-- Builds the tree of literals that are at most so long, up to its first state. At each state the
literals are cut where one of them ends. -/
def tree : Nat → List (List UInt8) → Draft → Draft
  | 0, _, draft => draft
  | length + 1, literals, draft =>
    let segments := segments literals
    let draft := segments.foldl (fun draft segment =>
      let families := families segment
      let draft := families.foldl (fun draft family =>
        if family.all List.isEmpty then draft else tree length family draft) draft
      match families.length with
      | 0 => draft
      | 1 => (draft.add 1).link 1
      | links => (draft.addFan links).link 1) draft
    (draft.add 1).link (segments.length - 1)

/-- Builds a choice between literals as a tree. -/
def literals (direction : Direction) (literals : List (List UInt8)) (draft : Draft) : Draft :=
  let literals :=
    match direction with
    | .forward => literals
    | .backward => literals.map List.reverse
  tree ((literals.map List.length).foldl max 0 + 1) literals (draft.add 1)

/-- Builds something some more times in a row, unless the automaton is too large already. -/
def furtherTimes (one : Draft → Built) : Nat → Built → Built
  | 0, built => built
  | count + 1, built =>
    if built.draft.isTooLarge then built else furtherTimes one count (one built.linked)

/-- Builds something several times in a row, and a state of its own for no time at all. -/
def times (one : Draft → Built) (count : Nat) (draft : Draft) : Built :=
  match count with
  | 0 => { draft := draft.add 1 }
  | count + 1 => furtherTimes one count (one draft)

/-- Builds something some more times in a row, where each time it can be left out. -/
def optionally (one : Draft → Built) : Nat → Built → Built
  | 0, built => built
  | count + 1, built =>
    if built.draft.isTooLarge then built
    else
      let further := one (built.linked.add 1)
      optionally one count { further with draft := further.draft.link 2 }

/-- Builds a repetition with its bounds. -/
def repetition (one : Draft → Built) (mayBeEmpty : Bool) (least : Nat) (most : Option Nat)
    (draft : Draft) : Built :=
  match least, most with
  | 0, some 1 => { draft := ((one (draft.add 1)).linked.add 1).link 2 }
  | 0, none =>
    if mayBeEmpty then { draft := ((one draft).linked.add 3).link 4 }
    else { draft := (one (draft.add 1)).linked.link 1, endsInFork := true }
  | least, none =>
    { draft := ((times one least draft).linked.add 1).link 1, endsInFork := true }
  | least, some most =>
    let required := times one least draft
    if least = most then required
    else
      { draft := (optionally one (most - least)
          { required with draft := required.draft.add 1 }).linked }

/-- The place of a branch in a choice. -/
inductive Place where
  /-- It is no branch, or the first one. -/
  | first
  | second
  | later

namespace Place

/-- Links a branch to the fork before it and to the state in which all branches end. These two are
built behind the second branch. -/
def settle (place : Place) (built : Built) : Built :=
  match place with
  | first => built
  | second => { draft := (built.linked.add 2).link 2 }
  | later => { draft := built.linked.link 1 }

end Place

/-- Builds a pattern that stands at a place of a choice. -/
def build (direction : Direction) : Expr Plan → Place → Draft → Built
  | .nothing, place, draft => place.settle { draft := draft.add 1 }
  | .leaf plan, place, draft => place.settle { draft := leaf direction plan draft }
  | .both first rest, place, draft =>
    place.settle <|
      match direction with
      | .forward => build direction rest .first (build direction first .first draft).linked
      | .backward => build direction first .first (build direction rest .first draft).linked
  | .either branch rest, place, draft =>
    match place with
    | .first =>
      match literals? (.either branch rest) with
      | some texts => { draft := literals direction texts draft }
      | none => build direction rest .second (build direction branch .first draft).linked
    | place => build direction rest .later (build direction branch place draft).draft
  | .many inner least most _, place, draft =>
    place.settle <|
      repetition (build direction inner .first) (inner.extent Plan.extent).mayBeEmpty least most
        draft
  | .group _ inner, place, draft =>
    place.settle <|
      match direction with
      | .forward => { draft := (build direction inner .first (draft.add 1)).linked.add 1 }
      | .backward => build direction inner .first draft

/-- What stands before every pattern: a state if its matches have to begin where the reading begins,
and else a loop over all bytes. -/
def opening (isFixed : Bool) : Built :=
  if isFixed then { draft := { states := 1 } }
  else { draft := (({} : Draft).add 2).addFan 1 |>.link 1, endsInFork := true }

/-- The automaton of a pattern for one direction. Read forward, the whole match is a group. -/
def automaton (direction : Direction) (expr : Expr Plan) : Draft :=
  let extent := expr.extent Plan.extent
  match direction with
  | .forward =>
    let opening := opening extent.atStart
    (build direction (.group 0 expr) .first opening.linked).linked.add 1
  | .backward =>
    let opening := opening extent.atEnd
    (build direction expr .first opening.linked).linked.add 1

/-- The fewest literals between which a choice is made without an automaton. -/
def tableSize : Nat := 3000

/-- The pattern is a choice between so many literals that they are looked up in a table. -/
def isTable (expr : Expr Plan) : Bool :=
  (literals? expr).any fun texts => tableSize ≤ texts.length

/-- The pattern is small enough: in both directions, or since it needs no automaton. -/
def isWithinLimit (pattern : Expr Leaf) : Bool :=
  let expr := pattern.map ofLeaf
  isTable expr ||
    (!(automaton .forward expr).isTooLarge && !(automaton .backward expr).isTooLarge)

end Plan

end MetricRelay.Pattern

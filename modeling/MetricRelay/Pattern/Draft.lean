/-
**Automata under construction.**

A pattern is compiled to an automaton that reads bytes. What counts is how much memory its states
take, so a `Draft` holds their number and the memory of the links that some of them keep in lists.

A set of code points beyond ASCII becomes a network of states for the byte ranges of its pieces:

* `Draft.forward`: pieces that begin alike share the states of their beginning, and pieces that end
  alike share those of their end;
* `Draft.backward`: the bytes are read from the last one on, and pieces share the states that are
  left when the same bytes were read.

States that may be shared are looked up in a table with a fixed number of places. A state is
forgotten when another one takes its place, so sharing depends on the numbers of the states.
-/

import MetricRelay.Unicode.Utf8
import Std.Data.HashMap

namespace MetricRelay.Pattern

open Unicode.Utf8 (ByteRange)

/-- The size of an automaton under construction: the number of its states, and the memory of the
links that they keep in lists. -/
structure Draft where
  states : Nat := 0
  linkBytes : Nat := 0
  deriving DecidableEq, Repr

namespace Draft

/-- The memory of one state. -/
def stateBytes : Nat := 32

/-- The memory of a link for a range of bytes. -/
def rangeLinkBytes : Nat := 8

/-- The memory of a link that reads nothing. -/
def emptyLinkBytes : Nat := 4

/-- The memory that an automaton may take: ten megabytes. -/
def limit : Nat := 10485760

/-- The memory of all states and links. -/
def bytes (draft : Draft) : Nat := draft.states * stateBytes + draft.linkBytes

/-- The automaton takes more memory than it may. -/
def isTooLarge (draft : Draft) : Bool := limit < draft.bytes

/-- Some more states without links. -/
def add (draft : Draft) (count : Nat) : Draft :=
  { draft with states := draft.states + count }

/-- Some more links that read nothing. -/
def link (draft : Draft) (count : Nat) : Draft :=
  { draft with linkBytes := draft.linkBytes + count * emptyLinkBytes }

/-- One more state, with links for ranges of bytes. -/
def addFan (draft : Draft) (links : Nat) : Draft :=
  ⟨draft.states + 1, draft.linkBytes + links * rangeLinkBytes⟩

end Draft

/-- States by what is known of them, in a table with a fixed number of places. -/
structure Memo (κ : Type) where
  held : Std.HashMap Nat (κ × Nat) := {}

namespace Memo

variable {κ : Type} [DecidableEq κ]

/-- The place of a state in the table: its numbers, mixed by multiplication and exclusive or. -/
def place (size : UInt64) (numbers : List UInt64) : Nat :=
  let mixed := numbers.foldl (fun hash number => (hash ^^^ number) * 1099511628211)
    14695981039346656037
  (mixed % size).toNat

/-- The state at a place, if it is the one that is looked for. -/
def find? (memo : Memo κ) (place : Nat) (key : κ) : Option Nat :=
  match memo.held[place]? with
  | some (held, state) => if held = key then some state else none
  | none => none

/-- Puts a state at its place, where it replaces the one that was there. -/
def put (memo : Memo κ) (place : Nat) (key : κ) (state : Nat) : Memo κ :=
  ⟨memo.held.insert place (key, state)⟩

end Memo

namespace Draft

/-- A link for a range of bytes to a state. -/
structure Link where
  range : ByteRange
  target : Nat
  deriving DecidableEq, Repr

/-- A draft with the states of the current network that may be shared. -/
structure Weaving (κ : Type) where
  draft : Draft
  memo : Memo κ := {}

/-- A state that may get more links: the links it has, and the range of the link to the next state,
which may get more links itself. -/
structure Pending where
  links : List Link := []
  next : Option ByteRange := none

namespace Pending

/-- The links of a state whose next state is finished, the last one first. -/
def closed (pending : Pending) (target : Nat) : List Link :=
  match pending.next with
  | some range => ⟨range, target⟩ :: pending.links
  | none => pending.links

end Pending

/-- The places for states in a network that is read forward. -/
def forwardPlaces : UInt64 := 10000

/-- The state with some links, which is new unless there is one already. -/
def stateWith (links : List Link) (weaving : Weaving (List Link)) : Nat × Weaving (List Link) :=
  let place := Memo.place forwardPlaces (links.reverse.flatMap fun link =>
    [link.range.first.toUInt64, link.range.last.toUInt64, link.target.toUInt64])
  match weaving.memo.find? place links with
  | some state => (state, weaving)
  | none =>
    let state := weaving.draft.states
    (state, ⟨weaving.draft.addFan links.length, weaving.memo.put place links state⟩)

/-- Finishes the states of a row from the deepest one on: the state of the first one. They end in
the last state. -/
def finish (last : Nat) : List Pending → Weaving (List Link) → Nat × Weaving (List Link)
  | [], weaving => (last, weaving)
  | pending :: deeper, weaving =>
    let (next, weaving) := finish last deeper weaving
    stateWith (pending.closed next) weaving

/-- A state with nothing but the range of its next link. -/
def fresh (range : ByteRange) : Pending := { next := some range }

/-- Adds byte ranges to states in a row. The states up to the first difference stay as they are, and
the ones behind it are finished. -/
def weave (last : Nat) :
    List ByteRange → List Pending → Weaving (List Link) → List Pending × Weaving (List Link)
  | range :: ranges, pending :: deeper, weaving =>
    if pending.next = some range ∧ ranges ≠ [] then
      let (deeper, weaving) := weave last ranges deeper weaving
      (pending :: deeper, weaving)
    else
      let (next, weaving) := finish last deeper weaving
      (⟨pending.closed next, some range⟩ :: ranges.map fresh, weaving)
  | ranges, [], weaving => (ranges.map fresh, weaving)
  | [], row, weaving => (row, weaving)

/-- The network of some pieces, each a row of byte ranges. It ends in the state that was built last.
-/
def forward (draft : Draft) (pieces : List (List ByteRange)) : Draft :=
  let last := draft.states
  let (row, weaving) := pieces.foldl (fun (row, weaving) ranges => weave last ranges row weaving)
    ([({} : Pending)], ({ draft := draft.add 1 } : Weaving (List Link)))
  (finish last row weaving).2.draft

/-- The places for states in a network that is read backward. -/
def backwardPlaces : UInt64 := 1000

/-- The state that reads a range of bytes and goes on to another state. -/
def stateBefore (weaving : Weaving Link) (link : Link) : Nat × Weaving Link :=
  let place := Memo.place backwardPlaces
    [link.target.toUInt64, link.range.first.toUInt64, link.range.last.toUInt64]
  match weaving.memo.find? place link with
  | some state => (state, weaving)
  | none =>
    let state := weaving.draft.states
    (state, ⟨weaving.draft.add 1, weaving.memo.put place link state⟩)

/-- A network for pieces that is read backward. It begins with a fork to all pieces. -/
def backward (draft : Draft) (pieces : List (List ByteRange)) : Draft :=
  let last := draft.states + 1
  let weaving := pieces.foldl (fun weaving ranges =>
    let (_, weaving) := ranges.foldl (fun (target, weaving) range =>
      stateBefore weaving ⟨range, target⟩) (last, weaving)
    { weaving with draft := weaving.draft.link 1 }) ({ draft := draft.add 2 } : Weaving Link)
  weaving.draft

end Draft

end MetricRelay.Pattern

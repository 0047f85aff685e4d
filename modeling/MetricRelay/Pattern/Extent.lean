/-
**How long the matches of a pattern are, and where they lie.**

The extent of a pattern gives bounds for the bytes of its matches, and says whether they all begin
at the beginning of the text or end at its end. It follows from the extents of its parts.
-/

import MetricRelay.Pattern.Expr
import MetricRelay.Unicode.Utf8

namespace MetricRelay.Pattern

open Unicode (Utf8.width)

/-- Bounds for the matches of a pattern. -/
structure Extent where
  /-- The fewest bytes, unless there is no match. -/
  shortest : Option Nat
  /-- The most bytes, unless there is no match or no bound. -/
  longest : Option Nat
  /-- Every match begins at the beginning of the text. -/
  atStart : Bool := false
  /-- Every match ends at the end of the text. -/
  atEnd : Bool := false
  deriving DecidableEq, Repr

namespace Extent

/-- Matches without a byte. -/
def zero : Extent := ⟨some 0, some 0, false, false⟩

/-- No match has a byte. -/
def isEmpty (extent : Extent) : Bool := extent.longest == some 0

/-- Some match may have no byte, or there is no match. -/
def mayBeEmpty (extent : Extent) : Bool :=
  match extent.shortest with
  | some (_ + 1) => false
  | _ => true

/-- The extent of two patterns, one after the other. -/
def both (first second : Extent) : Extent where
  shortest := do return (← first.shortest) + (← second.shortest)
  longest := do return (← first.longest) + (← second.longest)
  atStart := first.atStart || (first.isEmpty && second.atStart)
  atEnd := second.atEnd || (second.isEmpty && first.atEnd)

/-- The extent of a choice between two patterns. -/
def either (first second : Extent) : Extent where
  shortest := do return min (← first.shortest) (← second.shortest)
  longest := do return max (← first.longest) (← second.longest)
  atStart := first.atStart && second.atStart
  atEnd := first.atEnd && second.atEnd

/-- The extent of a repetition. -/
def many (inner : Extent) (least : Nat) (most : Option Nat) : Extent where
  shortest := inner.shortest.map (· * least)
  longest := do return (← inner.longest) * (← most)
  atStart := 0 < least && inner.atStart
  atEnd := 0 < least && inner.atEnd

end Extent

/-- The extent of a leaf, in bytes of UTF-8. -/
def Leaf.extent : Leaf → Extent
  | .literal text =>
    let bytes := text.foldr (fun c bytes => Utf8.width c.toNat + bytes) 0
    { shortest := some bytes, longest := some bytes }
  | .chars set _ => {
      shortest := set.ranges.head?.map fun range => Utf8.width range.1
      longest := set.ranges.getLast?.map fun range => Utf8.width range.2 }
  | .look required _ =>
    { Extent.zero with atStart := required = .textStart, atEnd := required = .textEnd }

/-- The extent of a pattern over leaves with extents. -/
def Expr.extent {α : Type} (ofLeaf : α → Extent) : Expr α → Extent
  | nothing => .zero
  | leaf value => ofLeaf value
  | both first second => (first.extent ofLeaf).both (second.extent ofLeaf)
  | either first second => (first.extent ofLeaf).either (second.extent ofLeaf)
  | many inner least most _ => (inner.extent ofLeaf).many least most
  | group _ inner => inner.extent ofLeaf

end MetricRelay.Pattern

/-
**Sets of code points.**

A set is a list of ranges that increase and do not touch. `CharSet.ofRanges` puts any ranges into
this form; union, complement and difference keep it. The code points from U+D800 to U+DFFF stand for
no character: no complement holds them.
-/

namespace MetricRelay.Unicode

/-- A set of code points: the first and the last one of each range. -/
structure CharSet where
  ranges : List (Nat × Nat)
  deriving DecidableEq, Repr

namespace CharSet

/-- The last code point. -/
def last : Nat := 0x10FFFF

/-- Joins ranges that touch, in a list in which every range begins no later than the next one. -/
def join (ranges : List (Nat × Nat)) : List (Nat × Nat) :=
  (ranges.foldl (fun joined range =>
    match joined with
    | [] => [range]
    | before :: rest =>
      if range.1 ≤ before.2 + 1 then (before.1, max before.2 range.2) :: rest
      else range :: before :: rest) []).reverse

/-- The set of the code points in some ranges, in any order. -/
def ofRanges (ranges : List (Nat × Nat)) : CharSet :=
  ⟨join (ranges.mergeSort fun first second => first.1 ≤ second.1)⟩

/-- No code point. -/
def empty : CharSet := ⟨[]⟩

/-- One code point. -/
def single (code : Nat) : CharSet := ⟨[(code, code)]⟩

/-- The code points that stand for no character. -/
def surrogates : CharSet := ⟨[(0xD800, 0xDFFF)]⟩

/-- All characters. -/
def all : CharSet := ⟨[(0, 0xD7FF), (0xE000, last)]⟩

/-- The characters of ASCII. -/
def ascii : CharSet := ⟨[(0, 0x7F)]⟩

/-- The code point is in the set. -/
def contains (set : CharSet) (code : Nat) : Bool :=
  set.ranges.any fun range => range.1 ≤ code && code ≤ range.2

/-- What is in one of two sets. -/
def union (first second : CharSet) : CharSet :=
  ofRanges (first.ranges ++ second.ranges)

/-- The ranges between some ranges, from a code point on. -/
def gaps (start : Nat) : List (Nat × Nat) → List (Nat × Nat)
  | [] => if start ≤ last then [(start, last)] else []
  | range :: rest =>
    if start < range.1 then (start, range.1 - 1) :: gaps (range.2 + 1) rest
    else gaps (range.2 + 1) rest

/-- The code points of characters that are not in the set. -/
def complement (set : CharSet) : CharSet := ⟨gaps 0 (set.union surrogates).ranges⟩

/-- What is in both of two sets. -/
def inter (first second : CharSet) : CharSet :=
  (first.complement.union second.complement).complement

/-- The code points in the first set and not in the second one. -/
def minus (first second : CharSet) : CharSet :=
  (first.complement.union second).complement

/-- What is in exactly one of two sets. -/
def symmetricDifference (first second : CharSet) : CharSet :=
  (first.minus second).union (second.minus first)

/-- What is in one of some sets. -/
def unionAll (sets : List CharSet) : CharSet :=
  ofRanges (sets.flatMap ranges)

/-- No code point beyond ASCII is in the set. -/
def isAscii (set : CharSet) : Bool :=
  set.ranges.all fun range => range.2 ≤ 0x7F

end CharSet

end MetricRelay.Unicode

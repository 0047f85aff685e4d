/-
**Code points as bytes.**

A code point takes one to four bytes in UTF-8. `Utf8.sequences` cuts a set of code points into
pieces in which every byte varies on its own: the code points of a piece are those whose bytes are
all in the range for their place.
-/

import MetricRelay.Unicode.CharSet

namespace MetricRelay.Unicode.Utf8

/-- The first and the last one of some bytes. -/
structure ByteRange where
  first : UInt8
  last : UInt8
  deriving DecidableEq, Repr

/-- How many bytes a code point takes. -/
def width (code : Nat) : Nat :=
  if code ≤ 0x7F then 1 else if code ≤ 0x7FF then 2 else if code ≤ 0xFFFF then 3 else 4

/-- The byte that continues a code point and holds the last six bits of a number. -/
def continuation (bits : Nat) : UInt8 := UInt8.ofNat (0x80 + bits % 64)

/-- The bytes of a code point. -/
def bytes (code : Nat) : List UInt8 :=
  if code ≤ 0x7F then [UInt8.ofNat code]
  else if code ≤ 0x7FF then [UInt8.ofNat (0xC0 + code / 64), continuation code]
  else if code ≤ 0xFFFF then
    [UInt8.ofNat (0xE0 + code / 4096), continuation (code / 64), continuation code]
  else
    [UInt8.ofNat (0xF0 + code / 262144), continuation (code / 4096), continuation (code / 64),
      continuation code]

/-- The code point after which a range is cut because the number of bytes grows behind it. -/
def widthCut? (first last : Nat) : Option Nat :=
  if first ≤ 0x7F ∧ 0x7F < last then some 0x7F
  else if first ≤ 0x7FF ∧ 0x7FF < last then some 0x7FF
  else if first ≤ 0xFFFF ∧ 0xFFFF < last then some 0xFFFF
  else none

/-- The code point after which a range over several blocks is cut because its first or its last
block is not taken as a whole. -/
def blockCut? (block first last : Nat) : Option Nat :=
  if first / block = last / block then none
  else if first % block ≠ 0 then some (first / block * block + (block - 1))
  else if last % block ≠ block - 1 then some (last / block * block - 1)
  else none

/-- The code point after which a range is cut, if not all of its bytes vary on their own. Blocks of
64, 4096 and 262144 code points differ in their last byte, the last two and the last three. -/
def cut? (first last : Nat) : Option Nat :=
  (widthCut? first last).or <|
    if last ≤ 0x7F then none
    else
      (blockCut? 64 first last).or <|
        (blockCut? 4096 first last).or (blockCut? 262144 first last)

theorem widthCut?_bounds {first last cut : Nat} (found : widthCut? first last = some cut) :
    first ≤ cut ∧ cut < last := by
  grind [widthCut?]

theorem blockCut?_bounds {block first last cut : Nat} (positive : 0 < block)
    (ordered : first ≤ last) (found : blockCut? block first last = some cut) :
    first ≤ cut ∧ cut < last := by
  have quotients : first / block ≤ last / block := Nat.div_le_div_right ordered
  have start := Nat.div_add_mod first block
  have stop := Nat.div_add_mod last block
  have below := Nat.mod_lt first positive
  simp only [blockCut?] at found
  split at found
  next => simp at found
  next different =>
    have step : (first / block + 1) * block ≤ last / block * block :=
      Nat.mul_le_mul_right _ (by omega)
    rw [Nat.add_mul, Nat.one_mul] at step
    rw [Nat.mul_comm block] at start stop
    split at found
    next => simp only [Option.some.injEq] at found; omega
    next aligned =>
      split at found
      next => simp only [Option.some.injEq] at found; omega
      next => simp at found

/-- **A cut leaves code points on both sides.** -/
theorem cut?_bounds {first last cut : Nat} (ordered : first ≤ last)
    (found : cut? first last = some cut) : first ≤ cut ∧ cut < last := by
  simp only [cut?, Option.or_eq_some_iff] at found
  rcases found with found | ⟨_, found⟩
  · exact widthCut?_bounds found
  · split at found
    next => simp at found
    next =>
      simp only [Option.or_eq_some_iff] at found
      rcases found with found | ⟨_, found | ⟨_, found⟩⟩ <;>
        exact blockCut?_bounds (by decide) ordered found

/-- The pieces of a range of code points in which every byte varies on its own. -/
def pieces (first last : Nat) (ordered : first ≤ last) : List (Nat × Nat) :=
  match found : cut? first last with
  | none => [(first, last)]
  | some cut =>
    have bounds := cut?_bounds ordered found
    pieces first cut bounds.1 ++ pieces (cut + 1) last bounds.2
termination_by last - first
decreasing_by all_goals omega

/-- **The pieces of a range hold its code points and no others.** -/
theorem mem_pieces (first last : Nat) (ordered : first ≤ last) (code : Nat) :
    (∃ piece ∈ pieces first last ordered, piece.1 ≤ code ∧ code ≤ piece.2) ↔
      first ≤ code ∧ code ≤ last := by
  fun_induction pieces first last ordered with
  | case1 => simp
  | case2 first last ordered cut found bounds left right =>
    simp only [List.mem_append, or_and_right, exists_or, left, right]
    omega

/-- The byte ranges of a piece, one for each place. -/
def byteRanges (piece : Nat × Nat) : List ByteRange :=
  List.zipWith ByteRange.mk (bytes piece.1) (bytes piece.2)

/-- The byte ranges of the pieces of a range. -/
def rangeSequences (first last : Nat) : List (List ByteRange) :=
  if ordered : first ≤ last then (pieces first last ordered).map byteRanges else []

/-- The byte ranges of the pieces of a set, in the order of the code points. -/
def sequences (set : CharSet) : List (List ByteRange) :=
  set.ranges.flatMap fun (first, last) =>
    if first < 0xE000 ∧ 0xD7FF < last then
      rangeSequences first 0xD7FF ++ rangeSequences 0xE000 last
    else rangeSequences first last

end MetricRelay.Unicode.Utf8

/-
**How many lines some bytes are.**

Lines are counted by the bytes that end them (`Lines.count`). In UTF-8 that byte stands for nothing
but a line break, so a text without control characters has none, and lines of such texts are as many
as are counted (`Lines.count_bytes`).
-/

import MetricRelay.Proofs.Disk.Growth
import MetricRelay.Proofs.Json.Printable

namespace MetricRelay

namespace Lines

/-- How many lines end in some bytes. -/
def count (bytes : ByteArray) : Nat :=
  bytes.data.toList.count 10

/-- The lines of a file, if there is one. -/
def countIn (content : Option ByteArray) : Nat :=
  content.elim 0 count

@[simp] theorem count_append (first later : ByteArray) :
    count (first ++ later) = count first + count later := by
  unfold count
  rw [ByteArray.toList_data_append, List.count_append]

/-- The byte that ends a line is in no character but the one that is it. -/
theorem not_mem_utf8EncodeChar {c : Char} (plain : 0x20 ≤ c.toNat) :
    (10 : UInt8) ∉ String.utf8EncodeChar c := by
  have byte {n : Nat} (other : n % 256 ≠ 10) : (10 : UInt8) ≠ UInt8.ofNat n := by
    intro same
    have values := congrArg UInt8.toNat same
    rw [UInt8.toNat_ofNat'] at values
    exact other values.symm
  change 0x20 ≤ c.val.toNat at plain
  unfold String.utf8EncodeChar
  simp only
  split
  · simp only [List.mem_singleton]
    exact byte (by omega)
  · split
    · simp only [List.mem_cons, List.not_mem_nil, or_false, not_or]
      exact ⟨byte (by omega), byte (by omega)⟩
    · split
      · simp only [List.mem_cons, List.not_mem_nil, or_false, not_or]
        exact ⟨byte (by omega), byte (by omega), byte (by omega)⟩
      · simp only [List.mem_cons, List.not_mem_nil, or_false, not_or]
        exact ⟨byte (by omega), byte (by omega), byte (by omega), byte (by omega)⟩

theorem toUTF8_toList (text : String) :
    text.toUTF8.data.toList = text.toList.flatMap String.utf8EncodeChar := by
  rw [String.toUTF8_eq_toByteArray, ← String.ofList_toList (s := text), String.toByteArray_ofList,
    List.utf8Encode, List.toList_data_toByteArray, String.toList_ofList]

/-- A plain text ends no line. -/
theorem not_mem_toUTF8 {text : String} (plain : IsPlain text.toList) :
    (10 : UInt8) ∉ text.toUTF8.data.toList := by
  rw [toUTF8_toList, List.mem_flatMap]
  rintro ⟨c, member, byte⟩
  exact not_mem_utf8EncodeChar (plain c member) byte

theorem toUTF8_feed (line : String) :
    (line ++ "\n").toUTF8.data.toList = line.toUTF8.data.toList ++ [10] := by
  rw [toUTF8_toList, toUTF8_toList, String.toList_append, List.flatMap_append]
  rfl

/-- A line of a plain text is one line. -/
theorem count_line {line : String} (plain : IsPlain line.toList) :
    count (line ++ "\n").toUTF8 = 1 := by
  unfold count
  rw [toUTF8_feed, List.count_append, List.count_eq_zero.mpr (not_mem_toUTF8 plain)]
  rfl

/-- **Lines of plain texts are as many as are counted.** -/
theorem count_bytes {lines : List String} (plain : ∀ line ∈ lines, IsPlain line.toList) :
    count (bytes lines) = lines.length := by
  induction lines with
  | nil => rfl
  | cons line rest ih =>
    rw [List.forall_mem_cons] at plain
    rw [bytes_cons, count_append, count_line plain.1, ih plain.2, List.length_cons, Nat.add_comm]

/-- A file with plain lines behind it has as many lines more. -/
theorem countIn_of_extend {lines : List String} {before after : Option ByteArray}
    (extend : Extend lines before after) (plain : ∀ line ∈ lines, IsPlain line.toList) :
    countIn after = countIn before + lines.length := by
  cases before with
  | none =>
    cases after with
    | none =>
      rw [show lines = [] from extend]
      rfl
    | some content =>
      rw [show content = bytes lines from extend]
      show count (bytes lines) = 0 + lines.length
      rw [count_bytes plain, Nat.zero_add]
  | some content =>
    cases after with
    | none => cases extend
    | some longer =>
      rw [show longer = content ++ bytes lines from extend]
      show count (content ++ bytes lines) = count content + lines.length
      rw [count_append, count_bytes plain]

/-- What is put for each character is together at least as long as there are characters. -/
theorem length_le_flatMap {β : Type} {text : List Char} {f : Char → List β}
    (inhabited : ∀ c, 0 < (f c).length) : text.length ≤ (text.flatMap f).length := by
  induction text with
  | nil => exact Nat.le_refl 0
  | cons c rest ih =>
    rw [List.flatMap_cons, List.length_cons, List.length_append]
    have some := inhabited c
    omega

theorem length_le_size (line : String) : line.length ≤ (line ++ "\n").toUTF8.size := by
  have bytes : line.toList.length ≤ line.toUTF8.data.toList.length := by
    rw [toUTF8_toList]
    refine length_le_flatMap fun c => ?_
    rw [String.length_utf8EncodeChar]
    exact c.utf8Size_pos
  rw [String.length_toList, Array.length_toList] at bytes
  rw [String.toUTF8_eq_toByteArray, String.toByteArray_append, ByteArray.size_append]
  exact Nat.le_trans bytes (Nat.le_add_right _ _)

end Lines

theorem Json.length_le_quoted (text : List Char) : text.length ≤ (quoted text).length := by
  have inside : text.length ≤ (text.flatMap escape).length := by
    refine Lines.length_le_flatMap fun c => ?_
    unfold escape
    repeat' split
    all_goals exact Nat.zero_lt_succ _
  unfold quoted
  rw [List.length_cons, List.length_append]
  omega

end MetricRelay

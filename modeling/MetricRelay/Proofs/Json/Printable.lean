/-
**A JSON value is one line.**

No character of the compact text of a value lies below U+0020, whatever texts and numbers the value
holds. So the text has no line break (`Json.compact_isPlain`), and neither has the line of a row
(`Row.line_isPlain`).
-/

import MetricRelay.Row.Line

namespace MetricRelay

/-- No character is a control character below U+0020. -/
def IsPlain (text : List Char) : Prop :=
  ∀ c ∈ text, 0x20 ≤ c.toNat

namespace IsPlain

@[simp] theorem nil : IsPlain [] := by
  intro c member
  cases member

@[simp] theorem cons_iff {c : Char} {text : List Char} :
    IsPlain (c :: text) ↔ 0x20 ≤ c.toNat ∧ IsPlain text := by
  unfold IsPlain
  rw [List.forall_mem_cons]

@[simp] theorem append_iff {first later : List Char} :
    IsPlain (first ++ later) ↔ IsPlain first ∧ IsPlain later := by
  unfold IsPlain
  rw [List.forall_mem_append]

/-- A part of a plain text is plain. -/
theorem of_sublist {part text : List Char} (plain : IsPlain text) (sublist : part.Sublist text) :
    IsPlain part :=
  fun c member => plain c (sublist.subset member)

/-- One of two plain texts. -/
theorem ite {condition : Prop} [Decidable condition] {first later : List Char}
    (yes : condition → IsPlain first) (no : ¬ condition → IsPlain later) :
    IsPlain (if condition then first else later) := by
  by_cases holds : condition
  · rw [if_pos holds]
    exact yes holds
  · rw [if_neg holds]
    exact no holds

theorem replicate {c : Char} (plain : 0x20 ≤ c.toNat) (n : Nat) : IsPlain (List.replicate n c) := by
  intro d member
  rw [List.eq_of_mem_replicate member]
  exact plain

end IsPlain

/-! ### Numbers -/

theorem Text.digits_isPlain (n : Nat) : IsPlain (Text.digits n) := by
  have digit : ∀ d < 10, 0x20 ≤ (Text.digitChar d).toNat := by decide
  induction n using Text.digits.induct with
  | case1 n small =>
    rw [Text.digits, if_pos small]
    simp [digit n small]
  | case2 n large ih =>
    rw [Text.digits, if_neg large]
    simp [ih, digit (n % 10) (Nat.mod_lt n (by decide))]

theorem Text.signedDigits_isPlain (n : Int) : IsPlain (Text.signedDigits n) := by
  cases n with
  | ofNat n => exact Text.digits_isPlain n
  | negSucc n =>
    unfold Text.signedDigits
    rw [IsPlain.cons_iff]
    exact ⟨by decide, Text.digits_isPlain (n + 1)⟩

namespace Decimal.Layout

variable {layout : Layout} {digits : List Char}

theorem positional_isPlain (wholeEnd : IsPlain layout.wholeEnd) (plain : IsPlain digits)
    (power : Int) : IsPlain (layout.positional digits power) := by
  unfold positional
  have zeros (n : Nat) : IsPlain (List.replicate n '0') := .replicate (by decide) n
  by_cases small : power < 0
  · rw [if_pos small]
    simp [zeros, plain]
  · rw [if_neg small]
    simp only
    by_cases short : digits.length ≤ power.toNat + 1
    · rw [if_pos short]
      simp [zeros, plain, wholeEnd]
    · rw [if_neg short]
      have before := plain.of_sublist (List.take_sublist (power.toNat + 1) digits)
      have after := plain.of_sublist (List.drop_sublist (power.toNat + 1) digits)
      simp [before, after]

theorem scientific_isPlain (mark : 0x20 ≤ layout.mark.toNat) (plus : IsPlain layout.plus)
    (plain : IsPlain digits) (power : Int) : IsPlain (layout.scientific digits power) := by
  unfold scientific
  have first := plain.of_sublist (List.take_sublist 1 digits)
  have rest := plain.of_sublist (List.drop_sublist 1 digits)
  have exponent := Text.signedDigits_isPlain power
  have number : IsPlain (if (digits.drop 1).isEmpty then digits.take 1
      else digits.take 1 ++ '.' :: digits.drop 1) := by
    refine .ite (fun _ => first) fun _ => ?_
    rw [IsPlain.append_iff, IsPlain.cons_iff]
    exact ⟨first, by decide, rest⟩
  have sign : IsPlain (if power < 0 then [] else layout.plus) :=
    .ite (fun _ => .nil) fun _ => plus
  simp only [IsPlain.append_iff, IsPlain.cons_iff]
  exact ⟨⟨number, mark, sign⟩, exponent⟩

/-- A double is written without control characters if the layout has none. -/
theorem write_isPlain (wholeEnd : IsPlain layout.wholeEnd) (mark : 0x20 ≤ layout.mark.toNat)
    (plus : IsPlain layout.plus) (parts : Parts) : IsPlain (layout.write parts) := by
  unfold write
  have sign : IsPlain (if parts.negative then ['-'] else []) := by
    cases parts.negative <;> simp
  cases parts.size with
  | none => simp [sign, wholeEnd]
  | some size =>
    rw [IsPlain.append_iff]
    refine ⟨sign, ?_⟩
    unfold writePositive
    exact .ite (fun _ => positional_isPlain wholeEnd (Text.digits_isPlain _) _)
      fun _ => scientific_isPlain mark plus (Text.digits_isPlain _) _

end Decimal.Layout

/-! ### Texts and values -/

namespace Json

theorem floatChars_isPlain (value : Float) : IsPlain (floatChars value) := by
  unfold floatChars
  split
  · exact Decimal.Layout.write_isPlain (by simp [layout]) (by decide) (by simp [layout]) _
  · simp

/-- An escaped character is plain, whatever it was. -/
theorem escape_isPlain (c : Char) : IsPlain (escape c) := by
  have hex : ∀ n < 16, 0x20 ≤ (hexDigit n).toNat := by decide
  unfold escape
  refine .ite (fun _ => by simp) fun _ => .ite (fun _ => by simp) fun _ => .ite (fun _ => by simp)
    fun _ => .ite (fun _ => by simp) fun _ => .ite (fun _ => by simp) fun _ =>
    .ite (fun _ => by simp) fun _ => .ite (fun _ => by simp) fun _ => .ite (fun control => ?_)
    fun visible => ?_
  · have high := hex (c.toNat / 16) (by omega)
    have low := hex (c.toNat % 16) (Nat.mod_lt _ (by decide))
    simp [high, low]
  · rw [IsPlain.cons_iff]
    exact ⟨Nat.le_of_not_lt visible, .nil⟩

theorem quoted_isPlain (text : List Char) : IsPlain (quoted text) := by
  unfold quoted
  have inside : IsPlain (text.flatMap escape) := by
    intro c member
    obtain ⟨d, _, escaped⟩ := List.mem_flatMap.mp member
    exact escape_isPlain d c escaped
  simp [inside]

theorem leafChars_isPlain (value : Json) : IsPlain value.leafChars := by
  unfold leafChars
  split
  · simp
  · simp
  · exact Text.signedDigits_isPlain _
  · exact floatChars_isPlain _
  · exact quoted_isPlain _
  · simp

mutual

/-- The text of a value is one line. -/
theorem chars_isPlain : ∀ value : Json, IsPlain value.chars
  | .array items => by
    rw [chars]
    simp [itemChars_isPlain items]
  | .object members => by
    rw [chars]
    simp [memberChars_isPlain members]
  | .null => leafChars_isPlain .null
  | .bool value => leafChars_isPlain (.bool value)
  | .int value => leafChars_isPlain (.int value)
  | .float value => leafChars_isPlain (.float value)
  | .text value => leafChars_isPlain (.text value)
  | .faulty => leafChars_isPlain .faulty

theorem itemChars_isPlain : ∀ items : List Json, IsPlain (itemChars items)
  | [] => .nil
  | [item] => chars_isPlain item
  | item :: next :: rest => by
    rw [itemChars]
    · simp [chars_isPlain item, itemChars_isPlain (next :: rest)]
    · simp

theorem memberChars_isPlain : ∀ members : List (String × Json), IsPlain (memberChars members)
  | [] => .nil
  | [(key, value)] => by
    rw [memberChars]
    simp [quoted_isPlain key.toList, chars_isPlain value]
  | (key, value) :: next :: rest => by
    rw [memberChars]
    · simp [quoted_isPlain key.toList, chars_isPlain value, memberChars_isPlain (next :: rest)]
    · simp

end

/-- **The compact text of a value is one line.** -/
theorem compact_isPlain (value : Json) : IsPlain value.compact.toList := by
  unfold compact
  rw [String.toList_ofList]
  exact chars_isPlain value

end Json

/-- **A row is one line.** -/
theorem Row.line_isPlain (row : Row) : IsPlain row.line.toList :=
  Json.compact_isPlain row.toJson

end MetricRelay

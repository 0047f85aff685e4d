/-
**A double is never read as a whole number.**

A double is written with a point or with an exponent, also where its value is whole, and a whole
number is read only where there is neither. Whether a double is read as the one that was written is
another matter: the digits are enough for that, but the reader rounds more than once.

* `Json.asDouble?`: the double that the text of a double denotes;
* `Numeral.plain_of_int?`: a whole number consists of digits and a sign;
* `Json.marked_of_parse?`: the text of a double holds more than that;
* `Json.float_readsAs`: a double is read as the double that its text denotes.
-/

import MetricRelay.Proofs.Json.ReadBack

namespace MetricRelay.Json

/-- The double that the text of a double denotes. -/
def asDouble? (x : Float) : Option Float :=
  (Numeral.parse? (floatChars x)).bind Numeral.float?

/-! ### What is read -/

namespace Numeral

theorem parts_of_withExponent? {negative : Bool} {whole : List Char} {fraction : Option (List Char)}
    {text : List Char} {numeral : Numeral}
    (read : withExponent? negative whole fraction text = some numeral) :
    numeral.fraction = fraction ∧ (numeral.exponent = none → text = []) := by
  cases text with
  | nil =>
    cases read
    exact ⟨rfl, fun _ => rfl⟩
  | cons c rest =>
    rw [withExponent?] at read
    by_cases mark : c = 'e' ∨ c = 'E'
    · rw [if_pos mark] at read
      obtain ⟨exponent, _, rfl⟩ := Option.map_eq_some_iff.mp read
      exact ⟨rfl, fun none => by cases none⟩
    · rw [if_neg mark] at read
      cases read

theorem plain_of_unsigned? {negative : Bool} {text : List Char} {numeral : Numeral}
    (read : unsigned? negative text = some numeral) (noFraction : numeral.fraction = none)
    (noExponent : numeral.exponent = none) : ∀ c ∈ text, c.isDigit = true := by
  obtain ⟨cut, digits⟩ := spanDigits_spec text
  unfold unsigned? at read
  generalize spanDigits text = span at read cut digits
  obtain ⟨whole, after⟩ := span
  simp only at read cut digits
  by_cases wrong : whole.isEmpty = true ∨ (whole.length > 1 ∧ whole.head? = some '0')
  · rw [if_pos wrong] at read
    cases read
  · rw [if_neg wrong] at read
    split at read
    next rest =>
      by_cases void : (spanDigits rest).1.isEmpty = true
      · rw [if_pos void] at read
        cases read
      · rw [if_neg void] at read
        have some := (parts_of_withExponent? read).1
        rw [noFraction] at some
        cases some
    next =>
      have nothing := (parts_of_withExponent? read).2 noExponent
      rw [cut, nothing, List.append_nil]
      exact digits

/-- **A whole number consists of digits and a sign.** -/
theorem plain_of_int? {text : List Char} {numeral : Numeral} {n : Int}
    (read : parse? text = some numeral) (whole : numeral.int? = some n) :
    ∀ c ∈ text, c.isDigit = true ∨ c = '-' := by
  unfold int? at whole
  by_cases marked : numeral.fraction.isSome = true ∨ numeral.exponent.isSome = true
  · rw [if_pos marked] at whole
    cases whole
  · rw [not_or, Option.not_isSome_iff_eq_none, Option.not_isSome_iff_eq_none] at marked
    unfold parse? at read
    split at read
    next rest =>
      rw [List.forall_mem_cons]
      exact ⟨.inr rfl, fun c member => .inl (plain_of_unsigned? read marked.1 marked.2 c member)⟩
    next => exact fun c member => .inl (plain_of_unsigned? read marked.1 marked.2 c member)

end Numeral

/-! ### What is written -/

/-- A text that holds a point or begins an exponent. -/
def IsMarked (text : List Char) : Prop :=
  '.' ∈ text ∨ 'e' ∈ text

theorem positional_isMarked (digits : List Char) (power : Int) :
    IsMarked (layout.positional digits power) := by
  refine .inl ?_
  unfold Decimal.Layout.positional
  split
  · simp
  · simp only
    split
    · exact List.mem_append_right _ List.mem_cons_self
    · exact List.mem_append_right _ List.mem_cons_self

theorem scientific_isMarked (digits : List Char) (power : Int) :
    IsMarked (layout.scientific digits power) := by
  refine .inr ?_
  unfold Decimal.Layout.scientific
  exact List.mem_append_left _ (List.mem_append_right _ List.mem_cons_self)

theorem write_isMarked (parts : Decimal.Parts) : IsMarked (layout.write parts) := by
  have behind {sign text : List Char} (marked : IsMarked text) : IsMarked (sign ++ text) :=
    marked.imp (List.mem_append_right _) (List.mem_append_right _)
  unfold Decimal.Layout.write
  cases parts.size with
  | none => exact behind (.inl (by decide))
  | some size =>
    refine behind ?_
    unfold Decimal.Layout.writePositive
    simp only
    split
    · exact positional_isMarked _ _
    · exact scientific_isMarked _ _

/-- **The text of a double that is read holds a point or an exponent.** -/
theorem marked_of_parse? {x : Float} {numeral : Numeral}
    (read : Numeral.parse? (floatChars x) = some numeral) : IsMarked (floatChars x) := by
  unfold floatChars at read ⊢
  cases finite : Decimal.Parts.ofBits? x.toBits.toNat with
  | none =>
    rw [finite] at read
    cases read
  | some parts => exact write_isMarked parts

/-- **A double is read as the double that its text denotes.** -/
theorem float_readsAs {f : Float → Float} {x : Float} (denotes : asDouble? x = some (f x)) :
    (float x).ReadsAs f := by
  obtain ⟨numeral, read, value⟩ := Option.bind_eq_some_iff.mp denotes
  have noWhole : numeral.int? = none := by
    rw [Option.eq_none_iff_forall_ne_some]
    intro n whole
    have plain := Numeral.plain_of_int? read whole
    rcases marked_of_parse? read with point | exponent
    · exact absurd (plain _ point) (by decide)
    · exact absurd (plain _ exponent) (by decide)
  rw [ReadsAs, read, Option.map_some, Numeral.value, noWhole, value]

end MetricRelay.Json

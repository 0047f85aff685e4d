/-
**Numbers are read as they are written.**

* `Numeral.numeric_of_parse?`: a text that is read as a number begins with a digit or a minus and
  consists of what numbers consist of, so a scanner takes it for one word;
* `Numeral.parse?_signedDigits`: a whole number that 64 bits hold is read as it is written.
-/

import Mathlib.Data.List.TakeWhile
import MetricRelay.Json.Token
import MetricRelay.Proofs.Text.Digits

namespace MetricRelay.Json

namespace Numeral

open Scanner (isNumeric)

theorem isNumeric_of_isDigit {c : Char} (digit : c.isDigit = true) : isNumeric c = true := by
  simp [isNumeric, digit]

/-! ### What numbers consist of -/

theorem numeric_of_natural? {text : List Char} {n : Nat} (read : Text.natural? text = some n) :
    ∀ c ∈ text, isNumeric c = true :=
  fun c member => isNumeric_of_isDigit (Text.isDigit_of_natural? read c member)

theorem numeric_of_exponent? {text : List Char} {exponent : Int}
    (read : exponent? text = some exponent) : ∀ c ∈ text, isNumeric c = true := by
  unfold exponent? at read
  split at read
  next rest =>
    obtain ⟨n, digits, _⟩ := Option.map_eq_some_iff.mp read
    exact List.forall_mem_cons.mpr ⟨by decide, numeric_of_natural? digits⟩
  next rest =>
    obtain ⟨n, digits, _⟩ := Option.map_eq_some_iff.mp read
    exact List.forall_mem_cons.mpr ⟨by decide, numeric_of_natural? digits⟩
  next =>
    obtain ⟨n, digits, _⟩ := Option.map_eq_some_iff.mp read
    exact numeric_of_natural? digits

theorem numeric_of_withExponent? {negative : Bool} {whole : List Char}
    {fraction : Option (List Char)} {text : List Char} {numeral : Numeral}
    (read : withExponent? negative whole fraction text = some numeral) :
    ∀ c ∈ text, isNumeric c = true := by
  cases text with
  | nil => simp
  | cons c rest =>
    rw [withExponent?] at read
    by_cases mark : c = 'e' ∨ c = 'E'
    · rw [if_pos mark] at read
      obtain ⟨exponent, digits, _⟩ := Option.map_eq_some_iff.mp read
      refine List.forall_mem_cons.mpr ⟨?_, numeric_of_exponent? digits⟩
      rcases mark with rfl | rfl <;> decide
    · rw [if_neg mark] at read
      cases read

theorem spanDigits_spec (text : List Char) :
    text = (spanDigits text).1 ++ (spanDigits text).2 ∧
      ∀ c ∈ (spanDigits text).1, c.isDigit = true :=
  ⟨List.takeWhile_append_dropWhile.symm, List.all_eq_true.mp List.all_takeWhile⟩

theorem numeric_of_unsigned? {negative : Bool} {text : List Char} {numeral : Numeral}
    (read : unsigned? negative text = some numeral) :
    ∃ c rest, text = c :: rest ∧ c.isDigit = true ∧ ∀ d ∈ rest, isNumeric d = true := by
  obtain ⟨cut, digits⟩ := spanDigits_spec text
  unfold unsigned? at read
  generalize spanDigits text = span at read cut digits
  obtain ⟨whole, after⟩ := span
  simp only at read cut digits
  by_cases wrong : whole.isEmpty = true ∨ (whole.length > 1 ∧ whole.head? = some '0')
  · rw [if_pos wrong] at read
    cases read
  · rw [if_neg wrong] at read
    cases whole with
    | nil => simp at wrong
    | cons c others =>
      rw [List.forall_mem_cons] at digits
      refine ⟨c, others ++ after, cut, digits.1, List.forall_mem_append.mpr ⟨?_, ?_⟩⟩
      · exact fun d member => isNumeric_of_isDigit (digits.2 d member)
      · split at read
        next rest =>
          obtain ⟨cutRest, digitsRest⟩ := spanDigits_spec rest
          generalize spanDigits rest = span at read cutRest digitsRest
          obtain ⟨fraction, afterFraction⟩ := span
          simp only at read cutRest digitsRest
          by_cases void : fraction.isEmpty = true
          · rw [if_pos void] at read
            cases read
          · rw [if_neg void] at read
            rw [cutRest]
            refine List.forall_mem_cons.mpr ⟨by decide, List.forall_mem_append.mpr ⟨?_, ?_⟩⟩
            · exact fun d member => isNumeric_of_isDigit (digitsRest d member)
            · exact numeric_of_withExponent? read
        next => exact numeric_of_withExponent? read

/-- **A number consists of what numbers consist of.** -/
theorem numeric_of_parse? {text : List Char} {numeral : Numeral}
    (read : parse? text = some numeral) :
    ∃ c rest, text = c :: rest ∧ (c.isDigit = true ∨ c = '-') ∧
      ∀ d ∈ rest, isNumeric d = true := by
  unfold parse? at read
  split at read
  next rest =>
    obtain ⟨c, others, rfl, digit, numeric⟩ := numeric_of_unsigned? read
    exact ⟨'-', c :: others, rfl, .inr rfl,
      List.forall_mem_cons.mpr ⟨isNumeric_of_isDigit digit, numeric⟩⟩
  next =>
    obtain ⟨c, others, rfl, digit, numeric⟩ := numeric_of_unsigned? read
    exact ⟨c, others, rfl, .inl digit, numeric⟩

/-! ### Whole numbers -/

theorem spanDigits_digits (n : Nat) : spanDigits (Text.digits n) = (Text.digits n, []) := by
  have whole : (Text.digits n).takeWhile Char.isDigit = Text.digits n :=
    List.takeWhile_eq_self_iff.mpr (Text.isDigit_digits n)
  have nothing : (Text.digits n).dropWhile Char.isDigit = [] :=
    List.dropWhile_eq_nil_iff.mpr (Text.isDigit_digits n)
  rw [spanDigits, whole, nothing]

/-- Digits are a numeral without fraction and exponent. -/
theorem unsigned?_digits (negative : Bool) (n : Nat) :
    unsigned? negative (Text.digits n) = some ⟨negative, Text.digits n, none, none⟩ := by
  obtain ⟨c, rest, begins, zero⟩ := Text.head?_digits n
  have proper : ¬ ((Text.digits n).isEmpty = true ∨
      ((Text.digits n).length > 1 ∧ (Text.digits n).head? = some '0')) := by
    rw [begins]
    rintro (void | ⟨long, isZero⟩)
    · cases void
    · rw [(zero (Option.some.inj isZero)).2] at long
      simp at long
  unfold unsigned?
  rw [spanDigits_digits]
  simp only [if_neg proper]
  rfl

/-- **A whole number that 64 bits hold is read as it is written.** -/
theorem parse?_signedDigits {n : Int} (low : -9223372036854775808 ≤ n)
    (high : n ≤ 18446744073709551615) :
    (parse? (Text.signedDigits n)).map value = some (.int n) := by
  cases n with
  | ofNat n =>
    have parsed : parse? (Text.signedDigits (.ofNat n)) =
        some ⟨false, Text.digits n, none, none⟩ := by
      rw [Text.signedDigits, parse?]
      · exact unsigned?_digits false n
      · intro rest minus
        have digit := Text.isDigit_digits n '-' (by rw [minus]; exact List.mem_cons_self)
        exact absurd digit (by decide)
    have fits : n ≤ maxWord := Int.ofNat_le.mp high
    rw [parsed, Option.map_some]
    simp [value, int?, Text.digitsValue_digits, fits]
  | negSucc n =>
    have parsed : parse? (Text.signedDigits (.negSucc n)) =
        some ⟨true, Text.digits (n + 1), none, none⟩ := unsigned?_digits true (n + 1)
    have fits : n + 1 ≤ 9223372036854775808 := by omega
    have spelled : -((n + 1 : Nat) : Int) = .negSucc n := rfl
    rw [parsed, Option.map_some]
    simp only [value, int?, Text.digitsValue_digits, Option.isSome_none, Bool.false_eq_true,
      or_self, if_false, if_true, Nat.zero_lt_succ, true_and, if_pos fits, spelled]

end Numeral

end MetricRelay.Json

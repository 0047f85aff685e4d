/-
**What is read as a whole number.**

`Text.Numeral` says what a numeral is, without a reader: a sign that may be missing and at least one
digit, of any value. The readers accept exactly that, with the value that the digits have by their
places (`Text.natural?_eq_some_iff`, `Text.integer?_eq_some_iff`).
-/

import Mathlib.Data.List.Induction
import Mathlib.Data.Nat.Digits.Defs
import MetricRelay.Proofs.Text.Digits

namespace MetricRelay.Text

/-- The characters of some digits. -/
def spelled (digits : List (Fin 10)) : List Char :=
  digits.map fun (digit : Fin 10) => digitChar digit

/-- What some digits stand for, the first one for the most. -/
def placeValue (digits : List (Fin 10)) : Nat :=
  Nat.ofDigits 10 (digits.reverse.map Fin.val)

/-- A numeral, and the whole number that it stands for. -/
inductive Numeral : List Char → Int → Prop where
  | unsigned {digits : List (Fin 10)} (some : digits ≠ []) :
      Numeral (spelled digits) (placeValue digits)
  | plus {digits : List (Fin 10)} (some : digits ≠ []) :
      Numeral ('+' :: spelled digits) (placeValue digits)
  | minus {digits : List (Fin 10)} (some : digits ≠ []) :
      Numeral ('-' :: spelled digits) (-placeValue digits)

/-! ### Digits -/

/-- A digit character is the character of its value. -/
theorem exists_digit {c : Char} (digit : c.isDigit = true) :
    ∃ value : Fin 10, c = digitChar value := by
  have bounds : 48 ≤ c.toNat ∧ c.toNat ≤ 57 := by
    simpa [Char.isDigit, UInt32.le_iff_toNat_le] using digit
  refine ⟨⟨c.toNat - 48, by omega⟩, ?_⟩
  unfold digitChar
  rw [show 48 + (c.toNat - 48) = c.toNat by omega, Char.ofNat_toNat]

/-- The digit characters are the characters of digits. -/
theorem exists_spelled {text : List Char} (digits : text.all Char.isDigit = true) :
    ∃ values : List (Fin 10), text = spelled values := by
  induction text with
  | nil => exact ⟨[], rfl⟩
  | cons c rest ih =>
    rw [List.all_cons, Bool.and_eq_true] at digits
    obtain ⟨first, rfl⟩ := exists_digit digits.1
    obtain ⟨others, rfl⟩ := ih digits.2
    exact ⟨first :: others, rfl⟩

theorem all_isDigit_spelled (digits : List (Fin 10)) :
    (spelled digits).all Char.isDigit = true := by
  refine List.all_eq_true.mpr fun c member => ?_
  obtain ⟨digit, _, rfl⟩ := List.mem_map.mp member
  exact (digitChar_facts digit digit.isLt).1

theorem spelled_ne_nil {digits : List (Fin 10)} : spelled digits ≠ [] ↔ digits ≠ [] :=
  not_congr List.map_eq_nil_iff

/-- **The reader gives every digit the value of its place.** -/
theorem digitsValue_spelled (digits : List (Fin 10)) :
    digitsValue (spelled digits) = placeValue digits := by
  induction digits using List.reverseRecOn with
  | nil => rfl
  | append_singleton digits digit ih =>
    have value := (digitChar_facts digit digit.isLt).2.1
    unfold spelled placeValue at *
    rw [List.map_append, List.map_singleton, digitsValue_concat, ih, value, List.reverse_concat,
      List.map_cons, Nat.ofDigits_cons, Nat.mul_comm, Nat.add_comm]

/-! ### The readers -/

/-- **A natural number is read from its digits, and from nothing else.** -/
theorem natural?_eq_some_iff {text : List Char} {n : Nat} :
    natural? text = some n ↔
      ∃ digits : List (Fin 10), digits ≠ [] ∧ text = spelled digits ∧ placeValue digits = n := by
  unfold natural?
  constructor
  · intro read
    split at read
    next accepted =>
      obtain ⟨digits, rfl⟩ := exists_spelled accepted.2
      refine ⟨digits, spelled_ne_nil.mp accepted.1, rfl, ?_⟩
      rw [← digitsValue_spelled]
      exact Option.some.inj read
    next => cases read
  · rintro ⟨digits, some, rfl, rfl⟩
    rw [if_pos ⟨spelled_ne_nil.mpr some, all_isDigit_spelled digits⟩, digitsValue_spelled]

/-- What follows a sign is a numeral without one. -/
theorem exists_of_map_natural? {text : List Char} {f : Nat → Int} {n : Int}
    (read : (natural? text).map f = some n) :
    ∃ digits : List (Fin 10), digits ≠ [] ∧ text = spelled digits ∧ n = f (placeValue digits) := by
  obtain ⟨value, natural, rfl⟩ := Option.map_eq_some_iff.mp read
  obtain ⟨digits, some, rfl, rfl⟩ := natural?_eq_some_iff.mp natural
  exact ⟨digits, some, rfl, rfl⟩

theorem natural?_spelled {digits : List (Fin 10)} (some : digits ≠ []) :
    natural? (spelled digits) = .some (placeValue digits) :=
  natural?_eq_some_iff.mpr ⟨digits, some, rfl, rfl⟩

/-- **A whole number is read from its numerals, and from nothing else.** -/
theorem integer?_eq_some_iff {text : List Char} {n : Int} :
    integer? text = some n ↔ Numeral text n := by
  constructor
  · intro read
    unfold integer? at read
    split at read
    next =>
      obtain ⟨digits, some, rfl, rfl⟩ := exists_of_map_natural? read
      exact .plus some
    next =>
      obtain ⟨digits, some, rfl, rfl⟩ := exists_of_map_natural? read
      exact .minus some
    next =>
      obtain ⟨digits, some, rfl, rfl⟩ := exists_of_map_natural? read
      exact .unsigned some
  · intro numeral
    cases numeral with
    | plus some => rw [integer?, natural?_spelled some]; rfl
    | minus some => rw [integer?, natural?_spelled some]; rfl
    | @unsigned digits some =>
      -- Digits do not begin with a sign, so they are read as they are.
      obtain ⟨first, others, rfl⟩ := List.exists_cons_of_ne_nil some
      have digit := (digitChar_facts first first.isLt).1
      unfold integer?
      split
      next same =>
        rw [spelled, List.map_cons, List.cons.injEq] at same
        rw [same.1] at digit
        cases digit
      next same =>
        rw [spelled, List.map_cons, List.cons.injEq] at same
        rw [same.1] at digit
        cases digit
      next => rw [natural?_spelled some]; rfl

/-- A numeral holds a sign and digits only. -/
theorem Numeral.mem {text : List Char} {n : Int} (numeral : Numeral text n) {c : Char}
    (member : c ∈ text) : c = '+' ∨ c = '-' ∨ c.isDigit = true := by
  have digit {digits : List (Fin 10)} (member : c ∈ spelled digits) : c.isDigit = true :=
    List.all_eq_true.mp (all_isDigit_spelled digits) c member
  cases numeral with
  | unsigned => exact .inr (.inr (digit member))
  | plus => exact (List.mem_cons.mp member).imp_right fun rest => .inr (digit rest)
  | minus => exact .inr ((List.mem_cons.mp member).imp_right digit)

/-- What is neither a sign nor a digit stands in no numeral. -/
theorem Numeral.notMem {text : List Char} {n : Int} (numeral : Numeral text n) {c : Char}
    (other : ¬ (c = '+' ∨ c = '-' ∨ c.isDigit = true)) : c ∉ text :=
  fun member => other (numeral.mem member)

end MetricRelay.Text

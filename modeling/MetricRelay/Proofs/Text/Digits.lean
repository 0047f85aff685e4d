/-
**Whole numbers are read as they are written.**

The digits of a number are digits, the first one is no zero unless it is the only one, and they
stand for the number (`Text.digitsValue_digits`).
-/

import MetricRelay.Text.Integer

namespace MetricRelay.Text

/-- What is read as a natural number consists of digits. -/
theorem isDigit_of_natural? {text : List Char} {n : Nat} (read : natural? text = some n) :
    ∀ c ∈ text, c.isDigit = true := by
  unfold natural? at read
  split at read
  next digits => exact List.all_eq_true.mp digits.2
  next => cases read

/-- A digit is a digit character, has its value, and is spelled as a zero only if it is one. -/
theorem digitChar_facts : ∀ digit < 10, (digitChar digit).isDigit = true ∧
    digitValue (digitChar digit) = digit ∧ (digitChar digit = '0' → digit = 0) := by
  decide

theorem isDigit_digits (n : Nat) : ∀ c ∈ digits n, c.isDigit = true := by
  induction n using digits.induct with
  | case1 n small =>
    rw [digits, if_pos small, List.forall_mem_singleton]
    exact (digitChar_facts n small).1
  | case2 n large ih =>
    rw [digits, if_neg large, List.forall_mem_append, List.forall_mem_singleton]
    exact ⟨ih, (digitChar_facts (n % 10) (Nat.mod_lt n (by decide))).1⟩

theorem digitsValue_concat (text : List Char) (c : Char) :
    digitsValue (text ++ [c]) = digitsValue text * 10 + digitValue c := by
  unfold digitsValue
  rw [List.foldl_append]
  rfl

/-- **The digits of a number stand for it.** -/
theorem digitsValue_digits (n : Nat) : digitsValue (digits n) = n := by
  induction n using digits.induct with
  | case1 n small =>
    have value := (digitChar_facts n small).2.1
    rw [digits, if_pos small]
    show 0 * 10 + digitValue (digitChar n) = n
    omega
  | case2 n large ih =>
    have value := (digitChar_facts (n % 10) (Nat.mod_lt n (by decide))).2.1
    rw [digits, if_neg large, digitsValue_concat, ih, value]
    omega

/-- The first digit is a zero only if it is the whole number. -/
theorem head?_digits (n : Nat) :
    ∃ c rest, digits n = c :: rest ∧ (c = '0' → n = 0 ∧ rest = []) := by
  induction n using digits.induct with
  | case1 n small =>
    rw [digits, if_pos small]
    exact ⟨_, [], rfl, fun zero => ⟨(digitChar_facts n small).2.2 zero, rfl⟩⟩
  | case2 n large ih =>
    obtain ⟨c, rest, begins, zero⟩ := ih
    rw [digits, if_neg large, begins]
    refine ⟨c, rest ++ [_], rfl, fun same => ?_⟩
    have void := (zero same).1
    omega

end MetricRelay.Text

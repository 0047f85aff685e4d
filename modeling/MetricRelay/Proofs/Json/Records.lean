/-
**Fields are found under their names.**

A record is written with each name once, so its fields are what it was written with.

* `Fields.known?_of_nodup`: the fields of a record, one by one;
* `Fields.Holds`: fields among which all members of a part of the record are found;
* `Json.fields?_holds`, `Json.flatFields?_holds`: a record that is written has such fields.
-/

import Mathlib.Data.List.Nodup
import MetricRelay.Json.Reader

namespace MetricRelay

namespace Fields

variable {α β : Type} {names : List String} {members : List (String × α)} {name : String}

theorem distinct_of_nodup (different : (members.map Prod.fst).Nodup) : distinct members = true := by
  induction members with
  | nil => rfl
  | cons member rest ih =>
    rw [List.map_cons, List.nodup_cons] at different
    rw [distinct, ih different.2, Bool.and_true, Bool.not_eq_true', List.any_eq_false]
    intro other there same
    exact different.1 (List.mem_map.mpr ⟨other, there, eq_of_beq same⟩)

theorem lookup_known (known : name ∈ names) (members : List (String × α)) :
    (members.filter fun member => names.contains member.1).lookup name = members.lookup name := by
  induction members with
  | nil => rfl
  | cons member rest ih =>
    obtain ⟨other, value⟩ := member
    by_cases same : name = other
    · subst same
      rw [List.filter_cons_of_pos (by simpa using known), List.lookup_cons_self,
        List.lookup_cons_self]
    · have differs : (name == other) = false := by simpa using same
      rw [List.filter_cons]
      split
      · rw [List.lookup_cons, List.lookup_cons, differs]
        exact ih
      · rw [List.lookup_cons, differs]
        exact ih

/-- **Members with different names are the fields of a record.** -/
theorem known?_of_nodup (names : List String) (different : (members.map Prod.fst).Nodup) :
    ∃ fields, known? names members = some fields ∧
      ∀ name ∈ names, fields.lookup name = members.lookup name := by
  refine ⟨_, ?_, fun name known => lookup_known known members⟩
  have kept : ((members.filter fun member => names.contains member.1).map Prod.fst).Nodup :=
    different.sublist (List.filter_sublist.map _)
  exact if_pos (distinct_of_nodup kept)

/-- A member with a name of its own is found under it. -/
theorem lookup_of_mem (different : (members.map Prod.fst).Nodup) {member : String × α}
    (there : member ∈ members) : members.lookup member.1 = some member.2 := by
  induction members with
  | nil => cases there
  | cons first rest ih =>
    rw [List.map_cons, List.nodup_cons] at different
    rcases List.mem_cons.mp there with rfl | there
    · exact List.lookup_cons_self
    · have differs : (member.1 == first.1) = false := by
        rw [beq_eq_false_iff_ne]
        intro same
        exact different.1 (List.mem_map.mpr ⟨member, there, same⟩)
      rw [List.lookup_cons, differs]
      exact ih different.2 there

/-- All members are found among the fields. -/
def Holds (fields members : List (String × α)) : Prop :=
  ∀ member ∈ members, fields.lookup member.1 = some member.2

theorem Holds.required {fields : List (String × α)} (holds : Holds fields members) {value : α}
    (there : (name, value) ∈ members) (read : α → Option β) :
    required read fields name = read value := by
  rw [Fields.required, holds (name, value) there, Option.bind_some]

theorem known?_holds (different : (members.map Prod.fst).Nodup)
    (known : ∀ member ∈ members, member.1 ∈ names) :
    ∃ fields, known? names members = some fields ∧ Holds fields members := by
  obtain ⟨fields, same, found⟩ := known?_of_nodup names different
  refine ⟨fields, same, fun member there => ?_⟩
  rw [found _ (known member there), lookup_of_mem different there]

end Fields

namespace Json

variable (names : List String) (members : List (String × Json))

theorem fields?_holds (different : (members.map Prod.fst).Nodup)
    (known : ∀ member ∈ members, member.1 ∈ names) :
    ∃ fields, (object members).fields? names = some fields ∧ Fields.Holds fields members :=
  Fields.known?_holds different known

/-- A flat record has no containers in it. -/
theorem flatFields?_holds {depth : Nat} (different : (members.map Prod.fst).Nodup)
    (known : ∀ member ∈ members, member.1 ∈ names)
    (flat : ∀ room, areSoundMembers room members = true) :
    ∃ fields, (object members).flatFields? depth names = some fields ∧
      Fields.Holds fields members := by
  rw [flatFields?, if_pos (flat _)]
  exact Fields.known?_holds different known

variable {names members}

theorem fitsInt64_toInt (value : Int64) : fitsInt64 value.toInt = true := by
  have low := value.le_toInt
  have high := value.toInt_lt
  simp only [fitsInt64, Bool.and_eq_true, decide_eq_true_eq]
  omega

/-- A whole number with a sign is read as it was. -/
theorem int64?_toInt (value : Int64) : int64? (int value.toInt) = some value := by
  rw [int64?, if_pos (fitsInt64_toInt value), Int64.ofInt_toInt]

theorem natural64?_natCast {n : Nat} (fits : n ≤ 18446744073709551615) :
    natural64? (int n) = some n := by
  rw [natural64?, natural?, if_pos (by omega), Int.toNat_natCast]

end Json

end MetricRelay

/-
**Values at paths that lie apart do not meet.**

* `Record.eq_of_leaves`: a record is determined by its leaves if its names are in order and no inner
  node is empty;
* `Record.outcome_merge_merge`: what becomes of a value does not depend on another one that was set
  before it at a path apart;
* `Record.merge_comm`: two values at paths apart can be set in either order.
-/

import MetricRelay.Proofs.Row.PrefixFree

namespace MetricRelay

namespace Record

variable {α : Type}

/-! ### A record and its leaves -/

/-- The name of the first entry. -/
def first? : Record α → Option String
  | nil => none
  | leaf key _ _ | node key _ _ => some key

theorem eq_nil_of_first? {record : Record α} (void : record.first? = none) : record = nil := by
  cases record with
  | nil => rfl
  | leaf | node => cases void

/-- Some leaf lies in the first entry. -/
theorem exists_of_first? {record : Record α} (solid : Solid record) {key : String}
    (first : record.first? = some key) :
    ∃ path value, (key :: path, value) ∈ record.leaves := by
  cases record with
  | nil => cases first
  | leaf other held rest =>
    cases first
    exact ⟨[], held, List.mem_cons_self⟩
  | node other children rest =>
    cases first
    obtain ⟨path, value, member⟩ := exists_mem_leaves solid.2.1 solid.1
    exact ⟨path, value, List.mem_append_left _ (List.mem_map.mpr ⟨_, member, rfl⟩)⟩

/-- No leaf lies in front of the first entry. -/
theorem not_lt_first? {record : Record α} (ordered : Ordered record) {key other : String}
    (first : record.first? = some key) {path : List String} {value : α}
    (member : (other :: path, value) ∈ record.leaves) : ¬ other < key := by
  intro before
  have front : InFront other record := by
    cases record with
    | nil => trivial
    | leaf | node =>
      cases first
      exact before
  exact cons_notMem_leaves (front.above ordered) path value member

variable {record other : Record α}

/-- Records with the same leaves begin with the same name. -/
theorem first?_of_leaves (ordered : Ordered record) (solid : Solid record)
    (otherOrdered : Ordered other) (otherSolid : Solid other)
    (same : ∀ path value, (path, value) ∈ record.leaves ↔ (path, value) ∈ other.leaves) :
    record.first? = other.first? := by
  cases first : record.first? with
  | none =>
    rw [eq_nil_of_first? first] at same
    have leafless : other.leaves = [] :=
      List.eq_nil_iff_forall_not_mem.mpr fun entry member => nomatch (same _ _).mpr member
    rw [(leaves_eq_nil_iff otherSolid).mp leafless]
    rfl
  | some key =>
    obtain ⟨path, value, member⟩ := exists_of_first? solid first
    cases otherFirst : other.first? with
    | none =>
      rw [eq_nil_of_first? otherFirst] at same
      exact nomatch (same _ _).mp member
    | some otherKey =>
      obtain ⟨_, _, otherMember⟩ := exists_of_first? otherSolid otherFirst
      have low := not_lt_first? otherOrdered otherFirst ((same _ _).mp member)
      have high := not_lt_first? ordered first ((same _ _).mpr otherMember)
      exact congrArg some (String.le_antisymm (String.not_lt.mp high) (String.not_lt.mp low))

/-- Behind an entry, records have the same leaves if they have those of other names. -/
theorem same_behind {key : String} (above : Above key record) (otherAbove : Above key other)
    (same : ∀ name ≠ key, ∀ path value,
      (name :: path, value) ∈ record.leaves ↔ (name :: path, value) ∈ other.leaves)
    (path : List String) (value : α) :
    (path, value) ∈ record.leaves ↔ (path, value) ∈ other.leaves := by
  cases path with
  | nil => exact iff_of_false (nil_notMem_leaves record value) (nil_notMem_leaves other value)
  | cons name path =>
    by_cases equal : name = key
    · subst equal
      exact iff_of_false (cons_notMem_leaves above path value)
        (cons_notMem_leaves otherAbove path value)
    · exact same name equal path value

/-- **A record is determined by its leaves,** if its names are in order and no node is empty. -/
theorem eq_of_leaves (ordered : Ordered record) (solid : Solid record)
    (otherOrdered : Ordered other) (otherSolid : Solid other)
    (same : ∀ path value, (path, value) ∈ record.leaves ↔ (path, value) ∈ other.leaves) :
    record = other := by
  induction record generalizing other with
  | nil =>
    exact (eq_nil_of_first? (first?_of_leaves ordered solid otherOrdered otherSolid same).symm).symm
  | leaf key held rest ih =>
    have first := first?_of_leaves ordered solid otherOrdered otherSolid same
    cases other with
    | nil => cases first
    | leaf otherKey otherHeld otherRest =>
      cases first
      have value := (same [key] held).mp List.mem_cons_self
      rw [cons_mem_leaves_leaf otherOrdered.1, if_pos rfl] at value
      have behind := same_behind ordered.1 otherOrdered.1 fun name different path value => by
        have also := same (name :: path) value
        rwa [cons_mem_leaves_leaf ordered.1, cons_mem_leaves_leaf otherOrdered.1,
          if_neg different, if_neg different] at also
      rw [value.2, ih ordered.2 solid otherOrdered.2 otherSolid behind]
    | node otherKey otherChildren otherRest =>
      cases first
      have leaf := (same [key] held).mp List.mem_cons_self
      rw [cons_mem_leaves_node otherOrdered.1, if_pos rfl] at leaf
      exact absurd leaf (nil_notMem_leaves _ _)
  | node key children rest ihChildren ihRest =>
    have first := first?_of_leaves ordered solid otherOrdered otherSolid same
    cases other with
    | nil => cases first
    | leaf otherKey otherHeld otherRest =>
      cases first
      have leaf := (same [key] otherHeld).mpr List.mem_cons_self
      rw [cons_mem_leaves_node ordered.1, if_pos rfl] at leaf
      exact absurd leaf (nil_notMem_leaves _ _)
    | node otherKey otherChildren otherRest =>
      cases first
      have inside (path : List String) (value : α) := same (key :: path) value
      simp only [cons_mem_leaves_node ordered.1, cons_mem_leaves_node otherOrdered.1,
        if_true] at inside
      have behind := same_behind ordered.1 otherOrdered.1 fun name different path value => by
        have also := same (name :: path) value
        rwa [cons_mem_leaves_node ordered.1, cons_mem_leaves_node otherOrdered.1,
          if_neg different, if_neg different] at also
      rw [ihChildren ordered.2.1 solid.2.1 otherOrdered.2.1 otherSolid.2.1 inside,
        ihRest ordered.2.2 solid.2.2 otherOrdered.2.2 otherSolid.2.2 behind]

/-! ### Two values at paths apart -/

theorem Apart.ne {first second : List String} (apart : Apart first second) : first ≠ second := by
  rintro rfl
  exact apart.1 List.prefix_rfl

/-- The leaves after setting a value, whether it fits or not. -/
theorem mem_leaves_merge_ite (ordered : Ordered record) (path : List String) (value : α)
    (leaf : List String) (held : α) :
    (leaf, held) ∈ (record.merge path value).1.leaves ↔
      if leaf = path ∧ (record.merge path value).2.isWritten = true then held = value
      else (leaf, held) ∈ record.leaves := by
  cases written : (record.merge path value).2.isWritten with
  | false => simp [merge_of_unwritten written]
  | true => simp [mem_leaves_merge_iff ordered written]

theorem mem_leaves_merge_of_ne (ordered : Ordered record) {path leaf : List String}
    (different : leaf ≠ path) (value held : α) :
    (leaf, held) ∈ (record.merge path value).1.leaves ↔ (leaf, held) ∈ record.leaves := by
  rw [mem_leaves_merge_ite ordered, if_neg fun both => different both.1]

section Apart

variable {first second : List String}

/-- **What becomes of a value does not depend on one that was set at a path apart.** -/
theorem outcome_merge_merge (ordered : Ordered record) (solid : Solid record)
    (apart : Apart first second) (value later : α) :
    ((record.merge first value).1.merge second later).2 = (record.merge second later).2 := by
  have orderedAfter := merge_ordered ordered first value
  have solidAfter := merge_solid solid first value
  have outer : Outer (record.merge first value).1 second ↔ Outer record second := by
    refine exists_congr fun short => exists_congr fun held => and_congr_left fun proper => ?_
    refine mem_leaves_merge_of_ne ordered ?_ value held
    rintro rfl
    exact apart.1 proper.1
  have inner : Inner (record.merge first value).1 second ↔ Inner record second := by
    refine exists_congr fun longer => exists_congr fun held => and_congr_left fun proper => ?_
    refine mem_leaves_merge_of_ne ordered ?_ value held
    rintro rfl
    exact apart.2 proper.1
  have emptyPath := (merge_emptyPath_iff (record.merge first value).1 second later).trans
    (merge_emptyPath_iff record second later).symm
  have conflict : ((record.merge first value).1.merge second later).2 = .conflict ↔
      (record.merge second later).2 = .conflict := by
    rw [merge_conflict_iff orderedAfter solidAfter, merge_conflict_iff ordered solid, outer, inner]
  have replaced : ((record.merge first value).1.merge second later).2 = .replaced ↔
      (record.merge second later).2 = .replaced := by
    rw [merge_replaced_iff orderedAfter, merge_replaced_iff ordered, Place.isLeaf_iff,
      Place.isLeaf_iff]
    refine exists_congr fun held => ?_
    rw [find_eq_leaf_iff orderedAfter, find_eq_leaf_iff ordered]
    exact mem_leaves_merge_of_ne ordered apart.ne.symm value held
  -- An outcome is known once it is known whether it is one of these three.
  generalize ((record.merge first value).1.merge second later).2 = outcome at *
  generalize (record.merge second later).2 = other at *
  cases outcome <;> cases other <;> simp_all

/-- **Two values at paths apart can be set in either order.** -/
theorem merge_comm (ordered : Ordered record) (solid : Solid record) (apart : Apart first second)
    (value later : α) :
    ((record.merge first value).1.merge second later).1 =
      ((record.merge second later).1.merge first value).1 := by
  have orderedFirst := merge_ordered ordered first value
  have orderedSecond := merge_ordered ordered second later
  have solidFirst := merge_solid solid first value
  have solidSecond := merge_solid solid second later
  refine eq_of_leaves (merge_ordered orderedFirst second later)
    (merge_solid solidFirst second later) (merge_ordered orderedSecond first value)
    (merge_solid solidSecond first value) fun leaf held => ?_
  rw [mem_leaves_merge_ite orderedFirst, mem_leaves_merge_ite ordered,
    mem_leaves_merge_ite orderedSecond, mem_leaves_merge_ite ordered,
    outcome_merge_merge ordered solid apart, outcome_merge_merge ordered solid apart.symm]
  by_cases atFirst : leaf = first
  · subst atFirst
    simp [apart.ne]
  · simp [atFirst]

end Apart

end Record

end MetricRelay

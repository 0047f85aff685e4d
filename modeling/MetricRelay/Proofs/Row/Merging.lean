/-
**What setting a value does to a record.**

`Record.Merging` lists all that can happen when a value is set: it is inserted in front of an entry,
it replaces a leaf, something is in the way, or it is set further inside or behind. What is said
here about `merge` follows by induction over it:

* `Record.Ordered`: the names of a record increase at every depth, and setting a value keeps that
  (`Record.merge_ordered`);
* a value adds a leaf exactly if it is inserted (`Record.leafCount_merge`), and replaces one exactly
  if a value stands at its path (`Record.merge_replaced_iff`);
* a leaf that is there afterwards was there before or is the new one (`Record.mem_leaves_merge`);
* values are not looked at: replacing all of them first or last is the same (`Record.merge_map`).
-/

import MetricRelay.Row.Record

namespace MetricRelay

/-- A value stands there. -/
def Place.isLeaf {α : Type} : Place α → Bool
  | .leaf _ => true
  | .missing | .node _ => false

theorem Place.isLeaf_iff {α : Type} {place : Place α} :
    place.isLeaf = true ↔ ∃ value, place = .leaf value := by
  cases place <;> simp [Place.isLeaf]

namespace Record

variable {α β : Type}

/-! ### The cases -/

/-- The name belongs in front of the first entry. -/
def InFront (key : String) : Record α → Prop
  | nil => True
  | leaf other _ _ | node other _ _ => key < other

/-- What can happen when a value is set at a path: the record and the path before, the record and
the outcome afterwards. -/
inductive Merging (value : α) :
    Record α → String → List String → Record α → MergeOutcome → Prop where
  | inserted {record : Record α} {key : String} (path : List String) (front : InFront key record) :
      Merging value record key path (graft key path value record) .inserted
  | replaced (key : String) (held : α) (rest : Record α) :
      Merging value (leaf key held rest) key [] (leaf key value rest) .replaced
  /-- The path would run through a leaf. -/
  | leafInWay (key : String) (held : α) (rest : Record α) (next : String) (path : List String) :
      Merging value (leaf key held rest) key (next :: path) (leaf key held rest) .conflict
  /-- The path ends at a node. -/
  | nodeInWay (key : String) (children rest : Record α) :
      Merging value (node key children rest) key [] (node key children rest) .conflict
  | inside (key : String) {children after : Record α} (rest : Record α) {next : String}
      {path : List String} {outcome : MergeOutcome}
      (merging : Merging value children next path after outcome) :
      Merging value (node key children rest) key (next :: path) (node key after rest) outcome
  | behindLeaf {other key : String} (held : α) {rest after : Record α} {path : List String}
      {outcome : MergeOutcome} (behind : other < key)
      (merging : Merging value rest key path after outcome) :
      Merging value (leaf other held rest) key path (leaf other held after) outcome
  | behindNode {other key : String} (children : Record α) {rest after : Record α}
      {path : List String} {outcome : MergeOutcome} (behind : other < key)
      (merging : Merging value rest key path after outcome) :
      Merging value (node other children rest) key path (node other children after) outcome

theorem lt_of_behind {key other : String} (notBefore : ¬ key < other) (different : key ≠ other) :
    other < key :=
  Std.lt_of_le_of_ne (String.not_lt.mp notBefore) different.symm

theorem mergeAt_cases (record : Record α) (key : String) (path : List String) (value : α) :
    Merging value record key path (record.mergeAt key path value).1
      (record.mergeAt key path value).2 := by
  induction record generalizing key path with
  | nil => exact .inserted path trivial
  | leaf other held rest ih =>
    unfold mergeAt
    by_cases before : key < other
    · rw [if_pos before]
      exact .inserted path before
    · rw [if_neg before]
      by_cases same : key = other
      · subst same
        rw [if_pos rfl]
        cases path with
        | nil => exact .replaced key held rest
        | cons next path => exact .leafInWay key held rest next path
      · rw [if_neg same]
        exact .behindLeaf held (lt_of_behind before same) (ih key path)
  | node other children rest ihChildren ihRest =>
    unfold mergeAt
    by_cases before : key < other
    · rw [if_pos before]
      exact .inserted path before
    · rw [if_neg before]
      by_cases same : key = other
      · subst same
        rw [if_pos rfl]
        cases path with
        | nil => exact .nodeInWay key children rest
        | cons next path => exact .inside key rest (ihChildren next path)
      · rw [if_neg same]
        exact .behindNode children (lt_of_behind before same) (ihRest key path)

/-! ### The order of the names -/

/-- All entries have names above this one. -/
def Above (key : String) : Record α → Prop
  | nil => True
  | leaf other _ rest | node other _ rest => key < other ∧ Above key rest

/-- The names increase, at every depth. -/
def Ordered : Record α → Prop
  | nil => True
  | leaf key _ rest => Above key rest ∧ Ordered rest
  | node key children rest => Above key rest ∧ Ordered children ∧ Ordered rest

theorem Above.trans {first second : String} (lower : first < second) {record : Record α}
    (above : Above second record) : Above first record := by
  induction record with
  | nil => trivial
  | leaf key value rest ih => exact ⟨String.lt_trans lower above.1, ih above.2⟩
  | node key children rest _ ih => exact ⟨String.lt_trans lower above.1, ih above.2⟩

/-- What is in front of the first entry of an ordered record is in front of all. -/
theorem InFront.above {key : String} {record : Record α} (front : InFront key record)
    (ordered : Ordered record) : Above key record := by
  cases record with
  | nil => trivial
  | leaf other value rest => exact ⟨front, ordered.1.trans front⟩
  | node other children rest => exact ⟨front, ordered.1.trans front⟩

theorem graft_above {lower key : String} (below : lower < key) (path : List String) (value : α)
    {rest : Record α} (above : Above lower rest) : Above lower (graft key path value rest) := by
  cases path <;> exact ⟨below, above⟩

theorem graft_ordered (key : String) (path : List String) (value : α) {rest : Record α}
    (above : Above key rest) (ordered : Ordered rest) :
    Ordered (graft key path value rest) := by
  induction path generalizing key rest with
  | nil => exact ⟨above, ordered⟩
  | cons next path ih => exact ⟨above, ih next trivial trivial, ordered⟩

namespace Merging

variable {value : α} {record after : Record α} {key : String} {path : List String}
  {outcome : MergeOutcome}

theorem above (merging : Merging value record key path after outcome) {lower : String}
    (below : lower < key) (above : Above lower record) : Above lower after := by
  induction merging with
  | inserted path front => exact graft_above below path value above
  | replaced | leafInWay | nodeInWay | inside => exact above
  | behindLeaf held behind merging ih => exact ⟨above.1, ih below above.2⟩
  | behindNode children behind merging ih => exact ⟨above.1, ih below above.2⟩

theorem ordered (merging : Merging value record key path after outcome)
    (ordered : Ordered record) : Ordered after := by
  induction merging with
  | inserted path front => exact graft_ordered _ path value (front.above ordered) ordered
  | replaced | leafInWay | nodeInWay => exact ordered
  | inside key rest merging ih => exact ⟨ordered.1, ih ordered.2.1, ordered.2.2⟩
  | behindLeaf held behind merging ih => exact ⟨merging.above behind ordered.1, ih ordered.2⟩
  | behindNode children behind merging ih =>
    exact ⟨merging.above behind ordered.1, ordered.2.1, ih ordered.2.2⟩

end Merging

/-- **Setting a value keeps a record in order.** -/
theorem merge_ordered {record : Record α} (ordered : Ordered record) (path : List String)
    (value : α) : Ordered (record.merge path value).1 := by
  cases path with
  | nil => exact ordered
  | cons key path => exact (mergeAt_cases record key path value).ordered ordered

/-! ### How many leaves there are -/

theorem leafCount_graft (key : String) (path : List String) (value : α) (rest : Record α) :
    (graft key path value rest).leafCount = rest.leafCount + 1 := by
  induction path generalizing key rest with
  | nil => exact Nat.add_comm 1 rest.leafCount
  | cons next path ih =>
    rw [graft, leafCount, ih next nil, leafCount, Nat.zero_add, Nat.add_comm]

theorem Merging.leafCount {value : α} {record after : Record α} {key : String}
    {path : List String} {outcome : MergeOutcome}
    (merging : Merging value record key path after outcome) :
    after.leafCount = record.leafCount + if outcome = .inserted then 1 else 0 := by
  induction merging with
  | inserted path front => exact leafCount_graft _ path value _
  | replaced | leafInWay | nodeInWay => rfl
  | inside key rest merging ih =>
    rw [Record.leafCount, Record.leafCount, ih, Nat.add_right_comm]
  | behindLeaf held behind merging ih =>
    rw [Record.leafCount, Record.leafCount, ih, Nat.add_assoc]
  | behindNode children behind merging ih =>
    rw [Record.leafCount, Record.leafCount, ih, Nat.add_assoc]

/-- **A value adds a leaf exactly if it is inserted.** -/
theorem leafCount_merge (record : Record α) (path : List String) (value : α) :
    (record.merge path value).1.leafCount =
      record.leafCount + if (record.merge path value).2 = .inserted then 1 else 0 := by
  cases path with
  | nil => rfl
  | cons key path => exact (mergeAt_cases record key path value).leafCount

/-! ### What stood at the path -/

theorem findAt_leaf_of_ne {key other : String} (different : key ≠ other) (value : α)
    (rest : Record α) (path : List String) :
    (leaf other value rest).findAt key path = rest.findAt key path :=
  if_neg different

theorem findAt_node_of_ne {key other : String} (different : key ≠ other)
    (children rest : Record α) (path : List String) :
    (node other children rest).findAt key path = rest.findAt key path :=
  if_neg different

theorem findAt_of_above {record : Record α} {key : String} (above : Above key record)
    (path : List String) : record.findAt key path = .missing := by
  induction record with
  | nil => rfl
  | leaf other value rest ih =>
    rw [findAt_leaf_of_ne (String.ne_of_lt above.1), ih above.2]
  | node other children rest _ ih =>
    rw [findAt_node_of_ne (String.ne_of_lt above.1), ih above.2]

theorem Merging.replaced_iff {value : α} {record after : Record α} {key : String}
    {path : List String} {outcome : MergeOutcome}
    (merging : Merging value record key path after outcome) (ordered : Ordered record) :
    outcome = .replaced ↔ (record.findAt key path).isLeaf = true := by
  induction merging with
  | inserted path front =>
    rw [findAt_of_above (front.above ordered)]
    simp [Place.isLeaf]
  | replaced | leafInWay | nodeInWay => simp [findAt, Place.isLeaf]
  | inside key rest merging ih =>
    rw [findAt, if_pos rfl]
    exact ih ordered.2.1
  | behindLeaf held behind merging ih =>
    rw [findAt_leaf_of_ne (String.ne_of_lt behind).symm]
    exact ih ordered.2
  | behindNode children behind merging ih =>
    rw [findAt_node_of_ne (String.ne_of_lt behind).symm]
    exact ih ordered.2.2

/-- **A value replaces another one exactly if one stands at its path.** -/
theorem merge_replaced_iff {record : Record α} (ordered : Ordered record) (path : List String)
    (value : α) :
    (record.merge path value).2 = .replaced ↔ (record.find path).isLeaf = true := by
  cases path with
  | nil => simp [merge, find, Place.isLeaf]
  | cons key path => exact (mergeAt_cases record key path value).replaced_iff ordered

/-! ### The leaves -/

theorem mem_leaves_graft {key : String} {path : List String} {value : α} {rest : Record α}
    {entry : List String × α} (member : entry ∈ (graft key path value rest).leaves) :
    entry = (key :: path, value) ∨ entry ∈ rest.leaves := by
  induction path generalizing key rest entry with
  | nil => exact List.mem_cons.mp member
  | cons next path ih =>
    rcases List.mem_append.mp member with inside | behind
    · obtain ⟨inner, innerMem, rfl⟩ := List.mem_map.mp inside
      rcases ih innerMem with rfl | none
      · exact .inl rfl
      · cases none
    · exact .inr behind

theorem Merging.mem_leaves {value : α} {record after : Record α} {key : String}
    {path : List String} {outcome : MergeOutcome}
    (merging : Merging value record key path after outcome) {entry : List String × α}
    (member : entry ∈ after.leaves) : entry = (key :: path, value) ∨ entry ∈ record.leaves := by
  induction merging generalizing entry with
  | inserted path front => exact mem_leaves_graft member
  | replaced key held rest =>
    exact (List.mem_cons.mp member).imp_right (List.mem_cons_of_mem _)
  | leafInWay | nodeInWay => exact .inr member
  | inside key rest merging ih =>
    rcases List.mem_append.mp member with inside | behind
    · obtain ⟨inner, innerMem, rfl⟩ := List.mem_map.mp inside
      rcases ih innerMem with rfl | old
      · exact .inl rfl
      · exact .inr (List.mem_append_left _ (List.mem_map.mpr ⟨inner, old, rfl⟩))
    · exact .inr (List.mem_append_right _ behind)
  | behindLeaf held behind merging ih =>
    rcases List.mem_cons.mp member with rfl | later
    · exact .inr List.mem_cons_self
    · exact (ih later).imp_right (List.mem_cons_of_mem _)
  | behindNode children behind merging ih =>
    rcases List.mem_append.mp member with inside | later
    · exact .inr (List.mem_append_left _ inside)
    · exact (ih later).imp_right (List.mem_append_right _)

/-- **A leaf was there before, or it is the one that was set.** -/
theorem mem_leaves_merge {record : Record α} {path : List String} {value : α}
    {entry : List String × α} (member : entry ∈ (record.merge path value).1.leaves) :
    entry = (path, value) ∨ entry ∈ record.leaves := by
  cases path with
  | nil => exact .inr member
  | cons key path => exact (mergeAt_cases record key path value).mem_leaves member

/-! ### Other values -/

theorem leaves_map (f : α → β) (record : Record α) :
    (record.map f).leaves = record.leaves.map fun entry => (entry.1, f entry.2) := by
  induction record with
  | nil => rfl
  | leaf key value rest ih => simp [map, leaves, ih]
  | node key children rest ihChildren ihRest =>
    simp [map, leaves, ihChildren, ihRest, Function.comp_def]

theorem isEmpty_map (f : α → β) (record : Record α) : (record.map f).isEmpty = record.isEmpty := by
  cases record <;> rfl

theorem map_graft (f : α → β) (key : String) (path : List String) (value : α) (rest : Record α) :
    (graft key path value rest).map f = graft key path (f value) (rest.map f) := by
  induction path generalizing key rest with
  | nil => rfl
  | cons next path ih => rw [graft, map, ih next nil, graft, map]

theorem mergeAt_map (f : α → β) (record : Record α) (key : String) (path : List String)
    (value : α) :
    (record.map f).mergeAt key path (f value) =
      ((record.mergeAt key path value).1.map f, (record.mergeAt key path value).2) := by
  induction record generalizing key path with
  | nil => simp [map, mergeAt, map_graft]
  | leaf other held rest ih =>
    rw [map]
    unfold mergeAt
    by_cases before : key < other
    · simp only [if_pos before, map_graft, map]
    · simp only [if_neg before]
      by_cases same : key = other
      · cases path <;> simp only [if_pos same, map]
      · simp only [if_neg same, ih, map]
  | node other children rest ihChildren ihRest =>
    rw [map]
    unfold mergeAt
    by_cases before : key < other
    · simp only [if_pos before, map_graft, map]
    · simp only [if_neg before]
      by_cases same : key = other
      · cases path with
        | nil => simp only [if_pos same, map]
        | cons next path => simp only [if_pos same, ihChildren, map]
      · simp only [if_neg same, ihRest, map]

/-- **Values are not looked at when one is set.** -/
theorem merge_map (f : α → β) (record : Record α) (path : List String) (value : α) :
    (record.map f).merge path (f value) =
      ((record.merge path value).1.map f, (record.merge path value).2) := by
  cases path with
  | nil => rfl
  | cons key path => exact mergeAt_map f record key path value

end Record

end MetricRelay

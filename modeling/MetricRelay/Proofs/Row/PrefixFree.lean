/-
**A record is a prefix-free map.**

What a record holds is said by its leaves, the pairs of a path and a value. Along the record they
obey equations, one for each constructor (`Record.cons_mem_leaves_leaf`,
`Record.cons_mem_leaves_node`), and what is said here about lookups and merges follows from them.

* `Record.Apart`, `Record.ProperPrefix`: how two paths can lie to each other;
* `Record.Solid`: no inner node is empty;
* `Record.Outer`, `Record.Inner`: a path goes on behind that of a leaf, or a leaf path behind it;
* `Record.mergeAll`: some values are set, one after the other.

Main statement: `Record.record_is_prefix_free_map`.
-/

import MetricRelay.Proofs.Row.Merging

namespace MetricRelay

namespace Record

variable {α : Type}

/-! ### Paths -/

/-- Neither path begins with the other one. -/
def Apart (first second : List String) : Prop :=
  ¬ first <+: second ∧ ¬ second <+: first

instance (first second : List String) : Decidable (Apart first second) :=
  inferInstanceAs (Decidable (¬ first <+: second ∧ ¬ second <+: first))

/-- The second path begins with the first one and goes on. -/
def ProperPrefix (short long : List String) : Prop :=
  short <+: long ∧ short ≠ long

theorem Apart.symm {first second : List String} (apart : Apart first second) :
    Apart second first :=
  And.symm apart

theorem apart_cons {key : String} {first second : List String} :
    Apart (key :: first) (key :: second) ↔ Apart first second := by
  unfold Apart
  rw [List.prefix_cons_inj, List.prefix_cons_inj]

theorem apart_of_ne {key other : String} (different : key ≠ other) (first second : List String) :
    Apart (key :: first) (other :: second) :=
  ⟨fun begins => different (List.cons_prefix_cons.mp begins).1,
    fun begins => different (List.cons_prefix_cons.mp begins).1.symm⟩

theorem properPrefix_cons {key other : String} {short long : List String} :
    ProperPrefix (key :: short) (other :: long) ↔ key = other ∧ ProperPrefix short long := by
  unfold ProperPrefix
  rw [List.cons_prefix_cons, and_assoc]
  refine and_congr_right fun same => and_congr_right fun _ => ?_
  rw [same, Ne, List.cons_inj_right]

theorem not_properPrefix_nil (short : List String) : ¬ ProperPrefix short [] :=
  fun proper => proper.2 (List.prefix_nil.mp proper.1)

theorem nil_properPrefix {long : List String} : ProperPrefix [] long ↔ long ≠ [] :=
  ⟨fun proper => proper.2.symm, fun longer => ⟨List.nil_prefix, longer.symm⟩⟩

/-! ### The leaves along a record -/

theorem nil_notMem_leaves (record : Record α) (value : α) : ([], value) ∉ record.leaves := by
  induction record with
  | nil => simp [leaves]
  | leaf key held rest ih => simpa [leaves] using ih
  | node key children rest _ ih => simpa [leaves] using ih

/-- The paths of the leaves go on behind what all names are above of. -/
theorem cons_notMem_leaves {record : Record α} {key : String} (above : Above key record)
    (path : List String) (value : α) : (key :: path, value) ∉ record.leaves := by
  induction record with
  | nil => simp [leaves]
  | leaf other held rest ih =>
    rw [leaves, List.mem_cons, not_or]
    refine ⟨fun same => ?_, ih above.2⟩
    exact String.ne_of_lt above.1 (List.cons.inj (Prod.mk.inj same).1).1
  | node other children rest _ ih =>
    rw [leaves, List.mem_append, not_or]
    refine ⟨fun inside => ?_, ih above.2⟩
    obtain ⟨inner, _, same⟩ := List.mem_map.mp inside
    exact String.ne_of_lt above.1 (List.cons.inj (Prod.mk.inj same).1).1.symm

theorem cons_mem_leaves_leaf {other key : String} {held value : α} {rest : Record α}
    (above : Above other rest) {path : List String} :
    (key :: path, value) ∈ (leaf other held rest).leaves ↔
      if key = other then path = [] ∧ value = held else (key :: path, value) ∈ rest.leaves := by
  rw [leaves, List.mem_cons, Prod.mk.injEq, List.cons.injEq]
  by_cases same : key = other
  · subst same
    rw [if_pos rfl]
    simp [cons_notMem_leaves above]
  · simp [same]

theorem cons_mem_leaves_node {other key : String} {children rest : Record α} {value : α}
    (above : Above other rest) {path : List String} :
    (key :: path, value) ∈ (node other children rest).leaves ↔
      if key = other then (path, value) ∈ children.leaves
      else (key :: path, value) ∈ rest.leaves := by
  rw [leaves, List.mem_append, List.mem_map]
  by_cases same : key = other
  · subst same
    rw [if_pos rfl]
    simp [cons_notMem_leaves above]
  · have outside :
        ¬ ∃ inner ∈ children.leaves, (other :: inner.1, inner.2) = (key :: path, value) := by
      rintro ⟨inner, _, equal⟩
      exact same (List.cons.inj (Prod.mk.inj equal).1).1.symm
    rw [if_neg same, or_iff_right outside]

/-- **No leaf path begins with another one.** -/
theorem leaves_apart {record : Record α} (ordered : Ordered record) :
    record.leaves.Pairwise fun first second => Apart first.1 second.1 := by
  have front {key : String} {rest : Record α} (above : Above key rest) (path : List String)
      {entry : List String × α} (member : entry ∈ rest.leaves) : Apart (key :: path) entry.1 := by
    obtain ⟨_ | ⟨other, behind⟩, value⟩ := entry
    · exact absurd member (nil_notMem_leaves rest value)
    · refine apart_of_ne (fun same => ?_) path behind
      subst same
      exact cons_notMem_leaves above behind value member
  induction record with
  | nil => exact .nil
  | leaf key held rest ih =>
    exact .cons (fun entry member => front ordered.1 [] member) (ih ordered.2)
  | node key children rest ihChildren ihRest =>
    rw [leaves, List.pairwise_append, List.pairwise_map]
    refine ⟨?_, ihRest ordered.2.2, fun entry inside other member => ?_⟩
    · exact (ihChildren ordered.2.1).imp apart_cons.mpr
    · obtain ⟨inner, _, rfl⟩ := List.mem_map.mp inside
      exact front ordered.1 inner.1 member

/-! ### Records without empty nodes -/

/-- No inner node is empty. -/
def Solid : Record α → Prop
  | nil => True
  | leaf _ _ rest => Solid rest
  | node _ children rest => children ≠ nil ∧ Solid children ∧ Solid rest

theorem graft_ne_nil (key : String) (path : List String) (value : α) (rest : Record α) :
    graft key path value rest ≠ nil := by
  cases path <;> simp [graft]

theorem graft_solid (key : String) (path : List String) (value : α) {rest : Record α}
    (solid : Solid rest) : Solid (graft key path value rest) := by
  induction path generalizing key rest with
  | nil => exact solid
  | cons next path ih => exact ⟨graft_ne_nil next path value nil, ih next trivial, solid⟩

/-- A record without empty nodes has a leaf, unless it is empty. -/
theorem exists_mem_leaves {record : Record α} (solid : Solid record) (nonempty : record ≠ nil) :
    ∃ path value, (path, value) ∈ record.leaves := by
  induction record with
  | nil => exact absurd rfl nonempty
  | leaf key held rest => exact ⟨[key], held, List.mem_cons_self⟩
  | node key children rest ihChildren =>
    obtain ⟨path, value, member⟩ := ihChildren solid.2.1 solid.1
    exact ⟨key :: path, value, List.mem_append_left _ (List.mem_map.mpr ⟨_, member, rfl⟩)⟩

theorem leaves_eq_nil_iff {record : Record α} (solid : Solid record) :
    record.leaves = [] ↔ record = nil := by
  constructor
  · intro leafless
    refine Classical.byContradiction fun nonempty => ?_
    obtain ⟨path, value, member⟩ := exists_mem_leaves solid nonempty
    rw [leafless] at member
    cases member
  · intro void
    rw [void]
    rfl

namespace Merging

variable {value : α} {record after : Record α} {key : String} {path : List String}
  {outcome : MergeOutcome}

theorem ne_nil (merging : Merging value record key path after outcome) : after ≠ nil := by
  cases merging with
  | inserted path => exact graft_ne_nil key path value record
  | replaced | leafInWay | nodeInWay | inside | behindLeaf | behindNode => simp

theorem solid (merging : Merging value record key path after outcome) (solid : Solid record) :
    Solid after := by
  induction merging with
  | inserted path => exact graft_solid _ path value solid
  | replaced | leafInWay | nodeInWay => exact solid
  | inside key rest merging ih => exact ⟨merging.ne_nil, ih solid.2.1, solid.2.2⟩
  | behindLeaf held behind merging ih => exact ih solid
  | behindNode children behind merging ih => exact ⟨solid.1, solid.2.1, ih solid.2.2⟩

end Merging

/-- **Setting a value leaves no node empty,** whether it fits or not. -/
theorem merge_solid {record : Record α} (solid : Solid record) (path : List String) (value : α) :
    Solid (record.merge path value).1 := by
  cases path with
  | nil => exact solid
  | cons key path => exact (mergeAt_cases record key path value).solid solid

/-! ### Lookups -/

theorem findAt_eq_leaf_iff {record : Record α} (ordered : Ordered record) {key : String}
    {path : List String} {value : α} :
    record.findAt key path = .leaf value ↔ (key :: path, value) ∈ record.leaves := by
  induction record generalizing key path with
  | nil => simp [findAt, leaves]
  | leaf other held rest ih =>
    rw [cons_mem_leaves_leaf ordered.1]
    unfold findAt
    by_cases same : key = other
    · rw [if_pos same, if_pos same]
      cases path <;> simp [eq_comm]
    · rw [if_neg same, if_neg same, ih ordered.2]
  | node other children rest ihChildren ihRest =>
    rw [cons_mem_leaves_node ordered.1]
    unfold findAt
    by_cases same : key = other
    · rw [if_pos same, if_pos same]
      cases path with
      | nil => simp [nil_notMem_leaves]
      | cons next path => exact ihChildren ordered.2.1
    · rw [if_neg same, if_neg same, ihRest ordered.2.2]

/-- **At a path stands a leaf exactly if it is one of the leaves.** -/
theorem find_eq_leaf_iff {record : Record α} (ordered : Ordered record) {path : List String}
    {value : α} : record.find path = .leaf value ↔ (path, value) ∈ record.leaves := by
  cases path with
  | nil => simp [find, nil_notMem_leaves]
  | cons key path => exact findAt_eq_leaf_iff ordered

/-- A leaf path goes on behind the given one. -/
def Inner (record : Record α) (path : List String) : Prop :=
  ∃ longer value, (longer, value) ∈ record.leaves ∧ ProperPrefix path longer

/-- The path goes on behind that of a leaf. -/
def Outer (record : Record α) (path : List String) : Prop :=
  ∃ short value, (short, value) ∈ record.leaves ∧ ProperPrefix short path

/-- Some leaf has a path that holds exactly if one with the first name has, when only that name
holds. -/
theorem exists_leaf_cons {record : Record α} {key : String} {holds later : List String → Prop}
    (cut : ∀ other rest, holds (other :: rest) ↔ other = key ∧ later rest) :
    (∃ path value, (path, value) ∈ record.leaves ∧ holds path) ↔
      ∃ path value, (key :: path, value) ∈ record.leaves ∧ later path := by
  constructor
  · rintro ⟨_ | ⟨other, path⟩, value, member, held⟩
    · exact absurd member (nil_notMem_leaves record value)
    · obtain ⟨rfl, rest⟩ := (cut other path).mp held
      exact ⟨path, value, member, rest⟩
  · rintro ⟨path, value, member, rest⟩
    exact ⟨key :: path, value, member, (cut key path).mpr ⟨rfl, rest⟩⟩

theorem inner_cons {record : Record α} {key : String} {path : List String} :
    Inner record (key :: path) ↔
      ∃ longer value, (key :: longer, value) ∈ record.leaves ∧ ProperPrefix path longer :=
  exists_leaf_cons fun _ _ => properPrefix_cons.trans (and_congr_left' eq_comm)

theorem outer_cons {record : Record α} {key : String} {path : List String} :
    Outer record (key :: path) ↔
      ∃ short value, (key :: short, value) ∈ record.leaves ∧ ProperPrefix short path :=
  exists_leaf_cons fun _ _ => properPrefix_cons

theorem inner_nil {record : Record α} (solid : Solid record) :
    Inner record [] ↔ record ≠ nil := by
  constructor
  · rintro ⟨longer, value, member, _⟩ rfl
    cases member
  · intro nonempty
    obtain ⟨longer, value, member⟩ := exists_mem_leaves solid nonempty
    refine ⟨longer, value, member, nil_properPrefix.mpr ?_⟩
    rintro rfl
    exact nil_notMem_leaves record value member

section Equations

variable {other key : String} {path : List String}

theorem inner_leaf {held : α} {rest : Record α} (above : Above other rest) :
    Inner (leaf other held rest) (key :: path) ↔ key ≠ other ∧ Inner rest (key :: path) := by
  rw [inner_cons, inner_cons]
  simp only [cons_mem_leaves_leaf above]
  by_cases same : key = other
  · simp [same, not_properPrefix_nil]
  · simp [same]

theorem outer_leaf {held : α} {rest : Record α} (above : Above other rest) :
    Outer (leaf other held rest) (key :: path) ↔
      if key = other then path ≠ [] else Outer rest (key :: path) := by
  rw [outer_cons, outer_cons]
  simp only [cons_mem_leaves_leaf above]
  by_cases same : key = other
  · simp [same, nil_properPrefix]
  · simp [same]

theorem inner_node {children rest : Record α} (above : Above other rest) :
    Inner (node other children rest) (key :: path) ↔
      if key = other then Inner children path else Inner rest (key :: path) := by
  rw [inner_cons, inner_cons]
  simp only [cons_mem_leaves_node above]
  by_cases same : key = other
  · simp [same, Inner]
  · simp [same]

theorem outer_node {children rest : Record α} (above : Above other rest) :
    Outer (node other children rest) (key :: path) ↔
      if key = other then Outer children path else Outer rest (key :: path) := by
  rw [outer_cons, outer_cons]
  simp only [cons_mem_leaves_node above]
  by_cases same : key = other
  · simp [same, Outer]
  · simp [same]

end Equations

theorem findAt_eq_node_iff {record : Record α} (ordered : Ordered record) (solid : Solid record)
    {key : String} {path : List String} :
    (∃ children, record.findAt key path = .node children) ↔ Inner record (key :: path) := by
  induction record generalizing key path with
  | nil => simp [findAt, Inner, leaves]
  | leaf other held rest ih =>
    rw [inner_leaf ordered.1]
    unfold findAt
    by_cases same : key = other
    · cases path <;> simp [same]
    · rw [if_neg same, and_iff_right same]
      exact ih ordered.2 solid
  | node other children rest ihChildren ihRest =>
    rw [inner_node ordered.1]
    unfold findAt
    by_cases same : key = other
    · simp only [if_pos same]
      cases path with
      | nil => simp [inner_nil solid.2.1, solid.1]
      | cons next path => exact ihChildren ordered.2.1 solid.2.1
    · simp only [if_neg same]
      exact ihRest ordered.2.2 solid.2.2

/-- **At a path stands a node exactly if a leaf path goes on behind it.** -/
theorem find_eq_node_iff {record : Record α} (ordered : Ordered record) (solid : Solid record)
    {path : List String} :
    (∃ children, record.find path = .node children) ↔ path ≠ [] ∧ Inner record path := by
  cases path with
  | nil => simp [find]
  | cons key path =>
    rw [and_iff_right (List.cons_ne_nil key path)]
    exact findAt_eq_node_iff ordered solid

/-! ### Merges -/

theorem Merging.conflict_iff {value : α} {record after : Record α} {key : String}
    {path : List String} {outcome : MergeOutcome}
    (merging : Merging value record key path after outcome) (ordered : Ordered record)
    (solid : Solid record) :
    outcome = .conflict ↔ Outer record (key :: path) ∨ Inner record (key :: path) := by
  induction merging with
  | @inserted record key path front =>
    have none := cons_notMem_leaves (front.above ordered)
    rw [outer_cons, inner_cons]
    simp [none]
  | replaced key held rest =>
    rw [outer_leaf ordered.1, inner_leaf ordered.1]
    simp
  | leafInWay key held rest next path =>
    rw [outer_leaf ordered.1]
    simp
  | nodeInWay key children rest =>
    rw [inner_node ordered.1, if_pos rfl, inner_nil solid.2.1]
    simp [solid.1]
  | inside key rest merging ih =>
    rw [outer_node ordered.1, inner_node ordered.1, if_pos rfl, if_pos rfl]
    exact ih ordered.2.1 solid.2.1
  | behindLeaf held behind merging ih =>
    have different := (String.ne_of_lt behind).symm
    rw [outer_leaf ordered.1, inner_leaf ordered.1, if_neg different, and_iff_right different]
    exact ih ordered.2 solid
  | behindNode children behind merging ih =>
    have different := (String.ne_of_lt behind).symm
    rw [outer_node ordered.1, inner_node ordered.1, if_neg different, if_neg different]
    exact ih ordered.2.2 solid.2.2

/-- **A value does not fit exactly if its path and a leaf path begin one with the other.** -/
theorem merge_conflict_iff {record : Record α} (ordered : Ordered record) (solid : Solid record)
    (path : List String) (value : α) :
    (record.merge path value).2 = .conflict ↔
      path ≠ [] ∧ (Outer record path ∨ Inner record path) := by
  cases path with
  | nil => simp [merge]
  | cons key path =>
    rw [and_iff_right (List.cons_ne_nil key path)]
    exact (mergeAt_cases record key path value).conflict_iff ordered solid

theorem merge_emptyPath_iff (record : Record α) (path : List String) (value : α) :
    (record.merge path value).2 = .emptyPath ↔ path = [] := by
  have other {after : Record α} {key : String} {path : List String} {outcome : MergeOutcome}
      (merging : Merging value record key path after outcome) : outcome ≠ .emptyPath := by
    induction merging with
    | inserted | replaced | leafInWay | nodeInWay => simp
    | inside _ _ _ ih | behindLeaf _ _ _ ih | behindNode _ _ _ ih => exact ih
  cases path with
  | nil => simp [merge]
  | cons key path =>
    exact iff_of_false (other (mergeAt_cases record key path value)) (List.cons_ne_nil key path)

/-- **What does not fit changes nothing.** -/
theorem merge_of_unwritten {record : Record α} {path : List String} {value : α}
    (unwritten : (record.merge path value).2.isWritten = false) :
    (record.merge path value).1 = record := by
  have same {record after : Record α} {key : String} {path : List String} {outcome : MergeOutcome}
      (merging : Merging value record key path after outcome)
      (unwritten : outcome.isWritten = false) : after = record := by
    induction merging with
    | inserted | replaced => cases unwritten
    | leafInWay | nodeInWay => rfl
    | inside _ _ _ ih | behindLeaf _ _ _ ih | behindNode _ _ _ ih => rw [ih unwritten]
  cases path with
  | nil => rfl
  | cons key path => exact same (mergeAt_cases record key path value) unwritten

theorem leaves_graft (key : String) (path : List String) (value : α) (rest : Record α) :
    (graft key path value rest).leaves = (key :: path, value) :: rest.leaves := by
  induction path generalizing key rest with
  | nil => rfl
  | cons next path ih => simp [graft, leaves, ih]

theorem Merging.cons_mem_leaves {value : α} {record after : Record α} {key : String}
    {path : List String} {outcome : MergeOutcome}
    (merging : Merging value record key path after outcome) (ordered : Ordered record)
    (written : outcome.isWritten = true) (other : String) (behind : List String) (held : α) :
    (other :: behind, held) ∈ after.leaves ↔
      if other :: behind = key :: path then held = value
      else (other :: behind, held) ∈ record.leaves := by
  induction merging generalizing other behind with
  | @inserted record key path front =>
    have none := cons_notMem_leaves (front.above ordered) path held
    rw [leaves_graft, List.mem_cons, Prod.mk.injEq]
    by_cases same : other :: behind = key :: path
    · simp [same, none]
    · simp [same]
  | replaced key old rest =>
    rw [cons_mem_leaves_leaf ordered.1, cons_mem_leaves_leaf ordered.1]
    by_cases same : other = key <;> by_cases last : behind = [] <;> simp [same, last]
  | leafInWay | nodeInWay => cases written
  | @inside key children after rest next path outcome merging ih =>
    rw [cons_mem_leaves_node ordered.1, cons_mem_leaves_node ordered.1]
    by_cases same : other = key
    · subst same
      simp only [if_true, List.cons_inj_right]
      cases behind with
      | nil => simp [nil_notMem_leaves]
      | cons first behind => exact ih ordered.2.1 written first behind
    · simp [same]
  | @behindLeaf first key old rest after path outcome before merging ih =>
    rw [cons_mem_leaves_leaf (merging.above before ordered.1), cons_mem_leaves_leaf ordered.1]
    by_cases same : other = first
    · subst same
      simp [String.ne_of_lt before]
    · rw [if_neg same, if_neg same]
      exact ih ordered.2 written other behind
  | @behindNode first key children rest after path outcome before merging ih =>
    rw [cons_mem_leaves_node (merging.above before ordered.1), cons_mem_leaves_node ordered.1]
    by_cases same : other = first
    · subst same
      simp [String.ne_of_lt before]
    · rw [if_neg same, if_neg same]
      exact ih ordered.2.2 written other behind

/-- **A value that fits becomes the one at its path, and all other leaves stay.** -/
theorem mem_leaves_merge_iff {record : Record α} (ordered : Ordered record) {path : List String}
    {value : α} (written : (record.merge path value).2.isWritten = true) (other : List String)
    (held : α) :
    (other, held) ∈ (record.merge path value).1.leaves ↔
      if other = path then held = value else (other, held) ∈ record.leaves := by
  cases path with
  | nil => cases written
  | cons key path =>
    have merging := mergeAt_cases record key path value
    cases other with
    | nil => simp [nil_notMem_leaves]
    | cons first behind => exact merging.cons_mem_leaves ordered written first behind held

/-! ### Main statement -/

/-- A record with some values set, one after the other. -/
def mergeAll (record : Record α) (entries : List (List String × α)) : Record α :=
  entries.foldl (fun record entry => (record.merge entry.1 entry.2).1) record

theorem mergeAll_ordered {record : Record α} (ordered : Ordered record)
    (entries : List (List String × α)) : Ordered (record.mergeAll entries) := by
  induction entries generalizing record with
  | nil => exact ordered
  | cons entry rest ih => exact ih (merge_ordered ordered entry.1 entry.2)

theorem mergeAll_solid {record : Record α} (solid : Solid record)
    (entries : List (List String × α)) : Solid (record.mergeAll entries) := by
  induction entries generalizing record with
  | nil => exact solid
  | cons entry rest ih => exact ih (merge_solid solid entry.1 entry.2)

/-- **A record is a prefix-free map.** Let some values be set, one after the other, in an empty
record:

* no inner node of the record is empty, and no leaf path begins with another one;
* for the next value there are four outcomes: its path is empty; or it does not fit, because its
  path goes on behind that of a leaf or a leaf path goes on behind it; or it replaces the leaf at
  its path; or else it is inserted. In the first two cases the record is unchanged. In the others
  the leaves are the old ones, but at its path stands the new value;
* at a path stands a leaf exactly if it is one of the leaves, a node exactly if the path is not
  empty and a leaf path goes on behind it, and nothing otherwise;
* as many leaves are counted as there are, and the record is empty exactly if there are none. -/
theorem record_is_prefix_free_map (entries : List (List String × α)) :
    let record := (nil : Record α).mergeAll entries
    Solid record ∧
    (record.leaves.Pairwise fun first second => Apart first.1 second.1) ∧
    (∀ (path : List String) (value : α),
      let (after, outcome) := record.merge path value
      (outcome = .emptyPath ↔ path = []) ∧
      (outcome = .conflict ↔ path ≠ [] ∧ ∃ other held, (other, held) ∈ record.leaves ∧
        (ProperPrefix other path ∨ ProperPrefix path other)) ∧
      (outcome = .replaced ↔ ∃ held, (path, held) ∈ record.leaves) ∧
      (outcome = .inserted ↔ path ≠ [] ∧ (¬ ∃ other held, (other, held) ∈ record.leaves ∧
        (ProperPrefix other path ∨ ProperPrefix path other)) ∧
        ¬ ∃ held, (path, held) ∈ record.leaves) ∧
      (outcome = .emptyPath ∨ outcome = .conflict → after = record) ∧
      (outcome = .replaced ∨ outcome = .inserted → ∀ other held, (other, held) ∈ after.leaves ↔
        if other = path then held = value else (other, held) ∈ record.leaves)) ∧
    (∀ path : List String,
      (∀ value, record.find path = .leaf value ↔ (path, value) ∈ record.leaves) ∧
      ((∃ children, record.find path = .node children) ↔ path ≠ [] ∧
        ∃ longer held, (longer, held) ∈ record.leaves ∧ ProperPrefix path longer) ∧
      (record.find path = .missing ↔ (¬ ∃ value, (path, value) ∈ record.leaves) ∧
        ¬ (path ≠ [] ∧ ∃ longer held, (longer, held) ∈ record.leaves ∧
          ProperPrefix path longer))) ∧
    record.leafCount = record.leaves.length ∧
    (record.isEmpty = true ↔ record.leafCount = 0) := by
  intro record
  have ordered : Ordered record := mergeAll_ordered (show Ordered (nil : Record α) from trivial) _
  have solid : Solid record := mergeAll_solid (show Solid (nil : Record α) from trivial) _
  refine ⟨solid, leaves_apart ordered, fun path value => ?_, fun path => ?_,
    (length_leaves record).symm, ?_⟩
  · have blocked : (∃ other held, (other, held) ∈ record.leaves ∧
        (ProperPrefix other path ∨ ProperPrefix path other)) ↔
        Outer record path ∨ Inner record path := by
      unfold Outer Inner
      simp only [and_or_left, exists_or]
    have emptyPath := merge_emptyPath_iff record path value
    have conflict := merge_conflict_iff ordered solid path value
    have replaced := merge_replaced_iff ordered path value
    rw [Place.isLeaf_iff, exists_congr fun held => find_eq_leaf_iff ordered] at replaced
    have effect := @mem_leaves_merge_iff α record ordered path value
    have unchanged := @merge_of_unwritten α record path value
    rw [blocked]
    rcases merged : record.merge path value with ⟨after, outcome⟩
    rw [merged] at emptyPath conflict replaced effect unchanged
    have remains : outcome = .inserted ↔
        outcome ≠ .emptyPath ∧ outcome ≠ .conflict ∧ outcome ≠ .replaced := by
      cases outcome <;> simp
    refine ⟨emptyPath, conflict, replaced, remains.trans ?_, ?_, ?_⟩
    · rw [Ne, Ne, Ne, emptyPath, conflict, replaced, not_and]
      exact and_congr_right fun nonempty => and_congr_left fun _ => forall_prop_of_true nonempty
    · rintro (rfl | rfl) <;> exact unchanged rfl
    · rintro (rfl | rfl) <;> exact effect rfl
  · have leaf (value : α) := @find_eq_leaf_iff α record ordered path value
    have node : (∃ children, record.find path = .node children) ↔ path ≠ [] ∧
        ∃ longer held, (longer, held) ∈ record.leaves ∧ ProperPrefix path longer :=
      find_eq_node_iff ordered solid
    refine ⟨leaf, node, ?_⟩
    rw [← node, ← exists_congr leaf]
    cases record.find path <;> simp
  · rw [← length_leaves, List.length_eq_zero_iff, leaves_eq_nil_iff solid, isEmpty_iff]

end Record

end MetricRelay

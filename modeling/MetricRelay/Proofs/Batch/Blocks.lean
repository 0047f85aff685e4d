/-
**Samples in blocks of one second.**

What the rows of a list of samples should be, without any batcher:

* `Offered.blocks`: the samples are cut where the second changes, and only there;
* `Offered.gather`: the values of a block are merged in order;
* `Offered.rows`: every block with at least one value gives one row.

A second that comes back later gives another row. If the seconds never decrease, those of the rows
increase (`Offered.rows_increasing`).
-/

import Mathlib.Data.List.SplitBy
import MetricRelay.Proofs.Batch.Cases

namespace MetricRelay

/-- The row of a record, unless there is nothing in it. -/
def Row.ofRecord? (timestamp : Int) (record : Record Measure) (host : HostTag) : Option Row :=
  if record.isEmpty then none else some ⟨timestamp, record, host⟩

theorem Row.ofRecord?_of_full {record : Record Measure} (full : record ≠ .nil) (timestamp : Int)
    (host : HostTag) : ofRecord? timestamp record host = some ⟨timestamp, record, host⟩ :=
  if_neg fun empty => full (Record.isEmpty_iff.mp empty)

namespace Offered

/-- Two samples of one second. -/
def sameSecond (first later : Offered) : Bool :=
  first.timestamp == later.timestamp

/-- The longest blocks of neighbours of one second. -/
def blocks (samples : List Offered) : List (List Offered) :=
  samples.splitBy sameSecond

/-- The record with the value of one more sample, if it fits. -/
def add (record : Record Measure) (sample : Offered) : Record Measure :=
  (record.merge sample.route.path sample.value).1

/-- The values of a block, merged in order. -/
def gather (block : List Offered) : Record Measure :=
  block.foldl add .nil

/-- The row of a block, unless it has no value. -/
def row? (hostname : String) (block : List Offered) : Option Row :=
  match block with
  | [] => none
  | first :: rest =>
    Row.ofRecord? first.timestamp (gather (first :: rest)) (first.stream hostname).host

/-- The rows of some samples. -/
def rows (hostname : String) (samples : List Offered) : List Row :=
  (blocks samples).filterMap (row? hostname)

/-! ### One more sample -/

theorem row?_of_uniform {hostname : String} {block : List Offered} (nonempty : block ≠ [])
    {timestamp : Int} (second : ∀ sample ∈ block, sample.timestamp = timestamp)
    {stream : StreamKey} (own : ∀ sample ∈ block, sample.stream hostname = stream) :
    row? hostname block = Row.ofRecord? timestamp (gather block) stream.host := by
  cases block with
  | nil => exact absurd rfl nonempty
  | cons first rest =>
    show Row.ofRecord? first.timestamp _ (first.stream hostname).host = _
    rw [second first List.mem_cons_self, own first List.mem_cons_self]

@[simp] theorem gather_concat (block : List Offered) (sample : Offered) :
    gather (block ++ [sample]) = add (gather block) sample :=
  List.foldl_concat add .nil sample block

/-- A sample of the second of the last block joins it. -/
theorem blocks_concat_same {samples opened : List Offered} {closed : List (List Offered)}
    (cut : blocks samples = closed ++ [opened]) {sample : Offered}
    (same : ∀ other ∈ opened, other.timestamp = sample.timestamp) :
    blocks (samples ++ [sample]) = closed ++ [opened ++ [sample]] := by
  unfold blocks at cut ⊢
  rw [List.splitBy_eq_iff] at cut ⊢
  obtain ⟨whole, inhabited, uniform, apart⟩ := cut
  have nonempty : opened ≠ [] := by
    rintro rfl
    exact inhabited (by simp)
  refine ⟨by simp [whole], ?_, ?_, ?_⟩
  · intro void
    rcases List.mem_append.mp void with old | last
    · exact inhabited (List.mem_append_left _ old)
    · simp at last
  · intro block member
    rcases List.mem_append.mp member with old | last
    · exact uniform block (List.mem_append_left _ old)
    · rw [List.mem_singleton.mp last, List.isChain_append]
      refine ⟨uniform opened (by simp), .singleton _, ?_⟩
      intro before isLast after isHead
      have before := same before (List.mem_of_mem_getLast? isLast)
      have after : sample = after := by simpa using isHead
      rw [← after]
      exact beq_iff_eq.mpr before
  · rw [List.isChain_append] at apart ⊢
    obtain ⟨first, _, border⟩ := apart
    refine ⟨first, .singleton _, ?_⟩
    intro before isLast after isHead
    have after : opened ++ [sample] = after := by simpa using isHead
    obtain ⟨full, _, differs⟩ := border before isLast opened (by simp)
    subst after
    refine ⟨full, by simp, ?_⟩
    rw [List.head_append_of_ne_nil nonempty]
    exact differs

/-- A sample of another second begins a block. -/
theorem blocks_concat_other {samples opened : List Offered} {closed : List (List Offered)}
    (cut : blocks samples = closed ++ [opened]) {sample : Offered}
    (different : ∀ other ∈ opened, other.timestamp ≠ sample.timestamp) :
    blocks (samples ++ [sample]) = (closed ++ [opened]) ++ [[sample]] := by
  have parts := (List.splitBy_eq_iff.mp cut).1
  have inhabited := (List.splitBy_eq_iff.mp cut).2.1
  have nonempty : opened ≠ [] := by
    rintro rfl
    exact inhabited (by simp)
  unfold blocks at cut ⊢
  rw [List.splitBy_append_cons [] ?_, cut]
  · rfl
  · intro last isLast
    have member : last ∈ opened := by
      rw [parts, List.flatten_concat, List.getLast?_append_of_ne_nil _ nonempty] at isLast
      exact List.mem_of_mem_getLast? isLast
    exact beq_eq_false_iff_ne.mpr (different last member)

/-! ### Seconds that never decrease -/

/-- A block holds some of the samples. -/
theorem mem_of_mem_blocks {samples block : List Offered} (member : block ∈ blocks samples)
    {sample : Offered} (within : sample ∈ block) : sample ∈ samples := by
  rw [← List.flatten_splitBy sameSecond samples]
  exact List.mem_flatten_of_mem member within

/-- All samples of a block have one second. -/
theorem timestamp_of_mem_blocks {samples block : List Offered} (member : block ∈ blocks samples)
    {first later : Offered} (firstMem : first ∈ block) (laterMem : later ∈ block) :
    first.timestamp = later.timestamp := by
  let same (before after : Offered) : Prop := before.timestamp = after.timestamp
  have symmetric : Std.Symm same := ⟨fun _ _ equal => equal.symm⟩
  have transitive : Trans same same same := ⟨fun equal equalToo => equal.trans equalToo⟩
  have chain : block.IsChain same :=
    (List.isChain_of_mem_splitBy member).imp fun _ _ equal => beq_iff_eq.mp equal
  have every := List.Pairwise.forall_of_forall (R := same) (fun _ _ => rfl)
    (List.isChain_iff_pairwise.mp chain)
  exact every firstMem laterMem

/-- The first block is nonempty and lies before the second in time. -/
def Before (first later : List Offered) : Prop :=
  later ≠ [] ∧ ∀ before ∈ first, ∀ after ∈ later, before.timestamp < after.timestamp

theorem Before.trans {first middle later : List Offered} (before : Before first middle)
    (after : Before middle later) : Before first later := by
  obtain ⟨sample, member⟩ := List.exists_mem_of_ne_nil middle before.1
  refine ⟨after.1, fun early earlyMem late lateMem => ?_⟩
  exact Int.lt_trans (before.2 early earlyMem sample member) (after.2 sample member late lateMem)

instance : Trans Before Before Before := ⟨Before.trans⟩

/-- If the seconds never decrease, every block lies before the next ones. -/
theorem blocks_before {samples : List Offered}
    (ordered : samples.Pairwise fun before after => before.timestamp ≤ after.timestamp) :
    (blocks samples).Pairwise Before := by
  have whole : (blocks samples).flatten = samples := List.flatten_splitBy _ _
  rw [← whole, List.pairwise_flatten] at ordered
  refine List.isChain_iff_pairwise.mp (List.isChain_iff_getElem.mpr fun index bound => ?_)
  obtain ⟨full, nonempty, differs⟩ :=
    List.isChain_iff_getElem.mp (List.isChain_getLast_head_splitBy sameSecond samples) index bound
  have late := List.pairwise_iff_getElem.mp ordered.2 index (index + 1) (by omega) bound (by omega)
  refine ⟨nonempty, fun before beforeMem after afterMem => ?_⟩
  -- The last sample of the one block and the first sample of the other have different seconds.
  have same := timestamp_of_mem_blocks (List.getElem_mem _) beforeMem (List.getLast_mem full)
  have sameToo := timestamp_of_mem_blocks (List.getElem_mem _) afterMem (List.head_mem nonempty)
  have border := beq_eq_false_iff_ne.mp differs
  rw [← same, ← sameToo] at border
  exact Int.lt_iff_le_and_ne.mpr ⟨late before beforeMem after afterMem, border⟩

/-- What the row of a block is made of. -/
theorem row?_eq_some {hostname : String} {block : List Offered} {row : Row}
    (known : row? hostname block = some row) :
    ∃ first ∈ block, row = ⟨first.timestamp, gather block, (first.stream hostname).host⟩ := by
  cases block with
  | nil => cases known
  | cons first rest =>
    change Row.ofRecord? first.timestamp _ _ = some row at known
    unfold Row.ofRecord? at known
    by_cases empty : (gather (first :: rest)).isEmpty = true
    · rw [if_pos empty] at known
      cases known
    · rw [if_neg empty, Option.some.injEq] at known
      exact ⟨first, List.mem_cons_self, known.symm⟩

theorem timestamp_of_row? {hostname : String} {block : List Offered} {row : Row}
    (known : row? hostname block = some row) :
    ∃ sample ∈ block, sample.timestamp = row.timestamp := by
  obtain ⟨first, member, rfl⟩ := row?_eq_some known
  exact ⟨first, member, rfl⟩

/-- **If the seconds of the samples never decrease, those of the rows increase.** -/
theorem rows_increasing (hostname : String) {samples : List Offered}
    (ordered : samples.Pairwise fun before after => before.timestamp ≤ after.timestamp) :
    (rows hostname samples).Pairwise fun before after => before.timestamp < after.timestamp := by
  refine (blocks_before ordered).filterMap (row? hostname) ?_
  intro first later before early earlyRow late lateRow
  obtain ⟨sample, member, second⟩ := timestamp_of_row? earlyRow
  obtain ⟨other, otherMember, otherSecond⟩ := timestamp_of_row? lateRow
  rw [← second, ← otherSecond]
  exact before.2 sample member other otherMember

end Offered

end MetricRelay

/-
**Every sample is counted once.**

A sample that is offered to a running batcher is counted by exactly one of five counters, which are
summed in `BatchStats.answered` (`Batcher.Taking.answered`).

The number of merged samples has two sides (`Batcher.run_tallied`): a sample that is merged is a
leaf of a row, unless a later sample of the same block replaces its value.

* `Offered.overwritten`: how many samples of a block replace the value of an earlier one;
* `Batcher.openRow`: the row that the open batch would give now;
* `Batcher.Gathers.rows_split`: the rows of the samples are those that were handed over, and that
  one.
-/

import Mathlib.Algebra.BigOperators.Group.List.Basic
import Mathlib.Algebra.GroupWithZero.Nat
import MetricRelay.Proofs.Batch.Grouping
import MetricRelay.Proofs.Row.Merging

namespace MetricRelay

/-- The samples that have an outcome, each counted once. -/
def BatchStats.answered (stats : BatchStats) : Nat :=
  stats.merged + stats.droppedConflicts + stats.droppedEmptyPath + stats.droppedForeign +
    stats.droppedSinkUnavailable

/-! ### Samples of a block -/

namespace Offered

/-- The sample finds a value at its path, after some other samples. -/
def overwrites (before : List Offered) (sample : Offered) : Bool :=
  ((gather before).find sample.route.path).isLeaf

/-- How many samples replace the value of an earlier one, when some come before all of them. -/
def overwrittenAfter (before : List Offered) : List Offered → Nat
  | [] => 0
  | sample :: rest =>
    (if overwrites before sample then 1 else 0) + overwrittenAfter (before ++ [sample]) rest

/-- How many samples of a block replace the value of an earlier one. -/
def overwritten (block : List Offered) : Nat :=
  overwrittenAfter [] block

/-- How many samples of a block are merged. -/
def written (block : List Offered) : Nat :=
  (gather block).leafCount + overwritten block

theorem gather_ordered (block : List Offered) : (gather block).Ordered := by
  induction block using List.reverseRecOn with
  | nil => trivial
  | append_singleton block sample ih =>
    rw [gather_concat]
    exact Record.merge_ordered ih sample.route.path sample.value

theorem overwrittenAfter_concat (before block : List Offered) (sample : Offered) :
    overwrittenAfter before (block ++ [sample]) =
      overwrittenAfter before block + if overwrites (before ++ block) sample then 1 else 0 := by
  induction block generalizing before with
  | nil => simp [overwrittenAfter]
  | cons first rest ih =>
    rw [List.cons_append, overwrittenAfter, ih, overwrittenAfter, Nat.add_assoc, List.append_assoc]
    rfl

/-- **One more sample is merged exactly if its value is written.** -/
theorem written_concat (block : List Offered) (sample : Offered) :
    written (block ++ [sample]) = written block +
      if ((gather block).merge sample.route.path sample.value).2.isWritten then 1 else 0 := by
  have replaces := Record.merge_replaced_iff (gather_ordered block) sample.route.path sample.value
  unfold written overwritten
  rw [gather_concat, overwrittenAfter_concat, List.nil_append, add, Record.leafCount_merge]
  simp only [overwrites, ← replaces]
  cases ((gather block).merge sample.route.path sample.value).2 <;>
    simp [MergeOutcome.isWritten] <;> omega

/-- A block without a row has no leaf. -/
theorem leafCount_of_row?_none {hostname : String} {block : List Offered}
    (rowless : row? hostname block = none) : (gather block).leafCount = 0 := by
  cases block with
  | nil => rfl
  | cons first rest =>
    by_cases void : gather (first :: rest) = .nil
    · rw [void]
      rfl
    · have row := Row.ofRecord?_of_full void first.timestamp (first.stream hostname).host
      exact absurd (rowless.symm.trans row) (by simp)

/-- The leaves of the rows of some blocks are those of the blocks. -/
theorem sum_leafCount_rows (hostname : String) (blocks : List (List Offered)) :
    ((blocks.filterMap (row? hostname)).map fun row => row.values.leafCount).sum =
      (blocks.map fun block => (gather block).leafCount).sum := by
  induction blocks with
  | nil => rfl
  | cons block rest ih =>
    rw [List.filterMap_cons, List.map_cons, List.sum_cons, ← ih]
    cases found : row? hostname block with
    | none => rw [leafCount_of_row?_none found, Nat.zero_add]
    | some row =>
      obtain ⟨first, _, rfl⟩ := row?_eq_some found
      rfl

/-- The samples that are merged into some blocks: the leaves of their rows, and those that replace
others. -/
theorem sum_written (hostname : String) (samples : List Offered) :
    ((blocks samples).map written).sum =
      ((rows hostname samples).map fun row => row.values.leafCount).sum +
        ((blocks samples).map overwritten).sum := by
  rw [rows, sum_leafCount_rows]
  exact List.sum_map_add

end Offered

namespace Batcher

open Offered

variable {σ : Type}

/-! ### One counter for each sample -/

theorem mergeSample_answered (batcher : Batcher σ) (path : List String) (value : Measure)
    (offer : Offer) :
    (batcher.mergeSample path value offer).2.stats.answered = batcher.stats.answered + 1 := by
  unfold mergeSample
  rcases batcher.record.merge path value with ⟨record, outcome⟩
  cases outcome <;> simp only [count, BatchStats.answered] <;> omega

theorem mergeSample_merged (batcher : Batcher σ) (path : List String) (value : Measure)
    (offer : Offer) :
    (batcher.mergeSample path value offer).2.stats.merged = batcher.stats.merged +
      if (batcher.record.merge path value).2.isWritten then 1 else 0 := by
  unfold mergeSample
  rcases batcher.record.merge path value with ⟨record, outcome⟩
  cases outcome <;> rfl

section Step

variable [Sink σ]

/-- Closing a batch counts rows and syncs, and no sample. -/
theorem Closing.samples {batcher : Batcher σ} {stream : StreamKey} {timestamp : Int}
    {result : Bool × Batcher σ} (closing : Closing batcher stream timestamp result) :
    result.2.stats.answered = batcher.stats.answered ∧
      result.2.stats.merged = batcher.stats.merged := by
  cases closing <;> exact ⟨rfl, rfl⟩

/-- **A sample is counted once,** whatever becomes of it, unless the batcher was stopped. -/
theorem Taking.answered {batcher : Batcher σ} {sample : Offered} {result : Offer × Batcher σ}
    (taking : Taking batcher sample result) (running : batcher.phase ≠ .stopped) :
    result.2.stats.answered = batcher.stats.answered + 1 := by
  cases taking with
  | stopped phase => exact absurd phase running
  | waiting | refused => rfl
  | foreign => exact Nat.add_right_comm _ 1 _
  | adopted | joined => exact mergeSample_answered _ _ _ _
  | rolled before emitted closed phase own different closing =>
    rw [mergeSample_answered]
    exact congrArg (· + 1) closing.samples.1

theorem Stopping.samples {batcher after : Batcher σ} (stopping : Stopping batcher after) :
    after.stats.answered = batcher.stats.answered ∧
      after.stats.merged = batcher.stats.merged := by
  cases stopping <;> exact ⟨rfl, rfl⟩

end Step

/-! ### Merged samples and leaves -/

/-- The samples that were merged are as many as are written into the blocks of the samples that were
taken. -/
def Tallied (batcher : Batcher σ) (samples : List Offered) : Prop :=
  batcher.stats.merged = ((blocks samples).map written).sum

/-- One more sample of the last block. -/
theorem Tallied.merge {batcher : Batcher σ} {samples opened : List Offered}
    {closed : List (List Offered)} {sample : Offered}
    (tallied : batcher.stats.merged = ((closed ++ [opened]).map written).sum)
    (record : batcher.record = gather opened)
    (cut : blocks (samples ++ [sample]) = closed ++ [opened ++ [sample]]) (offer : Offer) :
    Tallied (batcher.mergeSample sample.route.path sample.value offer).2 (samples ++ [sample]) := by
  unfold Tallied
  rw [mergeSample_merged, tallied, record, cut, List.map_append, List.map_append, List.sum_append,
    List.sum_append, List.map_singleton, List.map_singleton, List.sum_singleton,
    List.sum_singleton, written_concat, Nat.add_assoc]

variable [Sink σ]

/-- Taking a sample keeps the tally. -/
theorem Taking.tallied {batcher : Batcher (Logged σ)} (consistent : batcher.Consistent)
    {sample : Offered} {result : Offer × Batcher (Logged σ)}
    (taking : Taking batcher sample result) {samples : List Offered}
    (gathers : Gathers batcher samples) (tallied : Tallied batcher samples) :
    Tallied result.2 (samples ++ if result.1.isTaken then [sample] else []) := by
  unfold Gathers at gathers
  cases taking with
  | stopped | waiting | refused | foreign =>
    simp only [Offer.isTaken, Bool.false_eq_true, if_false, List.append_nil]
    exact tallied
  | adopted sink phase ready call =>
    rw [if_pos (mergeSample_isTaken _ _ _ rfl)]
    unfold Consistent at consistent
    rw [phase] at gathers consistent
    rw [gathers.1] at tallied ⊢
    have cut : blocks ([] ++ [sample]) = [] ++ [[] ++ [sample]] := rfl
    refine .merge ?_ ?_ cut .merged
    · exact tallied
    · exact consistent.2
  | joined phase own =>
    rw [if_pos (mergeSample_isTaken _ _ _ rfl)]
    rw [phase] at gathers
    obtain ⟨closed, opened, collects⟩ := gathers
    unfold Tallied at tallied
    rw [collects.cut] at tallied
    exact .merge tallied collects.record (blocks_concat_same collects.cut collects.second) .merged
  | rolled before emitted after phase own different closing =>
    rw [if_pos (mergeSample_isTaken _ _ _ rfl)]
    rw [phase] at gathers
    obtain ⟨closed, opened, collects⟩ := gathers
    obtain ⟨sink, stats, frame⟩ := closing.frame
    have merged := closing.samples.2
    simp only at frame merged
    subst frame
    have cut : blocks (samples ++ [sample]) = closed ++ [opened] ++ [[] ++ [sample]] :=
      blocks_concat_other collects.cut fun other member => by
        rw [collects.second other member]
        exact different
    refine .merge ?_ ?_ cut _
    · rw [← collects.cut, List.map_append, List.sum_append]
      exact merged.trans tallied
    · rfl

theorem next_tallied {batcher : Batcher (Logged σ)} (consistent : batcher.Consistent)
    {samples : List Offered} (gathers : Gathers batcher samples) (tallied : Tallied batcher samples)
    (event : Event) : Tallied (batcher.next event) (samples ++ batcher.accepted event) := by
  cases event with
  | cycle =>
    show Tallied batcher.beginCycle (samples ++ [])
    rw [List.append_nil]
    exact tallied
  | offer sample => exact (take_cases consistent sample).tallied consistent gathers tallied
  | stop =>
    show Tallied batcher.stop (samples ++ [])
    rw [List.append_nil]
    exact (stop_cases consistent).samples.2.trans tallied

/-- **In every run the merged samples are those written into the blocks.** -/
theorem run_tallied (sink : σ) (hostname : String) (syncEvery : Nat) (events : List Event) :
    Tallied ((logged sink hostname syncEvery).run events)
      ((logged sink hostname syncEvery).taken events) := by
  induction events using List.reverseRecOn with
  | nil => rfl
  | append_singleton events event ih =>
    rw [run_concat, taken_concat]
    exact next_tallied (logged_consistent sink hostname syncEvery events)
      (run_gathers sink hostname syncEvery events) ih event

/-! ### The rows that were handed over, and the open one -/

/-- The row that the open batch would give now. -/
def openRow (batcher : Batcher σ) : Option Row :=
  match batcher.openTimestamp, batcher.stream with
  | some timestamp, some stream => Row.ofRecord? timestamp batcher.record stream.host
  | _, _ => none

omit [Sink σ] in
/-- The leaves of the open row are those of the open record. -/
theorem leafCount_openRow {batcher : Batcher σ} (consistent : batcher.Consistent) :
    (batcher.openRow.toList.map fun row => row.values.leafCount).sum =
      batcher.record.leafCount := by
  unfold Consistent at consistent
  unfold openRow openTimestamp
  cases phase : batcher.phase with
  | idle | stopped =>
    rw [phase] at consistent
    rw [consistent.2]
    rfl
  | collecting timestamp =>
    rw [phase] at consistent
    obtain ⟨application, executor, known⟩ := consistent
    rw [known]
    by_cases void : batcher.record = .nil
    · rw [void]
      rfl
    · simp only [Row.ofRecord?_of_full void, Option.toList_some, List.map_singleton,
        List.sum_singleton]

omit [Sink σ] in
/-- **The rows of the samples are those that were handed over and that of the open batch.** -/
theorem Gathers.rows_split {batcher : Batcher (Logged σ)} (consistent : batcher.Consistent)
    {samples : List Offered} (gathers : Gathers batcher samples) :
    ∃ handed, Delivered batcher handed ∧
      rows batcher.hostname samples = handed ++ batcher.openRow.toList := by
  unfold Gathers at gathers
  unfold Consistent at consistent
  unfold openRow openTimestamp
  cases phase : batcher.phase with
  | idle =>
    rw [phase] at gathers
    rw [gathers.1]
    exact ⟨[], gathers.2, rfl⟩
  | collecting timestamp =>
    rw [phase] at gathers consistent
    obtain ⟨closed, opened, collects⟩ := gathers
    obtain ⟨application, executor, known⟩ := consistent
    refine ⟨_, collects.delivered, ?_⟩
    rw [rows, collects.cut, collects.rows_eq known, known]
  | stopped =>
    rw [phase] at gathers
    exact ⟨_, gathers.2, (List.append_nil _).symm⟩

end Batcher

end MetricRelay

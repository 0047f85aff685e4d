/-
**Answers tell the truth.**

An offer changes the phase, the stream and the batch before it is known whether its value fits. The
answer says what became of all of them:

* a sample that is merged, or that closes a batch, stands in the open batch of its second
  (`Batcher.Taking.stands`). Its value always fits after a roll, since the record is empty then;
* a roll is answered exactly if a batch of another second was open for the stream
  (`Batcher.Taking.rolled_iff`);
* a drop leaves the record and the rows alone (`Batcher.Taking.dropped`);
* `Batcher.Handing`: the calls that close a batch, by its row. A sample that closes no batch makes no
  call, but for the one that asks the sink to open (`Batcher.Taking.asks`).

Main statement: `Batcher.answers_are_true`.
-/

import MetricRelay.Proofs.Batch.Order

namespace MetricRelay

/-! ### A value that was set -/

namespace Record

variable {α : Type}

/-- A value that was written stands at its path. -/
theorem find_merge {record : Record α} (ordered : Ordered record) {path : List String} {value : α}
    (written : (record.merge path value).2.isWritten = true) :
    (record.merge path value).1.find path = .leaf value := by
  rw [find_eq_leaf_iff (merge_ordered ordered path value), mem_leaves_merge_iff ordered written,
    if_pos rfl]

/-- A value fits into an empty record, unless its path is empty. -/
theorem isWritten_merge_nil {path : List String} (nonempty : path ≠ []) (value : α) :
    ((nil : Record α).merge path value).2.isWritten = true := by
  cases path with
  | nil => exact absurd rfl nonempty
  | cons key path => rfl

theorem leaves_merge_nil (path : List String) (value : α) :
    ((nil : Record α).merge path value).1.leaves = if path = [] then [] else [(path, value)] := by
  cases path with
  | nil => rfl
  | cons key path =>
    rw [if_neg (List.cons_ne_nil key path)]
    exact leaves_graft key path value nil

end Record

namespace Batcher

variable {σ : Type}

theorem openTimestamp_of_idle {batcher : Batcher σ} (phase : batcher.phase = .idle) :
    batcher.openTimestamp = none := by
  unfold openTimestamp
  rw [phase]

/-- A sample that closes no batch is dropped exactly if its value is not written. -/
theorem kept_iff_isWritten {batcher : Batcher σ} {path : List String} {value : Measure} :
    (∀ reason, (batcher.mergeSample path value .merged).1 ≠ .dropped reason) ↔
      (batcher.record.merge path value).2.isWritten = true := by
  rw [mergeSample_eq]
  cases (batcher.record.merge path value).2 with
  | inserted | replaced => exact iff_of_true nofun rfl
  | conflict | emptyPath => exact iff_of_false (fun kept => kept _ rfl) nofun

/-- A sample that is merged and dropped leaves the record as it is. -/
theorem unwritten_of_mergeSample {batcher : Batcher σ} {path : List String} {value : Measure}
    {reason : DropReason} (dropped : (batcher.mergeSample path value .merged).1 = .dropped reason) :
    (batcher.mergeSample path value .merged).2.record = batcher.record ∧
      Offer.ofOutcome (batcher.record.merge path value).2 = .dropped reason := by
  rw [mergeSample_eq] at dropped ⊢
  refine ⟨Record.merge_of_unwritten ?_, dropped⟩
  cases outcome : (batcher.record.merge path value).2 with
  | inserted | replaced => exact nomatch (congrArg Offer.ofOutcome outcome).symm.trans dropped
  | conflict | emptyPath => rfl

/-- A sample that closes a batch is answered by that, whether it fits or not. -/
theorem answer_of_rolled (batcher : Batcher σ) (path : List String) (value : Measure)
    (emitted : Bool) : (batcher.mergeSample path value (.rolled emitted)).1 = .rolled emitted := by
  rcases mergeSample_answer batcher path value (.rolled emitted) with same | ⟨joins, _⟩
  · exact same
  · cases joins

/-- A sample that closes no batch is not answered by a roll. -/
theorem answer_of_merged (batcher : Batcher σ) (path : List String) (value : Measure)
    (emitted : Bool) : (batcher.mergeSample path value .merged).1 ≠ .rolled emitted := by
  rcases mergeSample_answer batcher path value .merged with same | ⟨_, same | same⟩ <;>
    rw [same] <;> simp

variable [Sink σ]

/-! ### The state after an answer -/

section State

variable {batcher : Batcher σ} {sample : Offered} {result : Offer × Batcher σ}

/-- **A sample that is merged or closes a batch stands in the open batch of its second.** -/
theorem Taking.stands (orderly : batcher.Orderly) (taking : Taking batcher sample result)
    (kept : ∀ reason, result.1 ≠ .dropped reason) :
    result.2.openTimestamp = some sample.timestamp ∧
      result.2.stream = some (sample.stream batcher.hostname) ∧
      (sample.route.path ≠ [] →
        result.2.record.find sample.route.path = .leaf sample.value) := by
  simp only [openTimestamp_eq_some_iff]
  cases taking with
  | stopped | waiting | refused | foreign => exact absurd rfl (kept _)
  | adopted sink phase ready call =>
    refine ⟨mergeSample_phase _ _ _ _, mergeSample_stream _ _ _ _, fun _ => ?_⟩
    rw [mergeSample_record]
    have written := kept_iff_isWritten.mp kept
    exact Record.find_merge orderly.ordered written
  | joined phase own =>
    refine ⟨(mergeSample_phase _ _ _ _).trans phase, (mergeSample_stream _ _ _ _).trans own,
      fun _ => ?_⟩
    rw [mergeSample_record]
    exact Record.find_merge orderly.ordered (kept_iff_isWritten.mp kept)
  | rolled before emitted closed phase own different closing =>
    obtain ⟨sink, stats, frame⟩ := closing.frame
    simp only at frame
    subst frame
    refine ⟨mergeSample_phase _ _ _ _, (mergeSample_stream _ _ _ _).trans own,
      fun nonempty => ?_⟩
    rw [mergeSample_record]
    have ordered : Record.Ordered (.nil : Record Measure) := trivial
    exact Record.find_merge ordered (Record.isWritten_merge_nil nonempty sample.value)

/-- **A roll is answered exactly if a batch of another second was open for the stream.** -/
theorem Taking.rolled_iff (taking : Taking batcher sample result) :
    (∃ emitted, result.1 = .rolled emitted) ↔
      batcher.stream = some (sample.stream batcher.hostname) ∧
        ∃ before, batcher.openTimestamp = some before ∧ before ≠ sample.timestamp := by
  simp only [openTimestamp_eq_some_iff]
  cases taking with
  | stopped phase | waiting phase | refused _ _ phase => simp [phase]
  | adopted sink phase => simp [phase, answer_of_merged]
  | foreign stream before phase known other => simp [known, other]
  | joined phase => simp [phase, answer_of_merged]
  | rolled before emitted closed phase own different =>
    exact iff_of_true ⟨emitted, answer_of_rolled _ _ _ _⟩ ⟨own, before, phase, different⟩

/-- After a roll the record holds the sample, and nothing else. -/
theorem Taking.alone {emitted : Bool} (taking : Taking batcher sample result)
    (rolls : result.1 = .rolled emitted) :
    result.2.record.leaves =
      if sample.route.path = [] then [] else [(sample.route.path, sample.value)] := by
  cases taking with
  | stopped | waiting | refused | foreign => cases rolls
  | adopted | joined => exact absurd rolls (answer_of_merged _ _ _ _)
  | rolled before closes closed phase own different closing =>
    obtain ⟨sink, stats, frame⟩ := closing.frame
    simp only at frame
    subst frame
    rw [mergeSample_record]
    exact Record.leaves_merge_nil _ _

/-- **A drop leaves the record and the counters of rows and syncs alone.** It also leaves the phase
and the stream, unless the sample opened the sink and has an empty path. -/
theorem Taking.dropped {reason : DropReason} (consistent : batcher.Consistent)
    (taking : Taking batcher sample result) (drops : result.1 = .dropped reason) :
    result.2.record = batcher.record ∧
      result.2.stats.rowsEmitted = batcher.stats.rowsEmitted ∧
      result.2.stats.syncs = batcher.stats.syncs ∧
      (batcher.phase = .idle ∧ reason = .emptyPath ∨
        result.2.phase = batcher.phase ∧ result.2.stream = batcher.stream ∧
          (batcher.phase = .idle → reason = .sinkUnavailable)) := by
  have merged (merging : Batcher σ) (path : List String) (value : Measure) :
      (merging.mergeSample path value .merged).2.stats.rowsEmitted = merging.stats.rowsEmitted ∧
        (merging.mergeSample path value .merged).2.stats.syncs = merging.stats.syncs := by
    obtain ⟨stats, after, rows, _, syncs, _⟩ := mergeSample_frame merging path value .merged
    rw [after]
    exact ⟨rows, syncs⟩
  cases taking with
  | stopped phase => exact ⟨rfl, rfl, rfl, .inr ⟨rfl, rfl, fun idle => by simp [phase] at idle⟩⟩
  | waiting phase | refused _ _ phase =>
    cases drops
    exact ⟨rfl, rfl, rfl, .inr ⟨rfl, rfl, fun _ => rfl⟩⟩
  | foreign stream before phase =>
    exact ⟨rfl, rfl, rfl, .inr ⟨rfl, rfl, fun idle => by simp [phase] at idle⟩⟩
  | adopted sink phase ready call =>
    obtain ⟨rows, syncs⟩ := merged { batcher with
      sink
      stream := some (sample.stream batcher.hostname)
      phase := .collecting sample.timestamp } sample.route.path sample.value
    obtain ⟨record, outcome⟩ := unwritten_of_mergeSample drops
    refine ⟨record, rows, syncs, .inl ⟨phase, ?_⟩⟩
    -- An idle batcher has an empty record, which is in nobody's way.
    unfold Consistent at consistent
    rw [phase] at consistent
    simp only [consistent.2] at outcome
    cases path : sample.route.path with
    | nil =>
      rw [path] at outcome
      cases outcome
      rfl
    | cons key path =>
      rw [path] at outcome
      cases outcome
  | joined phase own =>
    obtain ⟨rows, syncs⟩ := merged batcher sample.route.path sample.value
    refine ⟨(unwritten_of_mergeSample drops).1, rows, syncs, .inr ⟨mergeSample_phase _ _ _ _,
      mergeSample_stream _ _ _ _, fun idle => by simp [phase] at idle⟩⟩
  | rolled before closes closed phase own different closing =>
    rw [answer_of_rolled] at drops
    cases drops

end State

/-! ### The calls behind an answer -/

/-- The calls that close a batch with a row or none, and whether the sink took the row. -/
inductive Handing (row? : Option Row) : Bool → Trace → Prop where
  | void (rowless : row? = none) : Handing row? false []
  | handed (row : Row) (known : row? = some row) (taken : Bool) :
      Handing row? taken [(.emitted row.line, taken)]
  /-- The row is made durable, or fails to be. -/
  | settled (row : Row) (known : row? = some row) (succeeded : Bool) :
      Handing row? true [(.emitted row.line, true), (.synced, succeeded)]

/-- The sink took the row exactly if the answer says so. -/
theorem Handing.taken_iff {row? : Option Row} {taken : Bool} {calls : Trace}
    (handing : Handing row? taken calls) :
    taken = true ↔ ∃ row, row? = some row ∧ (.emitted row.line, true) ∈ calls := by
  cases handing with
  | void rowless => simp [rowless]
  | handed row known => simp [known]
  | settled row known => simp [known]

variable {batcher : Batcher (Logged σ)} {sample : Offered}
  {result : Offer × Batcher (Logged σ)}

omit [Sink σ] in
theorem openRow_of_collecting {timestamp : Int} {stream : StreamKey}
    (phase : batcher.phase = .collecting timestamp) (known : batcher.stream = some stream) :
    batcher.openRow = Row.ofRecord? timestamp batcher.record stream.host := by
  unfold openRow
  rw [openTimestamp_eq_some_iff.mpr phase, known]

/-- Closing a batch hands over its row, if it has one. -/
theorem Closing.handing {timestamp : Int} {stream : StreamKey}
    {closed : Bool × Batcher (Logged σ)} (phase : batcher.phase = .collecting timestamp)
    (known : batcher.stream = some stream) (closing : Closing batcher stream timestamp closed) :
    ∃ calls, closed.2.sink.trace = batcher.sink.trace ++ calls ∧
      Handing batcher.openRow closed.1 calls := by
  let row : Row := ⟨timestamp, batcher.record, stream.host⟩
  have due (full : batcher.record ≠ .nil) : batcher.openRow = some row := by
    rw [openRow_of_collecting phase known, Row.ofRecord?_of_full full]
  cases closing with
  | empty void =>
    refine ⟨[], (List.append_nil _).symm, .void ?_⟩
    rw [openRow_of_collecting phase known, void]
    rfl
  | lost failure sink full emit =>
    exact ⟨_, Logged.trace_of_perform (.emitted row.line) emit, .handed row (due full) false⟩
  | delivered sink full emit early =>
    exact ⟨_, Logged.trace_of_perform (.emitted row.line) emit, .handed row (due full) true⟩
  | settled sink after full emit late sync =>
    refine ⟨_, ?_, .settled row (due full) true⟩
    rw [Logged.trace_of_perform .synced sync, Logged.trace_of_perform (.emitted row.line) emit,
      List.append_assoc]
    rfl
  | unsettled sink after failure full emit late sync =>
    refine ⟨_, ?_, .settled row (due full) false⟩
    rw [Logged.trace_of_perform .synced sync, Logged.trace_of_perform (.emitted row.line) emit,
      List.append_assoc]
    rfl

/-- The calls behind an answer. -/
inductive Asking (batcher : Batcher (Logged σ)) (sample : Offered) : Offer → Trace → Prop where
  | none (answer : Offer) (stays : ∀ emitted, answer ≠ .rolled emitted) :
      Asking batcher sample answer []
  /-- The sink is asked to open. -/
  | opening (answer : Offer) (stays : ∀ emitted, answer ≠ .rolled emitted)
      (phase : batcher.phase = .idle) (ready : batcher.openFailed = false) (succeeded : Bool) :
      Asking batcher sample answer [(.opened (sample.stream batcher.hostname), succeeded)]
  /-- The row of the open batch is handed over. -/
  | closing (emitted : Bool) {calls : Trace} (handing : Handing batcher.openRow emitted calls) :
      Asking batcher sample (.rolled emitted) calls

/-- **What an offer asks of the sink.** -/
theorem Taking.asks (taking : Taking batcher sample result) :
    ∃ calls, result.2.sink.trace = batcher.sink.trace ++ calls ∧
      Asking batcher sample result.1 calls := by
  cases taking with
  | stopped | waiting | foreign =>
    exact ⟨[], (List.append_nil _).symm, .none _ fun emitted => by simp⟩
  | refused failure sink phase ready call =>
    exact ⟨_, Logged.trace_of_perform (.opened _) call,
      .opening _ (fun emitted => by simp) phase ready false⟩
  | adopted sink phase ready call =>
    refine ⟨_, ?_, .opening _ (answer_of_merged _ _ _) phase ready true⟩
    rw [mergeSample_sink]
    exact Logged.trace_of_perform (.opened _) call
  | joined phase own =>
    refine ⟨[], ?_, .none _ (answer_of_merged _ _ _)⟩
    rw [mergeSample_sink, List.append_nil]
  | rolled before emitted closed phase own different closing =>
    obtain ⟨calls, traced, handing⟩ := closing.handing phase own
    rw [answer_of_rolled]
    refine ⟨calls, ?_, .closing emitted handing⟩
    rw [mergeSample_sink]
    exact traced

namespace Asking

omit [Sink σ]

variable {answer : Offer} {calls : Trace}

theorem handing (asking : Asking batcher sample answer calls) {emitted : Bool}
    (rolls : answer = .rolled emitted) : Handing batcher.openRow emitted calls := by
  cases asking with
  | none _ stays | opening _ stays => exact absurd rolls (stays emitted)
  | closing _ handing =>
    cases rolls
    exact handing

/-- A sample that closes no batch makes no call, unless the batcher is idle. -/
theorem calls_eq_nil (asking : Asking batcher sample answer calls)
    (stays : ∀ emitted, answer ≠ .rolled emitted) (begun : batcher.phase ≠ .idle) : calls = [] := by
  cases asking with
  | none => rfl
  | opening _ _ phase => exact absurd phase begun
  | closing emitted => exact absurd rfl (stays emitted)

/-- A sample that closes no batch hands over no line. -/
theorem handed_eq (asking : Asking batcher sample answer calls)
    (stays : ∀ emitted, answer ≠ .rolled emitted) {after : Batcher (Logged σ)}
    (traced : after.sink.trace = batcher.sink.trace ++ calls) :
    after.sink.handed = batcher.sink.handed := by
  unfold Logged.handed
  rw [traced, List.filterMap_append]
  cases asking with
  | none | opening => exact List.append_nil _
  | closing emitted => exact absurd rfl (stays emitted)

end Asking

/-! ### Main statement -/

/-- **The answer to an offer tells the truth about the state.** In every state that a run reaches,
for every sample and whatever the sink does:

* a sample that is merged or closes a batch is in the open batch: the batch is of its second and its
  stream, and its value is a leaf of the record, unless its path is empty;
* the sample is said to close a batch exactly if one of another second was open for its stream. The
  record then holds the sample and nothing else, and a row is said to be emitted exactly if the
  sink took that of the old batch in this call;
* a sample that is dropped leaves the record, the rows and the syncs as they were. The phase and the
  stream also stay, and no call is made unless the sink is unavailable. The one exception is a
  sample with an empty path that comes when no batch is open. -/
theorem answers_are_true (sink : σ) (hostname : String) (syncEvery : Nat) (events : List Event)
    (sample : Offered) :
    let batcher := (logged sink hostname syncEvery).run events
    let stream := sample.stream hostname
    let path := sample.route.path
    let answer := (batcher.take sample).1
    let after := (batcher.take sample).2
    ∃ calls : Trace, after.sink.trace = batcher.sink.trace ++ calls ∧
      ((answer = .merged ∨ ∃ emitted, answer = .rolled emitted) →
        after.openTimestamp = some sample.timestamp ∧ after.stream = some stream ∧
        (path ≠ [] → after.record.find path = .leaf sample.value)) ∧
      ((∃ emitted, answer = .rolled emitted) ↔ batcher.stream = some stream ∧
        ∃ before, batcher.openTimestamp = some before ∧ before ≠ sample.timestamp) ∧
      (∀ emitted, answer = .rolled emitted →
        after.record.leaves = (if path = [] then [] else [(path, sample.value)]) ∧
        (emitted = true ↔
          ∃ row, batcher.openRow = some row ∧ (.emitted row.line, true) ∈ calls)) ∧
      (∀ reason, answer = .dropped reason →
        after.record = batcher.record ∧ after.stats.rowsEmitted = batcher.stats.rowsEmitted ∧
        after.stats.syncs = batcher.stats.syncs ∧ after.sink.handed = batcher.sink.handed ∧
        (reason = .emptyPath ∧ batcher.openTimestamp = none ∨
          after.phase = batcher.phase ∧ after.stream = batcher.stream ∧
            (reason ≠ .sinkUnavailable → calls = []))) := by
  intro batcher stream path answer after
  have consistent : batcher.Consistent := logged_consistent sink hostname syncEvery events
  have orderly : batcher.Orderly :=
    run_orderly ({ sink } : Logged σ) hostname syncEvery events
  have named : batcher.hostname = hostname := logged_hostname sink hostname syncEvery events
  have taking : Taking batcher sample (answer, after) := take_cases consistent sample
  obtain ⟨calls, traced, asking⟩ := taking.asks
  refine ⟨calls, traced, fun kept => ?_, ?_, fun emitted rolls => ⟨taking.alone rolls, ?_⟩,
    fun reason drops => ?_⟩
  · have stands := taking.stands orderly fun reason dropped => by
      rcases kept with merged | ⟨emitted, rolls⟩
      · exact nomatch merged.symm.trans dropped
      · exact nomatch rolls.symm.trans dropped
    rwa [named] at stands
  · have rolled := taking.rolled_iff
    rwa [named] at rolled
  · exact (asking.handing rolls).taken_iff
  · have stays (emitted : Bool) : answer ≠ .rolled emitted :=
      fun rolls => nomatch drops.symm.trans rolls
    obtain ⟨record, rows, syncs, rest⟩ := taking.dropped consistent drops
    refine ⟨record, rows, syncs, asking.handed_eq stays traced, ?_⟩
    rcases rest with ⟨idle, empty⟩ | ⟨phase, kept, idle⟩
    · exact .inl ⟨empty, openTimestamp_of_idle idle⟩
    · exact .inr ⟨phase, kept, fun available =>
        asking.calls_eq_nil stays fun begun => available (idle begun)⟩

end Batcher

end MetricRelay

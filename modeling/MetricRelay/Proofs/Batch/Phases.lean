/-
**The phase of a batcher says what its other parts are.**

An idle batcher has no stream and no values, and its sink was never opened. While a batch is open
there is a stream of the host, and the record is a prefix-free tree of the values of that batch. A
stopped batcher is empty again and stays stopped. What is said of the open batch is said of its
samples:

* `Batcher.openBatch`: the samples of the open batch, each with whether it was rejected, as the
  counters tell it;
* `Batcher.Fills`: these are the last block of the samples that were taken, and the record is empty
  exactly if all of them were rejected. Every step keeps that (`Batcher.next_filled`);
* `Batcher.take_eq_accept`, `Batcher.stop_eq_finish`: a batch is reached only with a stream. So what
  `emitRow` does without one never happens;
* `Batcher.closeBatch_record`: a batch that is closed leaves an empty record, which is in the way of
  no sample. So a roll is never answered to a sample that does not fit.

Main statement: `Batcher.state_follows_phase`.
-/

import MetricRelay.Proofs.Batch.Answers
import MetricRelay.Proofs.Batch.Protocol

namespace MetricRelay

/-! ### Rejected values -/

/-- The samples that were taken and whose value was rejected. -/
def BatchStats.rejected (stats : BatchStats) : Nat :=
  stats.droppedConflicts + stats.droppedEmptyPath

namespace Record

variable {α : Type}

/-- A record is empty after a value exactly if it was before and the value was rejected. -/
theorem merge_eq_nil_iff (record : Record α) (path : List String) (value : α) :
    (record.merge path value).1 = nil ↔
      record = nil ∧ (record.merge path value).2.isWritten = false := by
  cases path with
  | nil => simp [merge, MergeOutcome.isWritten]
  | cons key path =>
    have full : (record.merge (key :: path) value).1 ≠ nil :=
      (mergeAt_cases record key path value).ne_nil
    refine iff_of_false full ?_
    rintro ⟨rfl, rejected⟩
    rw [isWritten_merge_nil (List.cons_ne_nil key path)] at rejected
    cases rejected

/-- An empty record is in the way of no value. -/
theorem merge_nil_ne_conflict (path : List String) (value : α) :
    ((nil : Record α).merge path value).2 ≠ .conflict := by
  cases path <;> simp [merge, mergeAt]

end Record

namespace Batcher

open Offered

variable {σ : Type}

theorem mergeSample_rejected (batcher : Batcher σ) (path : List String) (value : Measure)
    (offer : Offer) :
    (batcher.mergeSample path value offer).2.stats.rejected = batcher.stats.rejected +
      if (batcher.record.merge path value).2.isWritten then 0 else 1 := by
  unfold mergeSample
  rcases batcher.record.merge path value with ⟨record, outcome⟩
  cases outcome <;> simp [count, BatchStats.rejected, MergeOutcome.isWritten] <;> omega

/-- **A record is empty after a sample exactly if it was before and the sample is counted as
rejected.** -/
theorem mergeSample_record_eq_nil_iff (batcher : Batcher σ) (path : List String) (value : Measure)
    (offer : Offer) :
    (batcher.mergeSample path value offer).2.record = .nil ↔ batcher.record = .nil ∧
      batcher.stats.rejected < (batcher.mergeSample path value offer).2.stats.rejected := by
  rw [mergeSample_record, Record.merge_eq_nil_iff, mergeSample_rejected]
  refine and_congr_right fun _ => ?_
  cases (batcher.record.merge path value).2.isWritten <;> simp

/-! ### The open batch -/

/-- The samples of the open batch after one more sample, by what the sample is answered and the
batcher after it. -/
def batchWith (batcher : Batcher σ) (batch : List (Offered × Bool)) (sample : Offered)
    (result : Offer × Batcher σ) : List (Offered × Bool) :=
  let entry := (sample, decide (batcher.stats.rejected < result.2.stats.rejected))
  match result.1 with
  | .rolled _ => [entry]
  | answer => if answer.isTaken then batch ++ [entry] else batch

section Batch

variable [Sink σ]

/-- The samples of the open batch after an event. -/
def batchAfter (batcher : Batcher σ) (batch : List (Offered × Bool)) :
    Event → List (Offered × Bool)
  | .cycle => batch
  | .offer sample => batcher.batchWith batch sample (batcher.take sample)
  | .stop => []

/-- The samples of the open batch after some events, when some others are before. -/
def batchFrom (batcher : Batcher σ) (batch : List (Offered × Bool)) :
    List Event → List (Offered × Bool)
  | [] => batch
  | event :: rest => (batcher.next event).batchFrom (batcher.batchAfter batch event) rest

/-- The samples of the open batch of a run, each with whether it was rejected. -/
def openBatch (batcher : Batcher σ) (events : List Event) : List (Offered × Bool) :=
  batcher.batchFrom [] events

theorem openBatch_concat (batcher : Batcher σ) (events : List Event) (event : Event) :
    batcher.openBatch (events ++ [event]) =
      (batcher.run events).batchAfter (batcher.openBatch events) event := by
  have later (batcher : Batcher σ) (batch : List (Offered × Bool)) :
      batcher.batchFrom batch (events ++ [event]) =
        (batcher.run events).batchAfter (batcher.batchFrom batch events) event := by
    induction events generalizing batcher batch with
    | nil => rfl
    | cons first rest ih => exact ih (batcher.next first) (batcher.batchAfter batch first)
  exact later batcher []

end Batch

section Entry

variable {batcher : Batcher σ} {batch : List (Offered × Bool)} {sample : Offered}
  {result : Offer × Batcher σ}

theorem batchWith_of_untaken (untaken : result.1.isTaken = false) :
    batcher.batchWith batch sample result = batch := by
  unfold batchWith
  cases answer : result.1 with
  | rolled | merged => rw [answer] at untaken; cases untaken
  | dropped reason => rw [answer] at untaken; simp [untaken]

/-- A sample that closes no batch is one more of the open one, whether it fits or not. -/
theorem batchWith_of_merged (base : Batcher σ) (path : List String) (value : Measure) :
    let merged := base.mergeSample path value .merged
    batcher.batchWith batch sample merged =
      batch ++ [(sample, decide (batcher.stats.rejected < merged.2.stats.rejected))] := by
  intro merged
  have taken : merged.1.isTaken = true := mergeSample_isTaken base path value rfl
  unfold batchWith
  cases answer : merged.1 with
  | rolled emitted => exact absurd answer (answer_of_merged base path value emitted)
  | merged => rfl
  | dropped reason => rw [answer] at taken; simp [taken]

/-- A sample that closes a batch is the first of the next one. -/
theorem batchWith_of_rolled (base : Batcher σ) (path : List String) (value : Measure)
    (emitted : Bool) :
    let rolled := base.mergeSample path value (.rolled emitted)
    batcher.batchWith batch sample rolled =
      [(sample, decide (batcher.stats.rejected < rolled.2.stats.rejected))] := by
  intro rolled
  unfold batchWith
  rw [show rolled.1 = .rolled emitted from answer_of_rolled base path value emitted]

end Entry

/-- While a batch is open, its samples are the last block of those that were taken, and the record
is empty exactly if all of them were rejected. -/
structure Fills (batcher : Batcher σ) (samples : List Offered) (batch : List (Offered × Bool)) :
    Prop where
  cut : ∃ closed, blocks samples = closed ++ [batch.map Prod.fst]
  empty : batcher.record = .nil ↔ ∀ entry ∈ batch, entry.2 = true

/-- What the samples of the open batch are, in each phase. -/
def Filled (batcher : Batcher σ) (samples : List Offered) (batch : List (Offered × Bool)) : Prop :=
  match batcher.phase with
  | .idle | .stopped => batch = []
  | .collecting _ => batcher.Fills samples batch

/-- One more sample of the open batch, which was empty before exactly if all others were
rejected. -/
theorem Fills.merge {batcher base : Batcher σ} {samples : List Offered}
    {batch : List (Offered × Bool)} {sample : Offered} {offer : Offer}
    {closed : List (List Offered)}
    (cut : blocks samples = closed ++ [(batch ++ [(sample, true)]).map Prod.fst])
    (void : base.record = .nil ↔ ∀ entry ∈ batch, entry.2 = true)
    (rejected : base.stats.rejected = batcher.stats.rejected) :
    let after := (base.mergeSample sample.route.path sample.value offer).2
    after.Fills samples
      (batch ++ [(sample, decide (batcher.stats.rejected < after.stats.rejected))]) := by
  intro after
  refine ⟨⟨closed, by simpa using cut⟩, ?_⟩
  show (base.mergeSample sample.route.path sample.value offer).2.record = .nil ↔ _
  rw [mergeSample_record_eq_nil_iff, void, rejected, List.forall_mem_append,
    List.forall_mem_singleton, decide_eq_true_eq]

variable [Sink σ]

theorem Closing.rejected {batcher : Batcher σ} {stream : StreamKey} {timestamp : Int}
    {result : Bool × Batcher σ} (closing : Closing batcher stream timestamp result) :
    result.2.stats.rejected = batcher.stats.rejected := by
  cases closing <;> rfl

/-- **Taking a sample keeps what the samples of the open batch are.** -/
theorem Taking.filled {batcher : Batcher (Logged σ)} (consistent : batcher.Consistent)
    {sample : Offered} {result : Offer × Batcher (Logged σ)}
    (taking : Taking batcher sample result) {samples : List Offered}
    (gathers : Gathers batcher samples) {batch : List (Offered × Bool)}
    (filled : batcher.Filled samples batch) :
    result.2.Filled (samples ++ if result.1.isTaken then [sample] else [])
      (batcher.batchWith batch sample result) := by
  unfold Filled at filled
  unfold Gathers at gathers
  cases taking with
  | stopped phase =>
    rw [batchWith_of_untaken rfl]
    simp only [Offer.isTaken, Bool.false_eq_true, if_false, List.append_nil]
    exact filled
  | waiting phase failed =>
    rw [batchWith_of_untaken rfl]
    rw [phase] at filled
    simpa only [Filled, phase] using filled
  | refused failure sink phase ready call =>
    rw [batchWith_of_untaken rfl]
    rw [phase] at filled
    simpa only [Filled, phase] using filled
  | foreign stream before phase known other =>
    rw [batchWith_of_untaken rfl]
    simp only [Offer.isTaken, Bool.false_eq_true, if_false, List.append_nil]
    rw [phase] at filled
    simp only [Filled, phase]
    exact ⟨filled.cut, filled.empty⟩
  | adopted sink phase ready call =>
    rw [if_pos (mergeSample_isTaken _ _ _ rfl), batchWith_of_merged]
    unfold Consistent at consistent
    rw [phase] at filled gathers consistent
    rw [filled, gathers.1]
    simp only [Filled, mergeSample_phase]
    have cut : blocks ([] ++ [sample]) = [] ++ [([] ++ [(sample, true)]).map Prod.fst] := rfl
    exact .merge cut (iff_of_true consistent.2 (by simp)) rfl
  | joined phase own =>
    rw [if_pos (mergeSample_isTaken _ _ _ rfl), batchWith_of_merged]
    rw [phase] at filled gathers
    obtain ⟨closed, opened, collects⟩ := gathers
    obtain ⟨front, cut⟩ := filled.cut
    obtain ⟨rfl, last⟩ := List.append_inj' (collects.cut.symm.trans cut) rfl
    cases last
    simp only [Filled, mergeSample_phase, phase]
    have cut : blocks (samples ++ [sample]) =
        closed ++ [(batch ++ [(sample, true)]).map Prod.fst] := by
      rw [List.map_append]
      exact blocks_concat_same collects.cut collects.second
    exact .merge cut filled.empty rfl
  | rolled before emitted after phase own different closing =>
    rw [if_pos (mergeSample_isTaken _ _ _ rfl), batchWith_of_rolled]
    rw [phase] at gathers
    obtain ⟨closed, opened, collects⟩ := gathers
    obtain ⟨sink, stats, frame⟩ := closing.frame
    have rejected := closing.rejected
    simp only at frame rejected
    subst frame
    simp only [Filled, mergeSample_phase]
    have cut : blocks (samples ++ [sample]) =
        (closed ++ [opened]) ++ [([] ++ [(sample, true)]).map Prod.fst] :=
      blocks_concat_other collects.cut fun other member => by
        rw [collects.second other member]
        exact different
    exact .merge cut (iff_of_true rfl (by simp)) rejected

/-- **Every step keeps what the samples of the open batch are.** -/
theorem next_filled {batcher : Batcher (Logged σ)} (consistent : batcher.Consistent)
    {samples : List Offered} (gathers : Gathers batcher samples)
    {batch : List (Offered × Bool)} (filled : batcher.Filled samples batch) (event : Event) :
    (batcher.next event).Filled (samples ++ batcher.accepted event)
      (batcher.batchAfter batch event) := by
  cases event with
  | cycle =>
    show batcher.beginCycle.Filled (samples ++ []) batch
    rw [List.append_nil]
    unfold Filled at filled
    cases phase : batcher.phase with
    | idle | stopped =>
      rw [phase] at filled
      simpa only [Filled, beginCycle, phase] using filled
    | collecting timestamp =>
      rw [phase] at filled
      simp only [Filled, beginCycle, phase]
      exact ⟨filled.cut, filled.empty⟩
  | offer sample => exact (take_cases consistent sample).filled consistent gathers filled
  | stop =>
    show batcher.stop.Filled _ []
    simp only [Filled, (stop_cases consistent).phase]

/-- **The open batch of every run.** -/
theorem run_filled (sink : σ) (hostname : String) (syncEvery : Nat) (events : List Event) :
    ((logged sink hostname syncEvery).run events).Filled
      ((logged sink hostname syncEvery).taken events)
      ((logged sink hostname syncEvery).openBatch events) := by
  induction events using List.reverseRecOn with
  | nil => rfl
  | append_singleton events event ih =>
    rw [run_concat, taken_concat, openBatch_concat]
    exact next_filled (logged_consistent sink hostname syncEvery events)
      (run_gathers sink hostname syncEvery events) ih event

/-! ### What is never done -/

omit [Sink σ] in
/-- A stream is that of an open batch, and of the host. -/
theorem Consistent.of_stream {batcher : Batcher σ} (consistent : batcher.Consistent)
    {stream : StreamKey} (known : batcher.stream = some stream) :
    (∃ timestamp, batcher.phase = .collecting timestamp) ∧
      ∃ application executor, stream = StreamKey.of application executor batcher.hostname := by
  unfold Consistent at consistent
  cases phase : batcher.phase with
  | idle | stopped =>
    rw [phase] at consistent
    exact absurd (consistent.1.symm.trans known) (by simp)
  | collecting timestamp =>
    rw [phase] at consistent
    obtain ⟨application, executor, same⟩ := consistent
    exact ⟨⟨timestamp, rfl⟩, application, executor, Option.some.inj (known.symm.trans same)⟩

/-- A sink that was opened has its stream adopted. -/
theorem stream_of_openSink {batcher opened : Batcher σ} {route : Route}
    (opens : batcher.openSink route = (true, opened)) :
    opened.stream =
      some (StreamKey.of route.application route.executor batcher.hostname) := by
  unfold openSink at opens
  by_cases failed : batcher.openFailed = true
  · rw [if_pos failed] at opens
    cases opens
  · rw [if_neg failed] at opens
    rcases call : Sink.openStream
      (StreamKey.of route.application route.executor batcher.hostname) batcher.sink with
      ⟨failure | _, sink⟩
    · simp only [call] at opens
      cases opens
    · simp only [call] at opens
      cases opens
      rfl

/-- **A sample reaches a batch only with its stream.** -/
theorem take_eq_accept {batcher : Batcher σ} (consistent : batcher.Consistent) {sample : Offered}
    (taken : (batcher.take sample).1.isTaken = true) :
    ∃ ready : Batcher σ,
      batcher.take sample = ready.accept sample.route.path sample.value sample.timestamp ∧
      ready.stream = some (sample.stream batcher.hostname) := by
  unfold take offer at taken ⊢
  by_cases stopped : batcher.isStopped = true
  · rw [if_pos stopped] at taken
    cases taken
  · rw [if_neg stopped] at taken ⊢
    cases known : batcher.stream with
    | some stream =>
      simp only [known] at taken ⊢
      by_cases own : isOwn stream sample.route = true
      · obtain ⟨_, application, executor, rfl⟩ := consistent.of_stream known
        exact ⟨batcher, if_pos own, known.trans (congrArg some ((isOwn_iff _ _ _ _).mp own))⟩
      · rw [if_neg own] at taken
        cases taken
    | none =>
      simp only [known] at taken ⊢
      rcases opens : batcher.openSink sample.route with ⟨_ | _, opened⟩
      · simp only [opens] at taken
        cases taken
      · exact ⟨opened, rfl, stream_of_openSink opens⟩

/-- **A last row is handed over only with a stream.** -/
theorem stop_eq_finish {batcher : Batcher σ} (consistent : batcher.Consistent) :
    (∀ stream, batcher.stream = some stream →
      batcher.stop = { batcher with phase := .stopped }.finish batcher.openTimestamp) ∧
    (batcher.stream = none → batcher.stop = { batcher with phase := .stopped }) := by
  unfold stop
  constructor
  · intro stream known
    obtain ⟨⟨timestamp, phase⟩, _⟩ := consistent.of_stream known
    have running : ¬ batcher.isStopped = true := by rw [isStopped_iff, phase]; simp
    rw [if_neg running, known]
  · intro unadopted
    by_cases stopped : batcher.isStopped = true
    · rw [if_pos stopped, ← isStopped_iff.mp stopped]
    · rw [if_neg stopped, unadopted]

/-- **A batch that is closed leaves an empty record.** -/
theorem closeBatch_record {batcher : Batcher σ} {stream : StreamKey}
    (adopted : batcher.stream = some stream) (timestamp : Int) :
    (batcher.closeBatch timestamp).2.record = .nil := by
  obtain ⟨sink, stats, frame⟩ := (closeBatch_cases adopted timestamp).frame
  rw [frame]

omit [Sink σ] in
theorem mergeSample_droppedConflicts (batcher : Batcher σ) (path : List String) (value : Measure)
    (offer : Offer) (fits : (batcher.record.merge path value).2 ≠ .conflict) :
    (batcher.mergeSample path value offer).2.stats.droppedConflicts =
      batcher.stats.droppedConflicts := by
  unfold mergeSample
  rcases merged : batcher.record.merge path value with ⟨record, outcome⟩
  rw [merged] at fits
  cases outcome with
  | inserted | replaced | emptyPath => rfl
  | conflict => exact absurd rfl fits

/-- **A sample that closes a batch is not counted as a conflict.** -/
theorem Taking.fits_of_rolled {batcher : Batcher σ} {sample : Offered}
    {result : Offer × Batcher σ} (taking : Taking batcher sample result) {emitted : Bool}
    (rolls : result.1 = .rolled emitted) :
    result.2.stats.droppedConflicts = batcher.stats.droppedConflicts := by
  cases taking with
  | stopped | waiting | refused | foreign => cases rolls
  | adopted | joined => exact absurd rolls (answer_of_merged _ _ _ _)
  | rolled before closes closed phase own different closing =>
    have counted : closed.stats.droppedConflicts = batcher.stats.droppedConflicts := by
      cases closing <;> rfl
    obtain ⟨sink, stats, frame⟩ := closing.frame
    simp only at frame
    subst frame
    rw [mergeSample_droppedConflicts _ _ _ _ (Record.merge_nil_ne_conflict _ _)]
    exact counted

/-! ### Main statement -/

/-- **The phase says what the other parts are.** In every state that a run reaches, whatever the
sink does:

* the batcher is idle exactly if no open succeeded and it was not asked to stop. There is no stream
  and no value then;
* while a batch is open, there is a stream with the host tag of the host name and its executor, the
  record is a prefix-free tree without empty nodes, and it is empty exactly if every sample of the
  batch, the last block of those that were taken, was rejected;
* in a stopped batcher there is no stream and no value, and it stays stopped;
* a sample reaches a batch, and a stop hands over a last row, only with a stream, and no row is
  handed over otherwise. So that is never tried without a stream. What stands in a batch that was
  closed is in the way of no value, and a sample that is said to close a batch is not counted as a
  conflict;
* the failed rows are those that the sink was handed and refused. -/
theorem state_follows_phase (sink : σ) (hostname : String) (syncEvery : Nat)
    (events : List Event) :
    let start := logged sink hostname syncEvery
    let batcher := start.run events
    let batch := start.openBatch events
    (batcher.phase = .idle ↔
      (¬ ∃ stream, (.opened stream, true) ∈ batcher.sink.trace) ∧ .stop ∉ events) ∧
    (batcher.phase = .idle → batcher.stream = none ∧ batcher.record = .nil) ∧
    (∀ timestamp, batcher.phase = .collecting timestamp →
      (∃ stream, batcher.stream = some stream ∧
        stream.host.text = hostname ++ "_" ++ stream.executor.text) ∧
      batcher.record.Ordered ∧ batcher.record.Solid ∧
      (batcher.record.leaves.Pairwise fun first second => Record.Apart first.1 second.1) ∧
      (blocks (start.taken events)).getLast? = some (batch.map Prod.fst) ∧
      (batcher.record = .nil ↔ ∀ entry ∈ batch, entry.2 = true)) ∧
    (batcher.phase = .stopped → batcher.stream = none ∧ batcher.record = .nil ∧
      ∀ later, (batcher.run later).phase = .stopped) ∧
    (∀ sample, (batcher.take sample).1.isTaken = true →
      ∃ (ready : Batcher (Logged σ)) (stream : StreamKey),
      batcher.take sample = ready.accept sample.route.path sample.value sample.timestamp ∧
      ready.stream = some stream ∧ ∀ before path value,
        ((ready.closeBatch before).2.record.merge path value).2 ≠ .conflict) ∧
    (∀ sample, (batcher.take sample).1.isTaken = false →
      (batcher.take sample).2.sink.handed = batcher.sink.handed) ∧
    (∀ sample emitted, (batcher.take sample).1 = .rolled emitted →
      (batcher.take sample).2.stats.droppedConflicts = batcher.stats.droppedConflicts) ∧
    (∀ stream, batcher.stream = some stream →
      batcher.stop = { batcher with phase := .stopped }.finish batcher.openTimestamp) ∧
    (batcher.stream = none → batcher.stop = { batcher with phase := .stopped }) ∧
    batcher.stats.sampleFailures = batcher.sink.handed.countP (fun handed => !handed.2) := by
  intro start batcher batch
  have consistent : batcher.Consistent := logged_consistent sink hostname syncEvery events
  have orderly : batcher.Orderly :=
    run_orderly ({ sink } : Logged σ) hostname syncEvery events
  have reached : Protocol.Reached batcher.phase batcher.sink.trace :=
    run_reached sink hostname syncEvery events
  have stopped : batcher.phase = .stopped ↔ .stop ∈ events :=
    logged_stopped_iff sink hostname syncEvery events
  have named : batcher.hostname = hostname := logged_hostname sink hostname syncEvery events
  have filled : batcher.Filled (start.taken events) batch :=
    run_filled sink hostname syncEvery events
  obtain ⟨rows, delivered, _⟩ :=
    (run_gathers sink hostname syncEvery events).rows_split consistent
  have states := consistent
  unfold Consistent at states
  unfold Filled at filled
  obtain ⟨finishes, leaves⟩ := stop_eq_finish consistent
  refine ⟨?_, fun phase => ?_, fun timestamp phase => ?_, fun phase => ?_, fun sample taken => ?_,
    fun sample untaken => ?_, fun sample emitted => (take_cases consistent sample).fits_of_rolled,
    finishes, leaves, delivered.refused⟩
  · rw [reached.idle_iff, Ne, stopped]
  · rw [phase] at states
    exact states
  · rw [phase] at states filled
    obtain ⟨application, executor, known⟩ := states
    obtain ⟨closed, cut⟩ := filled.cut
    refine ⟨⟨_, known, ?_⟩, orderly.ordered, orderly.solid, Record.leaves_apart orderly.ordered,
      ?_, filled.empty⟩
    · rw [named]
      rfl
    · rw [cut]
      exact List.getLast?_concat
  · rw [phase] at states
    exact ⟨states.1, states.2, fun later => (consistent.run_stopped_iff later).mpr (.inl phase)⟩
  · obtain ⟨ready, accepts, own⟩ := take_eq_accept consistent taken
    refine ⟨ready, _, accepts, own, fun before path value => ?_⟩
    rw [closeBatch_record own]
    exact Record.merge_nil_ne_conflict path value
  · obtain ⟨calls, traced, asking⟩ := (take_cases consistent sample).asks
    refine asking.handed_eq (fun emitted rolls => ?_) traced
    rw [rolls] at untaken
    cases untaken

end Batcher

end MetricRelay

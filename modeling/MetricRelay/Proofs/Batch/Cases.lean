/-
**All that a batcher can do.**

In every state that a run reaches, the phase of a batcher says what its stream and its record are
(`Batcher.Consistent`, `Batcher.run_consistent`). For such a state three relations list what can
happen, with the sink calls that are made, their results, and the batcher afterwards:

* `Batcher.Closing`: a batch is closed (`closeBatch_cases`);
* `Batcher.Taking`: a sample is offered (`take_cases`);
* `Batcher.Stopping`: the batcher is stopped (`stop_cases`).

What later modules say about single steps they say by cases over these relations.
-/

import MetricRelay.Proofs.Batch.Run

namespace MetricRelay

/-- The stream that a sample belongs to, on a host. -/
def Offered.stream (sample : Offered) (hostname : String) : StreamKey :=
  StreamKey.of sample.route.application sample.route.executor hostname

namespace Batcher

variable {σ : Type}

/-! ### Merging -/

section Merge

variable (batcher : Batcher σ) (path : List String) (value : Measure) (offer : Offer)

/-- Merging a sample touches the record and three counters. -/
theorem mergeSample_frame :
    ∃ stats : BatchStats,
      (batcher.mergeSample path value offer).2 =
        { batcher with record := (batcher.record.merge path value).1, stats } ∧
      stats.rowsEmitted = batcher.stats.rowsEmitted ∧
      stats.sampleFailures = batcher.stats.sampleFailures ∧
      stats.syncs = batcher.stats.syncs ∧
      stats.syncFailures = batcher.stats.syncFailures := by
  unfold mergeSample
  rcases batcher.record.merge path value with ⟨record, outcome⟩
  cases outcome <;> exact ⟨_, rfl, rfl, rfl, rfl, rfl⟩

@[simp] theorem mergeSample_sink :
    (batcher.mergeSample path value offer).2.sink = batcher.sink := by
  obtain ⟨stats, after, _⟩ := mergeSample_frame batcher path value offer
  rw [after]

@[simp] theorem mergeSample_stream :
    (batcher.mergeSample path value offer).2.stream = batcher.stream := by
  obtain ⟨stats, after, _⟩ := mergeSample_frame batcher path value offer
  rw [after]

@[simp] theorem mergeSample_phase :
    (batcher.mergeSample path value offer).2.phase = batcher.phase := by
  obtain ⟨stats, after, _⟩ := mergeSample_frame batcher path value offer
  rw [after]

@[simp] theorem mergeSample_hostname :
    (batcher.mergeSample path value offer).2.hostname = batcher.hostname := by
  obtain ⟨stats, after, _⟩ := mergeSample_frame batcher path value offer
  rw [after]

@[simp] theorem mergeSample_syncEvery :
    (batcher.mergeSample path value offer).2.syncEvery = batcher.syncEvery := by
  obtain ⟨stats, after, _⟩ := mergeSample_frame batcher path value offer
  rw [after]

@[simp] theorem mergeSample_record :
    (batcher.mergeSample path value offer).2.record = (batcher.record.merge path value).1 := by
  obtain ⟨stats, after, _⟩ := mergeSample_frame batcher path value offer
  rw [after]

@[simp] theorem mergeSample_rowsEmitted :
    (batcher.mergeSample path value offer).2.stats.rowsEmitted = batcher.stats.rowsEmitted := by
  obtain ⟨stats, after, same, _⟩ := mergeSample_frame batcher path value offer
  rw [after, same]

@[simp] theorem mergeSample_sampleFailures :
    (batcher.mergeSample path value offer).2.stats.sampleFailures =
      batcher.stats.sampleFailures := by
  obtain ⟨stats, after, _, same, _⟩ := mergeSample_frame batcher path value offer
  rw [after, same]

@[simp] theorem mergeSample_sinkOpenFailures :
    (batcher.mergeSample path value offer).2.stats.sinkOpenFailures =
      batcher.stats.sinkOpenFailures := by
  unfold mergeSample
  rcases batcher.record.merge path value with ⟨record, outcome⟩
  cases outcome <;> rfl

/-- A sample that is merged gets its own answer, or is told that it did not fit. -/
theorem mergeSample_answer :
    (batcher.mergeSample path value offer).1 = offer ∨
      offer = .merged ∧ ((batcher.mergeSample path value offer).1 = .dropped .conflict ∨
        (batcher.mergeSample path value offer).1 = .dropped .emptyPath) := by
  unfold mergeSample
  rcases batcher.record.merge path value with ⟨record, outcome⟩
  cases outcome <;> cases offer <;> simp

end Merge

variable [Sink σ]

/-! ### Closing a batch -/

/-- What can happen when the batch of a second is closed. -/
inductive Closing (batcher : Batcher σ) (stream : StreamKey) (timestamp : Int) :
    Bool × Batcher σ → Prop where
  /-- The batch is empty. -/
  | empty (void : batcher.record = .nil) : Closing batcher stream timestamp (false, batcher)
  /-- The sink refuses the row. -/
  | lost (failure : Failure) (sink : σ) (full : batcher.record ≠ .nil)
      (emit : Sink.emit (Row.line ⟨timestamp, batcher.record, stream.host⟩) batcher.sink =
        (.error failure, sink)) :
      Closing batcher stream timestamp (false, { batcher with
        sink, record := .nil
        stats := { batcher.stats with sampleFailures := batcher.stats.sampleFailures + 1 } })
  /-- The sink takes the row, and the cadence asks for nothing. -/
  | delivered (sink : σ) (full : batcher.record ≠ .nil)
      (emit : Sink.emit (Row.line ⟨timestamp, batcher.record, stream.host⟩) batcher.sink =
        (.ok (), sink))
      (early : (batcher.stats.rowsEmitted + 1) % batcher.syncEvery ≠ 0) :
      Closing batcher stream timestamp (true, { batcher with
        sink, record := .nil
        stats := { batcher.stats with rowsEmitted := batcher.stats.rowsEmitted + 1 } })
  /-- The sink takes the row and makes it durable. -/
  | settled (sink after : σ) (full : batcher.record ≠ .nil)
      (emit : Sink.emit (Row.line ⟨timestamp, batcher.record, stream.host⟩) batcher.sink =
        (.ok (), sink))
      (due : (batcher.stats.rowsEmitted + 1) % batcher.syncEvery = 0)
      (sync : Sink.sync sink = (.ok (), after)) :
      Closing batcher stream timestamp (true, { batcher with
        sink := after, record := .nil
        stats := { batcher.stats with
          rowsEmitted := batcher.stats.rowsEmitted + 1, syncs := batcher.stats.syncs + 1 } })
  /-- The sink takes the row and fails to make it durable. -/
  | unsettled (sink after : σ) (failure : Failure) (full : batcher.record ≠ .nil)
      (emit : Sink.emit (Row.line ⟨timestamp, batcher.record, stream.host⟩) batcher.sink =
        (.ok (), sink))
      (due : (batcher.stats.rowsEmitted + 1) % batcher.syncEvery = 0)
      (sync : Sink.sync sink = (.error failure, after)) :
      Closing batcher stream timestamp (true, { batcher with
        sink := after, record := .nil
        stats := { batcher.stats with
          rowsEmitted := batcher.stats.rowsEmitted + 1
          syncFailures := batcher.stats.syncFailures + 1 } })

/-- A row that is handed to the sink of an adopted stream. -/
theorem emitRow_of_stream (batcher : Batcher σ) {stream : StreamKey}
    (adopted : batcher.stream = some stream) (timestamp : Int) {result : Except Failure Unit}
    {sink : σ}
    (emit : Sink.emit (Row.line ⟨timestamp, batcher.record, stream.host⟩) batcher.sink =
      (result, sink)) :
    batcher.emitRow timestamp = (result.toBool, { batcher with sink }) := by
  unfold emitRow
  rw [adopted]
  simp only [emit]
  cases result <;> rfl

theorem closeBatch_cases {batcher : Batcher σ} {stream : StreamKey}
    (adopted : batcher.stream = some stream) (timestamp : Int) :
    Closing batcher stream timestamp (batcher.closeBatch timestamp) := by
  by_cases void : batcher.record = .nil
  · have same : batcher.closeBatch timestamp = (false, batcher) := by
      unfold closeBatch
      rw [if_pos (Record.isEmpty_iff.mpr void)]
    rw [same]
    exact .empty void
  · have full : ¬ batcher.record.isEmpty = true := fun empty => void (Record.isEmpty_iff.mp empty)
    unfold closeBatch
    rw [if_neg full]
    rcases emit : Sink.emit (Row.line ⟨timestamp, batcher.record, stream.host⟩) batcher.sink with
      ⟨failure | _, sink⟩
    · rw [emitRow_of_stream batcher adopted timestamp emit]
      exact .lost failure sink void emit
    · rw [emitRow_of_stream batcher adopted timestamp emit]
      by_cases due : (batcher.stats.rowsEmitted + 1) % batcher.syncEvery = 0
      · simp only [Except.toBool, countRow, count, if_true, true_and, due, syncSink]
        rcases sync : Sink.sync sink with ⟨failure | _, after⟩
        · exact .unsettled sink after failure void emit due sync
        · exact .settled sink after void emit due sync
      · simp only [Except.toBool, countRow, count, if_true, true_and, due, if_false]
        exact .delivered sink void emit due

/-- A batch that can be closed like this is closed like this. -/
theorem Closing.eq {batcher : Batcher σ} {stream : StreamKey} {timestamp : Int}
    {result : Bool × Batcher σ} (closing : Closing batcher stream timestamp result)
    (adopted : batcher.stream = some stream) : batcher.closeBatch timestamp = result := by
  have handed {outcome : Except Failure Unit} {sink : σ}
      (emit : Sink.emit (Row.line ⟨timestamp, batcher.record, stream.host⟩) batcher.sink =
        (outcome, sink)) := emitRow_of_stream batcher adopted timestamp emit
  have closes (full : batcher.record ≠ .nil) : ¬ batcher.record.isEmpty = true :=
    fun empty => full (Record.isEmpty_iff.mp empty)
  unfold closeBatch
  cases closing with
  | empty void => rw [if_pos (Record.isEmpty_iff.mpr void)]
  | lost failure sink full emit =>
    rw [if_neg (closes full), handed emit]
    rfl
  | delivered sink full emit early =>
    rw [if_neg (closes full), handed emit]
    simp [Except.toBool, countRow, count, early]
  | settled sink after full emit due sync =>
    rw [if_neg (closes full), handed emit]
    simp [Except.toBool, countRow, count, syncSink, due, sync]
  | unsettled sink after failure full emit due sync =>
    rw [if_neg (closes full), handed emit]
    simp [Except.toBool, countRow, count, syncSink, due, sync]

/-! ### The states of a run -/

/-- The phase says what the stream and the record are: there is a stream exactly while a batch is
open, and it is that of the host. -/
def Consistent (batcher : Batcher σ) : Prop :=
  match batcher.phase with
  | .idle | .stopped => batcher.stream = none ∧ batcher.record = .nil
  | .collecting _ => ∃ application executor,
    batcher.stream = some (StreamKey.of application executor batcher.hostname)

/-! ### Offering a sample -/

omit [Sink σ] in
theorem isStopped_iff {batcher : Batcher σ} :
    batcher.isStopped = true ↔ batcher.phase = .stopped := by
  unfold isStopped
  exact beq_iff_eq

omit [Sink σ] in
theorem openTimestamp_eq_some_iff {batcher : Batcher σ} {timestamp : Int} :
    batcher.openTimestamp = some timestamp ↔ batcher.phase = .collecting timestamp := by
  unfold openTimestamp
  cases batcher.phase <;> simp

/-- A stopped batcher takes no sample. -/
theorem take_of_stopped {batcher : Batcher σ} (phase : batcher.phase = .stopped)
    (sample : Offered) : batcher.take sample = (.dropped .stopped, batcher) := by
  unfold take offer
  rw [if_pos (isStopped_iff.mpr phase)]

/-- A stopped batcher stays as it is when it is stopped again. -/
theorem stop_of_stopped {batcher : Batcher σ} (phase : batcher.phase = .stopped) :
    batcher.stop = batcher := by
  unfold stop
  rw [if_pos (isStopped_iff.mpr phase)]

/-- What can happen when a sample is offered. -/
inductive Taking (batcher : Batcher σ) (sample : Offered) : Offer × Batcher σ → Prop where
  | stopped (phase : batcher.phase = .stopped) :
      Taking batcher sample (.dropped .stopped, batcher)
  /-- The sink refused to open in this cycle. -/
  | waiting (phase : batcher.phase = .idle) (failed : batcher.openFailed = true) :
      Taking batcher sample (.dropped .sinkUnavailable, { batcher with
        stats := { batcher.stats with
          droppedSinkUnavailable := batcher.stats.droppedSinkUnavailable + 1 } })
  /-- The sink refuses to open. -/
  | refused (failure : Failure) (sink : σ) (phase : batcher.phase = .idle)
      (ready : batcher.openFailed = false)
      (call : Sink.openStream (sample.stream batcher.hostname) batcher.sink =
        (.error failure, sink)) :
      Taking batcher sample (.dropped .sinkUnavailable, { batcher with
        sink
        openFailed := true
        stats := { batcher.stats with
          sinkOpenFailures := batcher.stats.sinkOpenFailures + 1
          droppedSinkUnavailable := batcher.stats.droppedSinkUnavailable + 1 } })
  /-- The sink opens, and the stream of the sample is adopted. -/
  | adopted (sink : σ) (phase : batcher.phase = .idle) (ready : batcher.openFailed = false)
      (call : Sink.openStream (sample.stream batcher.hostname) batcher.sink = (.ok (), sink)) :
      Taking batcher sample
        (mergeSample { batcher with
          sink
          stream := some (sample.stream batcher.hostname)
          phase := .collecting sample.timestamp } sample.route.path sample.value .merged)
  | foreign (stream : StreamKey) (before : Int) (phase : batcher.phase = .collecting before)
      (known : batcher.stream = some stream) (other : stream ≠ sample.stream batcher.hostname) :
      Taking batcher sample (.dropped .foreignStream, { batcher with
        stats := { batcher.stats with droppedForeign := batcher.stats.droppedForeign + 1 } })
  /-- The batch of its second is open. -/
  | joined (phase : batcher.phase = .collecting sample.timestamp)
      (own : batcher.stream = some (sample.stream batcher.hostname)) :
      Taking batcher sample (batcher.mergeSample sample.route.path sample.value .merged)
  /-- The batch of another second is open, and it is closed. -/
  | rolled (before : Int) (emitted : Bool) (closed : Batcher σ)
      (phase : batcher.phase = .collecting before) (own : batcher.stream =
        some (sample.stream batcher.hostname)) (different : before ≠ sample.timestamp)
      (closing : Closing batcher (sample.stream batcher.hostname) before (emitted, closed)) :
      Taking batcher sample
        (mergeSample { closed with phase := .collecting sample.timestamp } sample.route.path
          sample.value (.rolled emitted))

/-- A sample belongs to a stream of the host exactly when the batcher takes it for its own. -/
theorem isOwn_iff (application : ApplicationId) (executor : ExecutorId) (hostname : String)
    (sample : Offered) :
    isOwn (StreamKey.of application executor hostname) sample.route = true ↔
      StreamKey.of application executor hostname = sample.stream hostname := by
  unfold isOwn Offered.stream
  rw [Bool.and_eq_true, beq_iff_eq, beq_iff_eq]
  constructor
  · rintro ⟨sameApplication, sameExecutor⟩
    rw [sameApplication, sameExecutor]
    rfl
  · intro same
    exact ⟨(congrArg StreamKey.application same).symm, (congrArg StreamKey.executor same).symm⟩

theorem accept_cases {batcher : Batcher σ} {sample : Offered} {before : Int}
    (phase : batcher.phase = .collecting before)
    (own : batcher.stream = some (sample.stream batcher.hostname)) :
    Taking batcher sample
      (batcher.accept sample.route.path sample.value sample.timestamp) := by
  unfold accept
  rw [openTimestamp_eq_some_iff.mpr phase]
  by_cases same : before = sample.timestamp
  · simp only [if_pos same]
    exact .joined (same ▸ phase) own
  · simp only [if_neg same]
    exact .rolled before _ _ phase own same (closeBatch_cases own before)

theorem accept_of_idle (batcher : Batcher σ) (phase : batcher.phase = .idle) (path : List String)
    (value : Measure) (timestamp : Int) :
    batcher.accept path value timestamp =
      mergeSample { batcher with phase := .collecting timestamp } path value .merged := by
  unfold accept openTimestamp
  rw [phase]

theorem take_cases {batcher : Batcher σ} (consistent : batcher.Consistent) (sample : Offered) :
    Taking batcher sample (batcher.take sample) := by
  unfold take offer
  unfold Consistent at consistent
  cases phase : batcher.phase with
  | stopped =>
    rw [if_pos (isStopped_iff.mpr phase)]
    exact .stopped phase
  | idle =>
    rw [phase] at consistent
    have running : ¬ batcher.isStopped = true := by rw [isStopped_iff, phase]; decide
    rw [if_neg running, consistent.1]
    unfold openSink
    by_cases failed : batcher.openFailed = true
    · rw [if_pos failed]
      exact .waiting phase failed
    · rw [if_neg failed]
      have ready : batcher.openFailed = false := Bool.eq_false_iff.mpr failed
      rcases call : Sink.openStream (sample.stream batcher.hostname) batcher.sink with
        ⟨failure | _, sink⟩
      · simp only [Offered.stream] at call
        simp only [call]
        exact .refused failure sink phase ready call
      · have opened := call
        simp only [Offered.stream] at opened
        simp only [opened]
        rw [accept_of_idle { batcher with
          sink
          stream := some (StreamKey.of sample.route.application sample.route.executor
            batcher.hostname) } phase]
        exact .adopted sink phase ready call
  | collecting before =>
    rw [phase] at consistent
    obtain ⟨application, executor, known⟩ := consistent
    have running : ¬ batcher.isStopped = true := by rw [isStopped_iff, phase]; simp
    rw [if_neg running, known]
    simp only
    by_cases own : isOwn (StreamKey.of application executor batcher.hostname) sample.route = true
    · rw [if_pos own]
      rw [isOwn_iff] at own
      exact accept_cases phase (own ▸ known)
    · rw [if_neg own]
      rw [isOwn_iff] at own
      exact .foreign _ before phase known own

/-- A sample that can be taken like this is taken like this. -/
theorem Taking.eq {batcher : Batcher σ} (consistent : batcher.Consistent) {sample : Offered}
    {result : Offer × Batcher σ} (taking : Taking batcher sample result) :
    batcher.take sample = result := by
  have active (running : batcher.phase ≠ .stopped) : ¬ batcher.isStopped = true :=
    fun stopped => running (isStopped_iff.mp stopped)
  have unopened (phase : batcher.phase = .idle) : batcher.stream = none := by
    unfold Consistent at consistent
    rw [phase] at consistent
    exact consistent.1
  have isMine : isOwn (sample.stream batcher.hostname) sample.route = true :=
    (isOwn_iff _ _ batcher.hostname sample).mpr rfl
  unfold take offer
  cases taking with
  | stopped phase => rw [if_pos (isStopped_iff.mpr phase)]
  | waiting phase failed =>
    rw [if_neg (active (by rw [phase]; decide))]
    simp only [unopened phase, openSink, if_pos failed, count]
  | refused failure sink phase ready call =>
    unfold Offered.stream at call
    rw [if_neg (active (by rw [phase]; decide))]
    simp only [unopened phase, openSink, ready, call, count, Bool.false_eq_true, if_false]
  | adopted sink phase ready call =>
    unfold Offered.stream at call
    rw [if_neg (active (by rw [phase]; decide))]
    simp only [unopened phase, openSink, ready, call, Bool.false_eq_true, if_false]
    exact accept_of_idle { batcher with
      sink
      stream := some (sample.stream batcher.hostname)
      openFailed := false } phase _ _ _
  | foreign stream before phase known other =>
    unfold Consistent at consistent
    rw [phase] at consistent
    obtain ⟨application, executor, same⟩ := consistent
    cases known.symm.trans same
    rw [if_neg (active (by rw [phase]; simp))]
    simp only [known, if_neg (mt (isOwn_iff application executor batcher.hostname sample).mp other),
      count]
  | joined phase own =>
    rw [if_neg (active (by rw [phase]; simp))]
    simp only [own, isMine, if_true, accept, openTimestamp, phase]
  | rolled before emitted closed phase own different closing =>
    rw [if_neg (active (by rw [phase]; simp))]
    simp only [own, isMine, if_true, accept, openTimestamp, phase, if_neg different, closing.eq own]

/-! ### Stopping -/

/-- What can happen when the batcher is stopped. -/
inductive Stopping (batcher : Batcher σ) : Batcher σ → Prop where
  | again (phase : batcher.phase = .stopped) : Stopping batcher batcher
  /-- The sink was never opened. -/
  | unused (phase : batcher.phase = .idle) :
      Stopping batcher { batcher with phase := .stopped }
  /-- The open batch is empty. -/
  | empty (stream : StreamKey) (before : Int) (result : Except Failure Unit) (sink : σ)
      (phase : batcher.phase = .collecting before) (known : batcher.stream = some stream)
      (void : batcher.record = .nil) (close : Sink.close batcher.sink = (result, sink)) :
      Stopping batcher { batcher with
        sink, phase := .stopped, record := .nil, stream := none }
  /-- The sink refuses the last row, and it is closed all the same. -/
  | lost (stream : StreamKey) (before : Int) (failure : Failure) (result : Except Failure Unit)
      (sink after : σ) (phase : batcher.phase = .collecting before)
      (known : batcher.stream = some stream) (full : batcher.record ≠ .nil)
      (emit : Sink.emit (Row.line ⟨before, batcher.record, stream.host⟩) batcher.sink =
        (.error failure, sink))
      (close : Sink.close sink = (result, after)) :
      Stopping batcher { batcher with
        sink := after, phase := .stopped, record := .nil, stream := none
        stats := { batcher.stats with sampleFailures := batcher.stats.sampleFailures + 1 } }
  /-- The sink takes the last row, and it is closed. -/
  | delivered (stream : StreamKey) (before : Int) (result : Except Failure Unit) (sink after : σ)
      (phase : batcher.phase = .collecting before) (known : batcher.stream = some stream)
      (full : batcher.record ≠ .nil)
      (emit : Sink.emit (Row.line ⟨before, batcher.record, stream.host⟩) batcher.sink =
        (.ok (), sink))
      (close : Sink.close sink = (result, after)) :
      Stopping batcher { batcher with
        sink := after, phase := .stopped, record := .nil, stream := none
        stats := { batcher.stats with rowsEmitted := batcher.stats.rowsEmitted + 1 } }

theorem stop_cases {batcher : Batcher σ} (consistent : batcher.Consistent) :
    Stopping batcher batcher.stop := by
  unfold stop
  unfold Consistent at consistent
  cases phase : batcher.phase with
  | stopped =>
    rw [if_pos (isStopped_iff.mpr phase)]
    exact .again phase
  | idle =>
    rw [phase] at consistent
    have running : ¬ batcher.isStopped = true := by rw [isStopped_iff, phase]; decide
    rw [if_neg running]
    have unused := Stopping.unused phase
    rw [consistent.1] at unused
    simp only [consistent.1]
    exact unused
  | collecting before =>
    rw [phase] at consistent
    obtain ⟨application, executor, known⟩ := consistent
    have running : ¬ batcher.isStopped = true := by rw [isStopped_iff, phase]; simp
    rw [if_neg running, openTimestamp_eq_some_iff.mpr phase]
    simp only [known]
    unfold finish
    by_cases void : batcher.record = .nil
    · simp only [if_pos (Record.isEmpty_iff.mpr void)]
      exact .empty _ before _ _ phase known void rfl
    · have full : ¬ batcher.record.isEmpty = true := fun empty => void (Record.isEmpty_iff.mp empty)
      simp only [if_neg full]
      rcases emit : Sink.emit (Row.line ⟨before, batcher.record,
        (StreamKey.of application executor batcher.hostname).host⟩) batcher.sink with
        ⟨failure | _, sink⟩
      · rw [emitRow_of_stream { batcher with
          phase := .stopped
          stream := some (StreamKey.of application executor batcher.hostname) } rfl before emit]
        exact .lost _ before failure _ sink _ phase known void emit rfl
      · rw [emitRow_of_stream { batcher with
          phase := .stopped
          stream := some (StreamKey.of application executor batcher.hostname) } rfl before emit]
        exact .delivered _ before _ sink _ phase known void emit rfl

/-- Without a stream a stop leaves the sink alone. -/
theorem stop_sink_of_unadopted {batcher : Batcher σ} (unadopted : batcher.stream = none) :
    batcher.stop.sink = batcher.sink := by
  unfold stop
  by_cases stopped : batcher.isStopped = true
  · rw [if_pos stopped]
  · rw [if_neg stopped]
    simp only [unadopted]

/-- A batcher that can be stopped like this is stopped like this. -/
theorem Stopping.eq {batcher after : Batcher σ} (consistent : batcher.Consistent)
    (stopping : Stopping batcher after) : batcher.stop = after := by
  have active (running : batcher.phase ≠ .stopped) : ¬ batcher.isStopped = true :=
    fun stopped => running (isStopped_iff.mp stopped)
  have handed {stream : StreamKey} {before : Int} {outcome : Except Failure Unit} {sink : σ}
      (known : batcher.stream = some stream)
      (emit : Sink.emit (Row.line ⟨before, batcher.record, stream.host⟩) batcher.sink =
        (outcome, sink)) :=
    emitRow_of_stream { batcher with phase := .stopped, stream := some stream } rfl before emit
  unfold stop
  cases stopping with
  | again phase => rw [if_pos (isStopped_iff.mpr phase)]
  | unused phase =>
    unfold Consistent at consistent
    rw [phase] at consistent
    rw [if_neg (active (by rw [phase]; decide))]
    simp only [consistent.1]
  | empty stream before result sink phase known void close =>
    rw [if_neg (active (by rw [phase]; simp)), openTimestamp_eq_some_iff.mpr phase]
    simp only [known, finish, if_pos (Record.isEmpty_iff.mpr void), close]
  | lost stream before failure result sink after phase known full emit close =>
    rw [if_neg (active (by rw [phase]; simp)), openTimestamp_eq_some_iff.mpr phase]
    simp only [known, finish, if_neg fun empty => full (Record.isEmpty_iff.mp empty),
      handed known emit, close, countRow, count, Except.toBool, Bool.false_eq_true, if_false]
  | delivered stream before result sink after phase known full emit close =>
    rw [if_neg (active (by rw [phase]; simp)), openTimestamp_eq_some_iff.mpr phase]
    simp only [known, finish, if_neg fun empty => full (Record.isEmpty_iff.mp empty),
      handed known emit, close, countRow, count, Except.toBool, if_true]

/-! ### What every step keeps -/

/-- Closing a batch empties it and leaves the rest of the state to the counters and the sink. -/
theorem Closing.frame {batcher : Batcher σ} {stream : StreamKey} {timestamp : Int}
    {result : Bool × Batcher σ} (closing : Closing batcher stream timestamp result) :
    ∃ sink stats, result.2 = { batcher with sink, record := .nil, stats } := by
  cases closing with
  | empty void => exact ⟨batcher.sink, batcher.stats, by rw [← void]⟩
  | lost => exact ⟨_, _, rfl⟩
  | delivered => exact ⟨_, _, rfl⟩
  | settled => exact ⟨_, _, rfl⟩
  | unsettled => exact ⟨_, _, rfl⟩

theorem Taking.frame {batcher : Batcher σ} {sample : Offered} {result : Offer × Batcher σ}
    (taking : Taking batcher sample result) :
    result.2.hostname = batcher.hostname ∧ result.2.syncEvery = batcher.syncEvery := by
  cases taking with
  | stopped | waiting | refused | foreign => exact ⟨rfl, rfl⟩
  | adopted | joined => simp
  | rolled before emitted closed phase own different closing =>
    obtain ⟨sink, stats, after⟩ := closing.frame
    simp only at after
    subst after
    simp

theorem Taking.consistent {batcher : Batcher σ} {sample : Offered} {result : Offer × Batcher σ}
    (consistent : batcher.Consistent) (taking : Taking batcher sample result) :
    result.2.Consistent := by
  cases taking with
  | stopped => exact consistent
  | waiting => exact consistent
  | refused => exact consistent
  | foreign => exact consistent
  | adopted =>
    unfold Consistent
    simp only [mergeSample_phase, mergeSample_stream, mergeSample_hostname]
    exact ⟨_, _, rfl⟩
  | joined phase own =>
    unfold Consistent
    simp only [mergeSample_phase, mergeSample_stream, mergeSample_hostname, phase]
    exact ⟨_, _, own⟩
  | rolled before emitted closed phase own different closing =>
    obtain ⟨sink, stats, after⟩ := closing.frame
    simp only at after
    subst after
    unfold Consistent
    simp only [mergeSample_phase, mergeSample_stream, mergeSample_hostname]
    exact ⟨_, _, own⟩

theorem Stopping.consistent {batcher after : Batcher σ} (consistent : batcher.Consistent)
    (stopping : Stopping batcher after) : after.Consistent := by
  cases stopping with
  | again => exact consistent
  | unused phase =>
    unfold Consistent at consistent ⊢
    rw [phase] at consistent
    exact consistent
  | empty => exact ⟨rfl, rfl⟩
  | lost => exact ⟨rfl, rfl⟩
  | delivered => exact ⟨rfl, rfl⟩

/-- A stream that was adopted stays. -/
theorem Taking.keeps_stream {batcher : Batcher σ} (consistent : batcher.Consistent)
    {sample : Offered} {result : Offer × Batcher σ} (taking : Taking batcher sample result)
    {stream : StreamKey} (known : batcher.stream = some stream) :
    result.2.stream = some stream := by
  cases taking with
  | stopped | waiting | refused | foreign => exact known
  | adopted sink phase =>
    unfold Consistent at consistent
    rw [phase] at consistent
    rw [consistent.1] at known
    cases known
  | joined => rw [mergeSample_stream, known]
  | rolled before emitted closed phase own different closing =>
    obtain ⟨sink, stats, after⟩ := closing.frame
    simp only at after
    subst after
    rw [mergeSample_stream]
    exact known

/-- Taking a sample stops nothing. -/
theorem Taking.stopped_iff {batcher : Batcher σ} {sample : Offered} {result : Offer × Batcher σ}
    (taking : Taking batcher sample result) :
    result.2.phase = .stopped ↔ batcher.phase = .stopped := by
  cases taking with
  | stopped | waiting | refused | foreign => exact Iff.rfl
  | adopted sink phase => simp [phase]
  | joined phase => simp
  | rolled before emitted closed phase => simp [phase]

theorem Stopping.frame {batcher after : Batcher σ} (stopping : Stopping batcher after) :
    after.hostname = batcher.hostname ∧ after.syncEvery = batcher.syncEvery := by
  cases stopping <;> exact ⟨rfl, rfl⟩

theorem Stopping.phase {batcher after : Batcher σ} (stopping : Stopping batcher after) :
    after.phase = .stopped := by
  cases stopping with
  | again phase => exact phase
  | unused | empty | lost | delivered => rfl

omit [Sink σ] in
theorem new_consistent (sink : σ) (hostname : String) (syncEvery : Nat) :
    (new sink hostname syncEvery).Consistent :=
  ⟨rfl, rfl⟩

theorem next_consistent {batcher : Batcher σ} (consistent : batcher.Consistent) (event : Event) :
    (batcher.next event).Consistent := by
  cases event with
  | cycle => exact consistent
  | offer sample => exact (take_cases consistent sample).consistent consistent
  | stop => exact (stop_cases consistent).consistent consistent

theorem next_frame {batcher : Batcher σ} (consistent : batcher.Consistent) (event : Event) :
    (batcher.next event).hostname = batcher.hostname ∧
      (batcher.next event).syncEvery = batcher.syncEvery := by
  cases event with
  | cycle => exact ⟨rfl, rfl⟩
  | offer sample => exact (take_cases consistent sample).frame
  | stop => exact (stop_cases consistent).frame

/-- Only a stop stops a batcher. -/
theorem next_stopped_iff {batcher : Batcher σ} (consistent : batcher.Consistent) (event : Event) :
    (batcher.next event).phase = .stopped ↔ batcher.phase = .stopped ∨ event = .stop := by
  cases event with
  | cycle =>
    show batcher.phase = .stopped ↔ _
    simp
  | offer sample =>
    show (batcher.take sample).2.phase = .stopped ↔ _
    have unchanged := (take_cases consistent sample).stopped_iff
    simp [unchanged]
  | stop =>
    have stopped := (stop_cases consistent).phase
    simp [next, stopped]

/-- Runs keep a state consistent. -/
theorem Consistent.run {batcher : Batcher σ} (consistent : batcher.Consistent)
    (events : List Event) : (batcher.run events).Consistent :=
  run_induction Consistent consistent (fun _ event before => next_consistent before event) events

/-- A batcher is stopped after a run if it was before, or was asked to stop. -/
theorem Consistent.run_stopped_iff {batcher : Batcher σ} (consistent : batcher.Consistent)
    (events : List Event) :
    (batcher.run events).phase = .stopped ↔ batcher.phase = .stopped ∨ .stop ∈ events := by
  induction events using List.reverseRecOn with
  | nil => simp
  | append_singleton events event ih =>
    rw [run_concat, next_stopped_iff (consistent.run events), ih, or_assoc, List.mem_append,
      List.mem_singleton, @eq_comm _ .stop event]

theorem Consistent.run_frame {batcher : Batcher σ} (consistent : batcher.Consistent)
    (events : List Event) :
    (batcher.run events).hostname = batcher.hostname ∧
      (batcher.run events).syncEvery = batcher.syncEvery := by
  induction events using List.reverseRecOn with
  | nil => exact ⟨rfl, rfl⟩
  | append_singleton events event ih =>
    obtain ⟨hostname, syncEvery⟩ := next_frame (consistent.run events) event
    rw [run_concat]
    exact ⟨hostname.trans ih.1, syncEvery.trans ih.2⟩

/-- **Every state of a run is consistent.** -/
theorem run_consistent (sink : σ) (hostname : String) (syncEvery : Nat) (events : List Event) :
    ((new sink hostname syncEvery).run events).Consistent :=
  (new_consistent sink hostname syncEvery).run events

/-- A batcher is stopped exactly if it was asked to stop. -/
theorem run_stopped_iff (sink : σ) (hostname : String) (syncEvery : Nat) (events : List Event) :
    ((new sink hostname syncEvery).run events).phase = .stopped ↔ .stop ∈ events := by
  rw [(new_consistent sink hostname syncEvery).run_stopped_iff]
  simp [new]

theorem run_hostname (sink : σ) (hostname : String) (syncEvery : Nat) (events : List Event) :
    ((new sink hostname syncEvery).run events).hostname = hostname :=
  ((new_consistent sink hostname syncEvery).run_frame events).1

/-! ### What every call keeps -/

section Keeps

variable {good : σ → Prop} {batcher after : Batcher σ}

theorem Closing.keeps (keeps : Sink.Keeps good) {stream : StreamKey} {timestamp : Int}
    {result : Bool × Batcher σ} (closing : Closing batcher stream timestamp result)
    (held : good batcher.sink) : good result.2.sink := by
  cases closing with
  | empty => exact held
  | lost failure sink full emit => exact keeps.of_perform (.emitted _) emit held
  | delivered sink full emit early => exact keeps.of_perform (.emitted _) emit held
  | settled sink after full emit due sync =>
    exact keeps.of_perform .synced sync (keeps.of_perform (.emitted _) emit held)
  | unsettled sink after failure full emit due sync =>
    exact keeps.of_perform .synced sync (keeps.of_perform (.emitted _) emit held)

theorem Taking.keeps (keeps : Sink.Keeps good) {sample : Offered} {result : Offer × Batcher σ}
    (taking : Taking batcher sample result) (held : good batcher.sink) : good result.2.sink := by
  cases taking with
  | stopped | waiting | foreign => exact held
  | refused failure sink phase ready call => exact keeps.of_perform (.opened _) call held
  | adopted sink phase ready call =>
    rw [mergeSample_sink]
    exact keeps.of_perform (.opened _) call held
  | joined =>
    rw [mergeSample_sink]
    exact held
  | rolled before emitted closed phase own different closing =>
    rw [mergeSample_sink]
    exact closing.keeps keeps held

theorem Stopping.keeps (keeps : Sink.Keeps good) (stopping : Stopping batcher after)
    (held : good batcher.sink) : good after.sink := by
  cases stopping with
  | again | unused => exact held
  | empty stream before result sink phase known void close =>
    exact keeps.of_perform .closed close held
  | lost stream before failure result sink after phase known full emit close =>
    exact keeps.of_perform .closed close (keeps.of_perform (.emitted _) emit held)
  | delivered stream before result sink after phase known full emit close =>
    exact keeps.of_perform .closed close (keeps.of_perform (.emitted _) emit held)

/-- **What every call keeps, every run keeps.** -/
theorem Consistent.run_keeps (keeps : Sink.Keeps good) (consistent : batcher.Consistent)
    (held : good batcher.sink) (events : List Event) : good (batcher.run events).sink := by
  induction events using List.reverseRecOn with
  | nil => exact held
  | append_singleton events event ih =>
    have before := consistent.run events
    rw [run_concat]
    cases event with
    | cycle => exact ih
    | offer sample => exact (take_cases before sample).keeps keeps ih
    | stop => exact (stop_cases before).keeps keeps ih

end Keeps

/-! ### Runs over a logged sink -/

theorem logged_consistent (sink : σ) (hostname : String) (syncEvery : Nat) (events : List Event) :
    ((logged sink hostname syncEvery).run events).Consistent :=
  run_consistent ({ sink } : Logged σ) hostname syncEvery events

theorem logged_stopped_iff (sink : σ) (hostname : String) (syncEvery : Nat)
    (events : List Event) :
    ((logged sink hostname syncEvery).run events).phase = .stopped ↔ .stop ∈ events :=
  run_stopped_iff ({ sink } : Logged σ) hostname syncEvery events

theorem logged_hostname (sink : σ) (hostname : String) (syncEvery : Nat) (events : List Event) :
    ((logged sink hostname syncEvery).run events).hostname = hostname :=
  run_hostname ({ sink } : Logged σ) hostname syncEvery events

theorem logged_syncEvery (sink : σ) (hostname : String) (syncEvery : Nat)
    (events : List Event) :
    ((logged sink hostname syncEvery).run events).syncEvery = max syncEvery 1 :=
  ((logged_consistent sink hostname syncEvery []).run_frame events).2

end Batcher

end MetricRelay

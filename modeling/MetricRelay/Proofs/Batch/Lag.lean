/-
**How far a file lags behind its rows.**

A batcher over a journal counts a row as soon as the journal took it, and the journal may keep it in
its buffer. On a healthy disk the rows that a file lacks are the last ones, and they are no more than
the rows since the last request for durability (`Batcher.Lagging`). A buffer that is written early
makes them fewer, never more. After a stop the file lacks none (`Stopping.complete`).

The rows are those that a recorder would have been given (`Batcher.run_ofLog`).

Main statement: `Reporter.rows_reach_the_file`.
-/

import MetricRelay.Proofs.Batch.Image
import MetricRelay.Proofs.Batch.Journaled
import MetricRelay.Proofs.Report.Cycle
import MetricRelay.Proofs.Sink.Healthy
import MetricRelay.Sink.Recorder

namespace MetricRelay

/-- Every call succeeded, unless it was an open. -/
def Trace.OnlyOpensFail (trace : Trace) : Prop :=
  ∀ made ∈ trace, made.2 = true ∨ ∃ stream, made.1 = .opened stream

theorem Trace.OnlyOpensFail.concat {trace : Trace} (fine : trace.OnlyOpensFail)
    {made : SinkCall × Bool} (last : made.2 = true ∨ ∃ stream, made.1 = .opened stream) :
    Trace.OnlyOpensFail (trace ++ [made]) := by
  intro other member
  rcases List.mem_append.mp member with old | new
  · exact fine other old
  · rw [List.mem_singleton.mp new]
    exact last

namespace Batcher

/-! ### The lag -/

/-- The file of a stream has the rows that were taken but for the last ones, and these are no more
than those since the last request for durability. -/
def Lagging (start : Disk) (directory : Path) (stream : StreamKey)
    (batcher : Batcher (Logged Journal)) : Prop :=
  ∃ place books, Journal.Holds start batcher.sink.sink (Journal.logPath directory stream) place
      books batcher.sink.takenLines ∧
    books.held.length ≤ batcher.stats.rowsEmitted % batcher.syncEvery

variable {start : Disk} {directory : Path} {batcher after : Batcher (Logged Journal)}
  {stream : StreamKey}

theorem Lagging.same (lagging : Lagging start directory stream batcher)
    (sink : after.sink = batcher.sink)
    (emitted : after.stats.rowsEmitted = batcher.stats.rowsEmitted)
    (every : after.syncEvery = batcher.syncEvery) : Lagging start directory stream after := by
  unfold Lagging
  rw [sink, emitted, every]
  exact lagging

/-- A row more in a group that is not complete. -/
theorem succ_mod_of_ne_zero {count every : Nat} (early : (count + 1) % every ≠ 0) :
    (count + 1) % every = count % every + 1 := by
  have step : (count + 1) % every = (count % every + 1) % every :=
    (Nat.mod_add_mod count every 1).symm
  rw [step] at early ⊢
  rcases Nat.eq_zero_or_pos every with rfl | positive
  · exact Nat.mod_zero _
  · have below := Nat.mod_lt count positive
    refine Nat.mod_eq_of_lt (Nat.lt_of_le_of_ne below fun whole => early ?_)
    rw [whole, Nat.mod_self]

/-- **A row that is taken** can stay in the buffer. -/
theorem Lagging.emit (healthy : start.Healthy) (lagging : Lagging start directory stream batcher)
    (fine : batcher.sink.trace.OnlyOpensFail) {line : String} {result : Except Failure Unit}
    {sink : Logged Journal} (emit : Sink.emit line batcher.sink = (result, sink)) :
    result = .ok () ∧ sink.trace.OnlyOpensFail ∧
      ∃ place books, Journal.Holds start sink.sink (Journal.logPath directory stream) place books
          sink.takenLines ∧
        books.held.length ≤ batcher.stats.rowsEmitted % batcher.syncEvery + 1 := by
  obtain ⟨place, books, holds, late⟩ := lagging
  obtain ⟨journal, new, taken, held, longer⟩ := holds.emit healthy line
  have inner := Logged.inner_of_perform (.emitted line) emit
  have outcome : (result, sink.sink) = (.ok (), journal) := inner.symm.trans taken
  cases outcome
  refine ⟨rfl, ?_, place, new, ?_, by omega⟩
  · rw [Logged.trace_of_perform (.emitted line) emit]
    exact fine.concat (.inl rfl)
  · rw [Logged.takenLines_of_emit emit]
    exact held

/-- Closing a batch keeps the lag below what the cadence allows. -/
theorem Closing.lagging (healthy : start.Healthy) {timestamp : Int}
    {result : Bool × Batcher (Logged Journal)} (closing : Closing batcher stream timestamp result)
    (lagging : Lagging start directory stream batcher)
    (fine : batcher.sink.trace.OnlyOpensFail) :
    Lagging start directory stream result.2 ∧ result.2.sink.trace.OnlyOpensFail := by
  cases closing with
  | empty void => exact ⟨lagging, fine⟩
  | lost failure sink full emit =>
    obtain ⟨refused, _⟩ := lagging.emit healthy fine emit
    cases refused
  | delivered sink full emit early =>
    obtain ⟨_, fineAfter, place, books, holds, late⟩ := lagging.emit healthy fine emit
    refine ⟨⟨place, books, holds, ?_⟩, fineAfter⟩
    show books.held.length ≤ (batcher.stats.rowsEmitted + 1) % batcher.syncEvery
    rw [succ_mod_of_ne_zero early]
    exact late
  | settled sink after full emit due sync =>
    obtain ⟨_, fineAfter, place, books, holds, late⟩ := lagging.emit healthy fine emit
    obtain ⟨journal, new, synced, kept, void⟩ := holds.sync healthy
    have inner := Logged.inner_of_perform .synced sync
    have outcome : (Except.ok (), after.sink) = (.ok (), journal) := inner.symm.trans synced
    cases outcome
    refine ⟨⟨place, new, ?_, ?_⟩, ?_⟩
    · rw [Logged.takenLines_of_silent .synced rfl sync]
      exact kept
    · rw [void]
      exact Nat.zero_le _
    · rw [Logged.trace_of_perform .synced sync]
      exact fineAfter.concat (.inl rfl)
  | unsettled sink after failure full emit due sync =>
    obtain ⟨_, _, place, books, holds, _⟩ := lagging.emit healthy fine emit
    obtain ⟨journal, new, synced, _⟩ := holds.sync healthy
    have inner := Logged.inner_of_perform .synced sync
    cases inner.symm.trans synced

/-- What a batcher that is not stopped has delivered, on a healthy disk. -/
structure Timely (start : Disk) (directory : Path) (batcher : Batcher (Logged Journal)) : Prop where
  fine : batcher.sink.trace.OnlyOpensFail
  state :
    match batcher.phase with
    | .idle => batcher.sink.takenLines = [] ∧
      ∃ books, Journal.Untouched start directory batcher.sink.sink books
    | .collecting _ => ∃ stream, batcher.stream = some stream ∧
      Lagging start directory stream batcher
    | .stopped => True

theorem Taking.timely (healthy : start.Healthy) {sample : Offered}
    {result : Offer × Batcher (Logged Journal)} (taking : Taking batcher sample result)
    (timely : Timely start directory batcher) : Timely start directory result.2 := by
  obtain ⟨fine, state⟩ := timely
  cases taking with
  | stopped phase | waiting phase failed | foreign _ _ phase => exact ⟨fine, state⟩
  | refused failure sink phase ready call =>
    rw [phase] at state
    obtain ⟨none, books, untouched⟩ := state
    have inner := Logged.inner_of_perform (.opened _) call
    refine ⟨?_, ?_⟩
    · rw [Logged.trace_of_perform (.opened _) call]
      exact fine.concat (.inr ⟨_, rfl⟩)
    · simp only [phase]
      refine ⟨(Logged.takenLines_of_silent (.opened _) rfl call).trans none, ?_⟩
      rcases untouched.open healthy (sample.stream batcher.hostname) with
        ⟨after, new, place, opened, _⟩ | ⟨other, after, new, refused, still⟩
      · cases inner.symm.trans opened
      · cases inner.symm.trans refused
        exact ⟨new, still⟩
  | adopted sink phase ready call =>
    rw [phase] at state
    obtain ⟨none, books, untouched⟩ := state
    have inner := Logged.inner_of_perform (.opened _) call
    refine ⟨?_, ?_⟩
    · rw [mergeSample_sink, Logged.trace_of_perform (.opened _) call]
      exact fine.concat (.inl rfl)
    · simp only [mergeSample_phase]
      refine ⟨sample.stream batcher.hostname, by rw [mergeSample_stream], ?_⟩
      rcases untouched.open healthy (sample.stream batcher.hostname) with
        ⟨after, new, place, opened, holds, void⟩ | ⟨other, after, new, refused, still⟩
      · cases inner.symm.trans opened
        unfold Lagging
        rw [mergeSample_sink, Logged.takenLines_of_silent (.opened _) rfl call, none]
        refine ⟨place, new, holds, ?_⟩
        rw [void]
        exact Nat.zero_le _
      · cases inner.symm.trans refused
  | joined phase own =>
    rw [phase] at state
    obtain ⟨stream, known, lagging⟩ := state
    refine ⟨by rw [mergeSample_sink]; exact fine, ?_⟩
    simp only [mergeSample_phase, phase]
    exact ⟨stream, by rw [mergeSample_stream, known], lagging.same (by simp) (by simp) (by simp)⟩
  | rolled before emitted closed phase own different closing =>
    rw [phase] at state
    obtain ⟨stream, known, lagging⟩ := state
    cases known.symm.trans own
    obtain ⟨laggingAfter, fineAfter⟩ := closing.lagging healthy lagging fine
    obtain ⟨sink, stats, frame⟩ := closing.frame
    simp only at frame laggingAfter fineAfter
    refine ⟨by rw [mergeSample_sink]; exact fineAfter, ?_⟩
    simp only [mergeSample_phase]
    refine ⟨sample.stream batcher.hostname, ?_, laggingAfter.same (by simp) (by simp) (by simp)⟩
    rw [mergeSample_stream, frame]
    exact own

theorem next_timely (healthy : start.Healthy) (consistent : batcher.Consistent)
    (timely : Timely start directory batcher) {event : Event} (running : event ≠ .stop) :
    Timely start directory (batcher.next event) := by
  cases event with
  | cycle => exact ⟨timely.fine, timely.state⟩
  | offer sample => exact (take_cases consistent sample).timely healthy timely
  | stop => exact absurd rfl running

/-- **A run is timely until it is stopped.** -/
theorem run_timely (directory : Path) {start : Disk} (healthy : start.Healthy) (hostname : String)
    (syncEvery : Nat) {events : List Event} (running : .stop ∉ events) :
    Timely start directory
      ((logged ({ directory, disk := start } : Journal) hostname syncEvery).run events) := by
  induction events using List.reverseRecOn with
  | nil =>
    refine ⟨fun _ member => absurd member List.not_mem_nil, rfl, {}, ?_⟩
    exact Journal.untouched_of_new directory start
  | append_singleton events event ih =>
    rw [List.mem_append, List.mem_singleton, not_or] at running
    rw [run_concat]
    exact next_timely healthy (logged_consistent _ hostname syncEvery events) (ih running.1)
      fun stopping => running.2 stopping.symm

/-! ### What the file has -/

/-- The file of a path has what it had and these rows, in order, but for some of the last ones, which
are no more than may be missing. No other file changed. -/
def Behind (start : Disk) (path : Path) (journal : Journal) (rows : List String) (missing : Nat) :
    Prop :=
  ∃ place durable, journal.disk.place? path = some place ∧
    durable ≤ rows.length ∧ rows.length - durable ≤ missing ∧
    Lines.Extend (rows.take durable) (start.content? place) (journal.disk.content? place) ∧
    ∀ other, other ≠ place → journal.disk.content? other = start.content? other

/-- The file of a path has what it had and all of these rows, and no other file changed. -/
def Complete (start : Disk) (path : Path) (journal : Journal) (rows : List String) : Prop :=
  ∃ place, journal.disk.place? path = some place ∧
    Lines.Extend rows (start.content? place) (journal.disk.content? place) ∧
    ∀ other, other ≠ place → journal.disk.content? other = start.content? other

/-- Closing the sink brings all rows into the file. -/
theorem complete_of_close (healthy : start.Healthy) {logged after : Logged Journal}
    {path : Path} {place : List String} {books : Books}
    (holds : Journal.Holds start logged.sink path place books logged.takenLines)
    (fine : logged.trace.OnlyOpensFail) {result : Except Failure Unit}
    (close : Sink.close logged = (result, after)) :
    after.trace.OnlyOpensFail ∧ Complete start path after.sink after.takenLines := by
  obtain ⟨journal, closed, whole, others, located⟩ := holds.close healthy
  have inner := Logged.inner_of_perform .closed close
  cases inner.symm.trans closed
  refine ⟨?_, place, located, ?_, others⟩
  · rw [Logged.trace_of_perform .closed close]
    exact fine.concat (.inl rfl)
  · rw [Logged.takenLines_of_silent .closed rfl close]
    exact whole

/-- **After a stop the file has all rows.** -/
theorem Stopping.complete (healthy : start.Healthy) (stopping : Stopping batcher after)
    (consistent : batcher.Consistent) (timely : Timely start directory batcher)
    (known : batcher.stream = some stream) :
    after.sink.trace.OnlyOpensFail ∧
      Complete start (Journal.logPath directory stream) after.sink.sink after.sink.takenLines := by
  obtain ⟨fine, state⟩ := timely
  have opened {before : Int} (phase : batcher.phase = .collecting before) :
      Lagging start directory stream batcher := by
    rw [phase] at state
    obtain ⟨other, same, lagging⟩ := state
    rwa [Option.some.inj (known.symm.trans same)]
  cases stopping with
  | again phase | unused phase =>
    unfold Consistent at consistent
    rw [phase] at consistent
    rw [consistent.1] at known
    cases known
  | empty other before result sink phase _ void close =>
    obtain ⟨place, books, holds, _⟩ := opened phase
    exact complete_of_close healthy holds fine close
  | lost other before failure result sink after phase _ full emit close =>
    obtain ⟨refused, _⟩ := (opened phase).emit healthy fine emit
    cases refused
  | delivered other before result sink after phase _ full emit close =>
    obtain ⟨_, fineAfter, place, books, holds, _⟩ := (opened phase).emit healthy fine emit
    exact complete_of_close healthy holds fineAfter close

end Batcher

/-! ### The rows of a recorder -/

namespace Recorder

/-- The recorder that was asked for the calls of a log. -/
def ofLog {σ : Type} (logged : Logged σ) : Recorder :=
  { calls := logged.trace.map Prod.fst }

theorem perform_eq (call : SinkCall) (calls : List SinkCall) :
    call.perform ({ calls } : Recorder) = (.ok (), { calls := calls ++ [call] }) := by
  cases call <;> rfl

/-- **As long as all calls succeed, a recorder gives the same answers.** -/
theorem follows_ofLog {σ : Type} [Sink σ] :
    Sink.Follows (fun logged : Logged σ => ∀ made ∈ logged.trace, made.2 = true) ofLog := by
  intro call logged flawless
  rw [Logged.trace_perform] at flawless
  have succeeded : (call.perform logged).1.toBool = true :=
    flawless (call, _) (List.mem_append_right _ List.mem_cons_self)
  refine ⟨fun made member => flawless made (List.mem_append_left _ member), ?_⟩
  unfold ofLog
  rw [perform_eq, Logged.trace_perform, List.map_append]
  rcases outcome : (call.perform logged).1 with failure | done
  · rw [outcome] at succeeded
    cases succeeded
  · rfl

/-- The lines of a recorder are those that were taken. -/
theorem lines_ofLog {σ : Type} {logged : Logged σ}
    (flawless : ∀ made ∈ logged.trace, made.2 = true) :
    (ofLog logged).lines = logged.takenLines := by
  unfold lines ofLog Logged.takenLines Logged.handed
  generalize logged.trace = trace at flawless
  induction trace with
  | nil => rfl
  | cons made rest ih =>
    obtain ⟨succeeded, restSucceeded⟩ := List.forall_mem_cons.mp flawless
    obtain ⟨call, taken⟩ := made
    have taken_eq : taken = true := succeeded
    subst taken_eq
    have later := ih restSucceeded
    simp only at later ⊢
    cases call with
    | emitted line => exact congrArg (line :: ·) later
    | opened stream | synced | closed => exact later

end Recorder

namespace Batcher

variable {σ : Type} [Sink σ]

/-- **A run without failure over a recorder** has the same rows. -/
theorem run_ofLog (sink : σ) (hostname : String) (syncEvery : Nat) (events : List Event)
    (flawless : ∀ made ∈ ((logged sink hostname syncEvery).run events).sink.trace,
      made.2 = true) :
    ((new ({} : Recorder) hostname syncEvery).run events).sink.lines =
      ((logged sink hostname syncEvery).run events).sink.takenLines := by
  have consistent := logged_consistent sink hostname syncEvery []
  have followed := (run_withSink Recorder.follows_ofLog consistent events flawless).2
  rw [← Recorder.lines_ofLog flawless]
  exact congrArg (fun batcher => batcher.sink.lines) followed

end Batcher

namespace Reporter

open Batcher

section Life

variable (directory : Path) {start : Disk} (hostname : String) (syncEvery : Nat)

/-- What the files have at a point of a run before a stop. -/
theorem behind_of_run (healthy : start.Healthy) {events : List Event} (running : .stop ∉ events) :
    let batcher := (Batcher.logged ({ directory, disk := start } : Journal) hostname syncEvery).run
      events
    let rows := batcher.sink.takenLines
    rows.length = batcher.stats.rowsEmitted ∧
    (∀ stream, batcher.stream = some stream → Behind start (Journal.logPath directory stream)
      batcher.sink.sink rows (rows.length % max syncEvery 1)) ∧
    (batcher.stream = none → rows = [] ∧
      ∀ place, batcher.sink.sink.disk.content? place = start.content? place) := by
  intro batcher rows
  have consistent : batcher.Consistent := logged_consistent _ hostname syncEvery events
  have counted : rows.length = batcher.stats.rowsEmitted :=
    batcher.sink.length_takenLines.trans (run_rowsEmitted _ hostname syncEvery events).symm
  have every : batcher.syncEvery = max syncEvery 1 := logged_syncEvery _ hostname syncEvery events
  have unstopped : batcher.phase ≠ .stopped := fun phase =>
    running ((logged_stopped_iff _ hostname syncEvery events).mp phase)
  obtain ⟨fine, state⟩ : Timely start directory batcher :=
    run_timely directory healthy hostname syncEvery running
  unfold Consistent at consistent
  refine ⟨counted, fun stream known => ?_, fun unadopted => ?_⟩
  · cases phase : batcher.phase with
    | stopped => exact absurd phase unstopped
    | idle =>
      rw [phase] at consistent
      rw [consistent.1] at known
      cases known
    | collecting before =>
      rw [phase] at state
      obtain ⟨other, same, place, books, holds, late⟩ := state
      cases known.symm.trans same
      rw [← counted, every] at late
      exact ⟨place, rows.length - books.held.length, holds.located, Nat.sub_le _ _, by omega,
        holds.extend, holds.others⟩
  · cases phase : batcher.phase with
    | stopped => exact absurd phase unstopped
    | idle =>
      rw [phase] at state
      obtain ⟨none, books, untouched⟩ := state
      exact ⟨none, untouched.contents⟩
    | collecting before =>
      rw [phase] at state
      obtain ⟨stream, known, _⟩ := state
      rw [unadopted] at known
      cases known

/-- What the files have after a stop, and that no call failed but opens. -/
theorem complete_of_run (healthy : start.Healthy) {events : List Event} (running : .stop ∉ events) :
    let batcher := (Batcher.logged ({ directory, disk := start } : Journal) hostname syncEvery).run
      events
    let rows := batcher.stop.sink.takenLines
    batcher.stop.sink.trace.OnlyOpensFail ∧
    rows.length = batcher.stop.stats.rowsEmitted ∧
    (∀ stream, batcher.stream = some stream →
      Complete start (Journal.logPath directory stream) batcher.stop.sink.sink rows) ∧
    (batcher.stream = none → rows = [] ∧
      ∀ place, batcher.stop.sink.sink.disk.content? place = start.content? place) := by
  intro batcher rows
  have consistent : batcher.Consistent := logged_consistent _ hostname syncEvery events
  have timely : Timely start directory batcher :=
    run_timely directory healthy hostname syncEvery running
  have emitted := run_rowsEmitted ({ directory, disk := start } : Journal) hostname syncEvery
    (events ++ [.stop])
  rw [run_concat] at emitted
  have counted : rows.length = batcher.stop.stats.rowsEmitted :=
    batcher.stop.sink.length_takenLines.trans emitted.symm
  have stopping := stop_cases consistent
  cases adopted : batcher.stream with
  | some stream =>
    obtain ⟨fine, complete⟩ := stopping.complete healthy consistent timely adopted
    refine ⟨fine, counted, fun other same => ?_, fun unadopted => by cases unadopted⟩
    rw [← Option.some.inj same]
    exact complete
  | none =>
    obtain ⟨_, _, untouched⟩ := behind_of_run directory hostname syncEvery healthy running
    have sink : batcher.stop.sink = batcher.sink := stop_sink_of_unadopted adopted
    refine ⟨?_, counted, fun stream known => (by cases known), fun _ => ?_⟩
    · rw [sink]
      exact timely.fine
    · simp only [rows, sink]
      exact untouched adopted

/-- **Rows reach the file, and on the way it lags by less than a group.** Let a reporter over a
journal serve any reports, on a healthy disk, with any cadence; zero counts as one. The log of the
calls changes nothing, and

* at every point between steps the file of the stream that was adopted has what it had before and
  the rows that were counted, each as a line, in order, but for some of the last ones; these are no
  more than the rows behind the last complete group;
* after a stop, and when the reporter goes out of use, it has all of them;
* no other file changes, and without a stream there is no row and no change at all;
* if the sink refused no open, the rows are those that a recorder is given which never fails. -/
theorem rows_reach_the_file (healthy : start.Healthy) (filter : Filter) (mode : ValueMode)
    (units : Units) (requests : List Request) (running : .stop ∉ requests) :
    let sink : Journal := { directory, disk := start }
    let reporter := logged sink hostname syncEvery filter mode units
    let plain : Reporter Journal :=
      { batcher := .new sink hostname syncEvery, filter, mode, units }
    let recorded : Reporter Recorder :=
      { batcher := .new {} hostname syncEvery, filter, mode, units }
    let before := (reporter.live requests).batcher
    let after := (reporter.live (requests ++ [.stop])).batcher
    let rows := after.sink.takenLines
    ((plain.live requests).batcher = before.forget ∧
      (plain.live (requests ++ [.stop])).batcher = after.forget ∧
      (plain.live requests).drop = after.sink.sink) ∧
    before = (Batcher.logged sink hostname syncEvery).run (reporter.asked requests) ∧
    (∀ events, events <+: reporter.asked requests →
      let batcher := (Batcher.logged sink hostname syncEvery).run events
      let rows := batcher.sink.takenLines
      rows.length = batcher.stats.rowsEmitted ∧
      (∀ stream, batcher.stream = some stream → Behind start (Journal.logPath directory stream)
        batcher.sink.sink rows (rows.length % max syncEvery 1)) ∧
      (batcher.stream = none → rows = [] ∧
        ∀ place, batcher.sink.sink.disk.content? place = start.content? place)) ∧
    (rows.length = after.stats.rowsEmitted ∧
      (∀ stream, before.stream = some stream →
        Complete start (Journal.logPath directory stream) after.sink.sink rows) ∧
      (before.stream = none → rows = [] ∧
        ∀ place, after.sink.sink.disk.content? place = start.content? place)) ∧
    ((∀ stream, (.opened stream, false) ∉ after.sink.trace) →
      (recorded.live requests).drop.lines = rows) := by
  intro sink reporter plain recorded before after rows
  have unstopped : .stop ∉ reporter.asked requests := mt stop_mem_asked.mp running
  have alike : plain.asked = reporter.asked := funext (asked_congr rfl rfl rfl)
  have alsoAlike : recorded.asked = reporter.asked := funext (asked_congr rfl rfl rfl)
  have lived : before = (Batcher.logged sink hostname syncEvery).run (reporter.asked requests) :=
    logged_live sink hostname syncEvery filter mode units requests
  have stopAsked : reporter.asked (requests ++ [.stop]) = reporter.asked requests ++ [.stop] :=
    asked_append reporter running [.stop]
  have ended : after =
      (Batcher.logged sink hostname syncEvery).run (reporter.asked requests ++ [.stop]) := by
    rw [← stopAsked]
    exact logged_live sink hostname syncEvery filter mode units (requests ++ [.stop])
  have stopped : after = before.stop := by
    rw [ended, Batcher.run_concat, ← lived]
    rfl
  obtain ⟨fine, counted, complete, untouched⟩ :=
    complete_of_run directory hostname syncEvery healthy unstopped
  rw [← lived, ← stopped] at fine counted complete untouched
  refine ⟨⟨?_, ?_, ?_⟩, lived, fun points early => ?_, ⟨counted, complete, untouched⟩,
    fun unrefused => ?_⟩
  · rw [live_of_new rfl, alike, lived, run_forget]
  · rw [live_of_new rfl, alike, stopAsked, ended, run_forget]
  · rw [drop_of_new rfl, alike, ← run_forget, ← ended]
    rfl
  · exact behind_of_run directory hostname syncEvery healthy (mt (early.subset ·) unstopped)
  · have flawless : ∀ made ∈ after.sink.trace, made.2 = true := by
      intro made member
      refine (fine made member).elim id fun ⟨stream, opened⟩ => ?_
      rcases made with ⟨call, _ | _⟩
      · cases opened
        exact absurd member (unrefused stream)
      · rfl
    rw [ended] at flawless
    rw [drop_of_new rfl, alsoAlike, run_ofLog _ _ _ _ flawless, ← ended]

end Life

/-- A report of a count of jobs. -/
def jobsReport (millis jobs : Int64) : Request :=
  .report ⟨millis⟩ { counters := ⟨[("app-1.1.pool.jobs", ⟨jobs⟩)], List.pairwise_singleton _ _⟩ }

/-- Two seconds are two rows of a new file; the second one comes with the stop. -/
theorem two_rows_are_in_the_file :
    let requests := [jobsReport 1000 4, jobsReport 2000 5]
    let plain : Reporter Journal :=
      { batcher := .new { directory := ⟨"out"⟩, disk := {} } "host" 20 }
    ({} : Disk).Healthy ∧ .stop ∉ requests ∧
    Complete {} ⟨"out/app-1/host_1.json"⟩ (plain.live requests).drop
      ["\x7b\"timestamp\":1,\"values\":\x7b\"jobs\":4\x7d,\"host\":\"host_1\"\x7d",
        "\x7b\"timestamp\":2,\"values\":\x7b\"jobs\":5\x7d,\"host\":\"host_1\"\x7d"] := by
  intro requests plain
  have running : .stop ∉ requests := by simp [requests, jobsReport]
  have adopted : ((logged ({ directory := ⟨"out"⟩, disk := {} } : Journal) "host" 20 .everything
      .primary {}).live requests).batcher.stream = some (.of ⟨"app-1"⟩ ⟨"1"⟩ "host") := by
    decide +kernel
  have path : Journal.logPath ⟨"out"⟩ (.of ⟨"app-1"⟩ ⟨"1"⟩ "host") = ⟨"out/app-1/host_1.json"⟩ := by
    decide +kernel
  have rows : ((logged ({ directory := ⟨"out"⟩, disk := {} } : Journal) "host" 20 .everything
      .primary {}).live (requests ++ [.stop])).batcher.sink.takenLines =
      ["\x7b\"timestamp\":1,\"values\":\x7b\"jobs\":4\x7d,\"host\":\"host_1\"\x7d",
        "\x7b\"timestamp\":2,\"values\":\x7b\"jobs\":5\x7d,\"host\":\"host_1\"\x7d"] := by
    decide +kernel
  obtain ⟨⟨_, _, left⟩, _, _, ⟨_, complete, _⟩, _⟩ :=
    rows_reach_the_file ⟨"out"⟩ "host" 20 Disk.new_healthy .everything .primary {} requests running
  have whole := complete _ adopted
  rw [path, rows, ← left] at whole
  exact ⟨Disk.new_healthy, running, whole⟩

end Reporter

end MetricRelay

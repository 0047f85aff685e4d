/-
**The cadence of durability.**

A batcher asks its sink for durability right after every row that completes a group of `syncEvery`
rows, and at no other time. Only rows count that the sink took and that a sample of another second
made due: a refused row, an empty batch and the row of the stop leave the cadence alone.

* `Cadence.Rhythm`: calls that keep the cadence, built up row by row;
* `Batcher.sampleCalls`: the calls that the samples of a run make;
* `Batcher.Paced`: what a batcher has counted of these calls. Every step keeps it.

Main statement: `Batcher.syncs_keep_cadence`.
-/

import Mathlib.Data.List.Infix
import MetricRelay.Proofs.Batch.Cases

namespace MetricRelay

namespace Cadence

/-! ### Calls in rhythm -/

/-- A row that the sink took. -/
def isRow : SinkCall × Bool → Bool
  | (.emitted _, true) => true
  | _ => false

/-- A request for durability. -/
def isRequest : SinkCall × Bool → Bool
  | (.synced, _) => true
  | _ => false

/-- How many rows the sink took. -/
def rows (calls : Trace) : Nat :=
  calls.countP isRow

/-- How often durability was asked for. -/
def requests (calls : Trace) : Nat :=
  calls.countP isRequest

/-- Calls that ask for durability right after each row that completes a group of `every` rows, and
at no other time. -/
inductive Rhythm (every : Nat) : Trace → Prop where
  | start : Rhythm every []
  /-- Neither a row nor a request. -/
  | aside {calls : Trace} (before : Rhythm every calls) (call : SinkCall × Bool)
      (noRow : isRow call = false) (noRequest : isRequest call = false) :
      Rhythm every (calls ++ [call])
  | early {calls : Trace} (before : Rhythm every calls) (line : String)
      (incomplete : ¬ every ∣ rows calls + 1) : Rhythm every (calls ++ [(.emitted line, true)])
  | due {calls : Trace} (before : Rhythm every calls) (line : String) (succeeded : Bool)
      (complete : every ∣ rows calls + 1) :
      Rhythm every (calls ++ [(.emitted line, true)] ++ [(.synced, succeeded)])

@[simp] theorem rows_append (first later : Trace) : rows (first ++ later) = rows first + rows later :=
  List.countP_append

@[simp] theorem requests_append (first later : Trace) :
    requests (first ++ later) = requests first + requests later :=
  List.countP_append

@[simp] theorem rows_nil : rows [] = 0 := rfl

@[simp] theorem requests_nil : requests [] = 0 := rfl

@[simp] theorem rows_cons (call : SinkCall × Bool) (rest : Trace) :
    rows (call :: rest) = rows rest + (isRow call).toNat := by
  cases taken : isRow call <;> simp [rows, taken]

@[simp] theorem requests_cons (call : SinkCall × Bool) (rest : Trace) :
    requests (call :: rest) = requests rest + (isRequest call).toNat := by
  cases asked : isRequest call <;> simp [requests, asked]

variable {every : Nat} {calls : Trace}

/-- **Requests are as many as complete groups of rows.** -/
theorem Rhythm.requests_eq (rhythm : Rhythm every calls) : requests calls = rows calls / every := by
  induction rhythm with
  | start => exact (Nat.zero_div every).symm
  | aside before call noRow noRequest ih => simp [noRow, noRequest, ih]
  | early before line incomplete ih =>
    have next := Nat.succ_div_of_not_dvd incomplete
    simp [isRow, isRequest, ih, next]
  | due before line succeeded complete ih =>
    have next := Nat.succ_div_of_dvd complete
    simp [isRow, isRequest, ih, next]

/-- **A request follows the row that completes its group.** -/
theorem Rhythm.row_before_request (rhythm : Rhythm every calls) {before : Trace}
    {succeeded : Bool} (asked : before ++ [(.synced, succeeded)] <+: calls) :
    (∃ line, before.getLast? = some (.emitted line, true)) ∧
      rows before = (requests before + 1) * every := by
  induction rhythm with
  | start => simp at asked
  | aside _ call _ noRequest ih =>
    rcases List.prefix_concat_iff.mp asked with whole | earlier
    · obtain ⟨_, rfl⟩ := List.append_inj' whole rfl |>.imp_right List.singleton_inj.mp
      cases noRequest
    · exact ih earlier
  | early _ line _ ih =>
    rcases List.prefix_concat_iff.mp asked with whole | earlier
    · cases (List.append_inj' whole rfl).2
    · exact ih earlier
  | due rhythm line outcome complete ih =>
    rcases List.prefix_concat_iff.mp asked with whole | earlier
    · obtain ⟨rfl, _⟩ := List.append_inj' whole rfl
      refine ⟨⟨line, by simp⟩, ?_⟩
      have groups := Nat.succ_div_of_dvd complete
      have exact := Nat.div_mul_cancel complete
      rw [groups] at exact
      simpa [isRow, isRequest, rhythm.requests_eq] using exact.symm
    · rcases List.prefix_concat_iff.mp earlier with whole | earlier
      · cases (List.append_inj' whole rfl).2
      · exact ih earlier

/-- **A row that completes a group is followed by a request.** -/
theorem Rhythm.request_after_row (rhythm : Rhythm every calls) {before : Trace} {line : String}
    (taken : before ++ [(.emitted line, true)] <+: calls) (complete : every ∣ rows before + 1) :
    ∃ succeeded, before ++ [(.emitted line, true)] ++ [(.synced, succeeded)] <+: calls := by
  induction rhythm with
  | start => simp at taken
  | aside _ call noRow _ ih =>
    rcases List.prefix_concat_iff.mp taken with whole | earlier
    · obtain ⟨_, rfl⟩ := List.append_inj' whole rfl |>.imp_right List.singleton_inj.mp
      cases noRow
    · obtain ⟨succeeded, followed⟩ := ih earlier
      exact ⟨succeeded, followed.trans (List.prefix_append _ _)⟩
  | early _ other incomplete ih =>
    rcases List.prefix_concat_iff.mp taken with whole | earlier
    · obtain ⟨rfl, _⟩ := List.append_inj' whole rfl
      exact absurd complete incomplete
    · obtain ⟨succeeded, followed⟩ := ih earlier
      exact ⟨succeeded, followed.trans (List.prefix_append _ _)⟩
  | due _ other outcome _ ih =>
    rcases List.prefix_concat_iff.mp taken with whole | earlier
    · cases (List.append_inj' whole rfl).2
    · rcases List.prefix_concat_iff.mp earlier with whole | earlier
      · exact ⟨outcome, by rw [whole]⟩
      · obtain ⟨succeeded, followed⟩ := ih earlier
        rw [List.append_assoc]
        exact ⟨succeeded, followed.trans (List.prefix_append _ _)⟩

/-- Every request succeeded or failed. -/
theorem requests_eq_count (calls : Trace) :
    requests calls = calls.count (.synced, true) + calls.count (.synced, false) := by
  induction calls with
  | nil => rfl
  | cons call rest ih =>
    obtain ⟨made, succeeded⟩ := call
    cases made <;> cases succeeded <;> simp [isRequest, ih] <;> omega

end Cadence

namespace Batcher

open Cadence

variable {σ : Type} [Sink σ]

/-! ### The calls of samples -/

/-- The calls that an event makes. -/
def callsOf (batcher : Batcher (Logged σ)) (event : Event) : Trace :=
  (batcher.next event).sink.trace.drop batcher.sink.trace.length

/-- The calls that an event makes, if it is a sample. -/
def sampleCallsOf (batcher : Batcher (Logged σ)) : Event → Trace
  | .offer sample => batcher.callsOf (.offer sample)
  | .cycle | .stop => []

/-- The calls that the samples of a run make. -/
def sampleCalls (batcher : Batcher (Logged σ)) : List Event → Trace
  | [] => []
  | event :: rest => batcher.sampleCallsOf event ++ (batcher.next event).sampleCalls rest

@[simp] theorem sampleCalls_concat (batcher : Batcher (Logged σ)) (events : List Event)
    (event : Event) : batcher.sampleCalls (events ++ [event]) =
      batcher.sampleCalls events ++ (batcher.run events).sampleCallsOf event := by
  induction events generalizing batcher with
  | nil => exact List.append_nil _
  | cons first rest ih =>
    rw [List.cons_append, sampleCalls, sampleCalls, ih, List.append_assoc]
    rfl

/-! ### Steps -/

/-- What a batcher counts of the calls that it makes. -/
structure Counts (before after : Batcher (Logged σ)) (made : Trace) : Prop where
  trace : after.sink.trace = before.sink.trace ++ made
  rows : after.stats.rowsEmitted = before.stats.rowsEmitted + rows made
  syncs : after.stats.syncs = before.stats.syncs + made.count (.synced, true)
  failures : after.stats.syncFailures = before.stats.syncFailures + made.count (.synced, false)

/-- Calls that keep the cadence, if those before did and their rows were counted. -/
def InRhythm (batcher : Batcher (Logged σ)) (made : Trace) : Prop :=
  batcher.stats.rowsEmitted = rows batcher.sink.trace →
    Rhythm batcher.syncEvery batcher.sink.trace →
    Rhythm batcher.syncEvery (batcher.sink.trace ++ made)

omit [Sink σ] in
theorem Counts.none {before after : Batcher (Logged σ)} (sink : after.sink = before.sink)
    (rows : after.stats.rowsEmitted = before.stats.rowsEmitted)
    (syncs : after.stats.syncs = before.stats.syncs)
    (failures : after.stats.syncFailures = before.stats.syncFailures) : Counts before after [] where
  trace := by rw [sink, List.append_nil]
  rows := rows
  syncs := syncs
  failures := failures

omit [Sink σ] in
/-- Merging a sample makes no call. -/
theorem Counts.merge {before after : Batcher (Logged σ)} {made : Trace}
    (counts : Counts before after made) (path : List String) (value : Measure) (offer : Offer) :
    Counts before (after.mergeSample path value offer).2 made := by
  obtain ⟨stats, merged, rows, _, syncs, failures⟩ := mergeSample_frame after path value offer
  rw [merged]
  exact ⟨counts.trace, rows.trans counts.rows, syncs.trans counts.syncs,
    failures.trans counts.failures⟩

omit [Sink σ] in
theorem InRhythm.none (batcher : Batcher (Logged σ)) : batcher.InRhythm [] := by
  intro _ rhythm
  rwa [List.append_nil]

/-- **Closing a batch** hands over its row, and keeps the cadence. -/
theorem Closing.counts {batcher : Batcher (Logged σ)} {stream : StreamKey} {timestamp : Int}
    {result : Bool × Batcher (Logged σ)} (closing : Closing batcher stream timestamp result) :
    ∃ made, Counts batcher result.2 made ∧ batcher.InRhythm made := by
  let line := Row.line ⟨timestamp, batcher.record, stream.host⟩
  have isDue (emitted : batcher.stats.rowsEmitted = rows batcher.sink.trace) :
      (batcher.stats.rowsEmitted + 1) % batcher.syncEvery = 0 ↔
        batcher.syncEvery ∣ rows batcher.sink.trace + 1 := by
    rw [emitted, Nat.dvd_iff_mod_eq_zero]
  cases closing with
  | empty void => exact ⟨[], .none rfl rfl rfl rfl, .none batcher⟩
  | lost failure sink full emit =>
    refine ⟨[(.emitted line, false)],
      ⟨Logged.trace_of_perform (.emitted line) emit, rfl, rfl, rfl⟩, fun _ rhythm => ?_⟩
    exact rhythm.aside _ rfl rfl
  | delivered sink full emit early =>
    refine ⟨[(.emitted line, true)],
      ⟨Logged.trace_of_perform (.emitted line) emit, rfl, rfl, rfl⟩, fun emitted rhythm => ?_⟩
    exact rhythm.early line (mt (isDue emitted).mpr early)
  | settled sink after full emit due sync =>
    refine ⟨[(.emitted line, true)] ++ [(.synced, true)], ⟨?_, rfl, rfl, rfl⟩,
      fun emitted rhythm => ?_⟩
    · rw [Logged.trace_of_perform .synced sync, Logged.trace_of_perform (.emitted line) emit,
        List.append_assoc]
      rfl
    · rw [← List.append_assoc]
      exact rhythm.due line true ((isDue emitted).mp due)
  | unsettled sink after failure full emit due sync =>
    refine ⟨[(.emitted line, true)] ++ [(.synced, false)], ⟨?_, rfl, rfl, rfl⟩,
      fun emitted rhythm => ?_⟩
    · rw [Logged.trace_of_perform .synced sync, Logged.trace_of_perform (.emitted line) emit,
        List.append_assoc]
      rfl
    · rw [← List.append_assoc]
      exact rhythm.due line false ((isDue emitted).mp due)

/-- **Taking a sample** keeps the cadence, and delivers a row only when its second is another one
than that of the open batch. -/
theorem Taking.counts {batcher : Batcher (Logged σ)} {sample : Offered}
    {result : Offer × Batcher (Logged σ)} (taking : Taking batcher sample result) :
    ∃ made, Counts batcher result.2 made ∧ batcher.InRhythm made ∧
      (rows made ≠ 0 → ∃ before, batcher.phase = .collecting before ∧
        before ≠ sample.timestamp) := by
  cases taking with
  | stopped | waiting | foreign =>
    exact ⟨[], .none rfl rfl rfl rfl, .none batcher, fun delivered => absurd rfl delivered⟩
  | refused failure sink phase ready call =>
    exact ⟨[(.opened _, false)], ⟨Logged.trace_of_perform (.opened _) call, rfl, rfl, rfl⟩,
      fun _ rhythm => rhythm.aside _ rfl rfl, fun delivered => absurd rfl delivered⟩
  | adopted sink phase ready call =>
    refine ⟨[(.opened (sample.stream batcher.hostname), true)], .merge ?_ _ _ _,
      fun _ rhythm => rhythm.aside _ rfl rfl, fun delivered => absurd rfl delivered⟩
    exact ⟨Logged.trace_of_perform (.opened _) call, rfl, rfl, rfl⟩
  | joined phase own =>
    exact ⟨[], .merge (.none rfl rfl rfl rfl) _ _ _, .none batcher,
      fun delivered => absurd rfl delivered⟩
  | rolled before emitted closed phase own different closing =>
    obtain ⟨made, counts, rhythm⟩ := closing.counts
    have begun : Counts batcher { closed with phase := .collecting sample.timestamp } made :=
      ⟨counts.trace, counts.rows, counts.syncs, counts.failures⟩
    exact ⟨made, begun.merge _ _ _, rhythm, fun _ => ⟨before, phase, different⟩⟩

/-- **Stopping** asks for no durability. -/
theorem Stopping.counts {batcher after : Batcher (Logged σ)} (stopping : Stopping batcher after) :
    ∃ made, Counts batcher after made ∧ requests made = 0 := by
  cases stopping with
  | again | unused => exact ⟨[], .none rfl rfl rfl rfl, rfl⟩
  | empty stream before result sink phase known void close =>
    exact ⟨[(.closed, result.toBool)], ⟨Logged.trace_of_perform .closed close, rfl, rfl, rfl⟩, rfl⟩
  | lost stream before failure result sink after phase known full emit close =>
    let line := Row.line ⟨before, batcher.record, stream.host⟩
    refine ⟨[(.emitted line, false), (.closed, result.toBool)], ⟨?_, rfl, rfl, rfl⟩, rfl⟩
    rw [Logged.trace_of_perform .closed close, Logged.trace_of_perform (.emitted line) emit,
      List.append_assoc]
    rfl
  | delivered stream before result sink after phase known full emit close =>
    let line := Row.line ⟨before, batcher.record, stream.host⟩
    refine ⟨[(.emitted line, true), (.closed, result.toBool)], ⟨?_, rfl, rfl, rfl⟩, rfl⟩
    rw [Logged.trace_of_perform .closed close, Logged.trace_of_perform (.emitted line) emit,
      List.append_assoc]
    rfl

/-- The calls of an event, and what is counted of them. A sample keeps the cadence, and nothing else
asks for durability. -/
structure Beat (batcher : Batcher (Logged σ)) (event : Event) : Prop where
  counts : Counts batcher (batcher.next event) (batcher.callsOf event)
  rhythm : batcher.InRhythm (batcher.sampleCallsOf event)
  quiet : ∃ others, batcher.callsOf event = batcher.sampleCallsOf event ++ others ∧
    requests others = 0 ∧ (event ≠ .stop → others = [])
  caused : ∀ sample, event = .offer sample → rows (batcher.callsOf event) ≠ 0 →
    ∃ before, batcher.phase = .collecting before ∧ before ≠ sample.timestamp

theorem callsOf_eq {batcher : Batcher (Logged σ)} {event : Event} {made : Trace}
    (counts : Counts batcher (batcher.next event) made) : batcher.callsOf event = made := by
  unfold callsOf
  rw [counts.trace, List.drop_left]

/-- **Every step keeps the cadence.** -/
theorem next_beat {batcher : Batcher (Logged σ)} (consistent : batcher.Consistent)
    (event : Event) : batcher.Beat event := by
  cases event with
  | cycle =>
    have counts : Counts batcher (batcher.next .cycle) [] := .none rfl rfl rfl rfl
    have none_made := callsOf_eq counts
    exact ⟨none_made ▸ counts, .none batcher, ⟨[], none_made, rfl, fun _ => rfl⟩,
      fun sample other => by cases other⟩
  | offer sample =>
    obtain ⟨made, counts, rhythm, caused⟩ := (take_cases consistent sample).counts
    have same : batcher.callsOf (.offer sample) = made := callsOf_eq counts
    refine ⟨same ▸ counts, ?_, ⟨[], (List.append_nil _).symm, rfl, fun _ => rfl⟩, ?_⟩
    · rw [sampleCallsOf, same]
      exact rhythm
    · rintro other ⟨⟩ delivered
      exact caused (same ▸ delivered)
  | stop =>
    obtain ⟨made, counts, silent⟩ := (stop_cases consistent).counts
    have same : batcher.callsOf .stop = made := callsOf_eq counts
    exact ⟨same ▸ counts, .none batcher, ⟨made, same, silent, fun running => absurd rfl running⟩,
      fun sample other => by cases other⟩

/-! ### Runs -/

/-- What a batcher has counted of its calls, and the calls of its samples among them. -/
structure Paced (batcher : Batcher (Logged σ)) (calls : Trace) : Prop where
  rhythm : Rhythm batcher.syncEvery calls
  rows : batcher.stats.rowsEmitted = rows batcher.sink.trace
  syncs : batcher.stats.syncs = batcher.sink.trace.count (.synced, true)
  failures : batcher.stats.syncFailures = batcher.sink.trace.count (.synced, false)
  quiet : ∃ others, batcher.sink.trace = calls ++ others ∧ requests others = 0 ∧
    (batcher.phase ≠ .stopped → others = [])

theorem sampleCallsOf_of_stopped {batcher : Batcher (Logged σ)} (phase : batcher.phase = .stopped)
    (event : Event) : batcher.sampleCallsOf event = [] := by
  cases event with
  | cycle | stop => rfl
  | offer sample =>
    have same : batcher.next (.offer sample) = batcher := congrArg Prod.snd
      (take_of_stopped phase sample)
    exact callsOf_eq (by rw [same]; exact .none rfl rfl rfl rfl)

/-- **A step keeps what a batcher has counted.** -/
theorem Paced.next {batcher : Batcher (Logged σ)} {calls : Trace} (paced : batcher.Paced calls)
    (consistent : batcher.Consistent) (event : Event) :
    (batcher.next event).Paced (calls ++ batcher.sampleCallsOf event) := by
  obtain ⟨counts, rhythm, ⟨more, callsOf, moreQuiet, noMore⟩, _⟩ := next_beat consistent event
  obtain ⟨others, trace, quiet, running⟩ := paced.quiet
  refine ⟨?_, ?_, ?_, ?_, ?_⟩
  · rw [(next_frame consistent event).2]
    by_cases phase : batcher.phase = .stopped
    · rw [sampleCallsOf_of_stopped phase, List.append_nil]
      exact paced.rhythm
    · rw [running phase, List.append_nil] at trace
      rw [← trace]
      exact rhythm paced.rows (trace ▸ paced.rhythm)
  · rw [counts.rows, counts.trace, rows_append, paced.rows]
  · rw [counts.syncs, counts.trace, List.count_append, paced.syncs]
  · rw [counts.failures, counts.trace, List.count_append, paced.failures]
  · by_cases phase : batcher.phase = .stopped
    · refine ⟨others ++ more, ?_, by rw [requests_append, quiet, moreQuiet], fun active => ?_⟩
      · rw [counts.trace, trace, callsOf, sampleCallsOf_of_stopped phase]
        simp
      · exact absurd ((next_stopped_iff consistent event).mpr (.inl phase)) active
    · refine ⟨more, ?_, moreQuiet, fun active => noMore fun stopping => active ?_⟩
      · rw [counts.trace, trace, callsOf, running phase, List.append_nil, List.append_assoc]
      · exact (next_stopped_iff consistent event).mpr (.inr stopping)

/-- **In every run a batcher has counted its calls.** -/
theorem run_paced (sink : σ) (hostname : String) (syncEvery : Nat) (events : List Event) :
    ((logged sink hostname syncEvery).run events).Paced
      ((logged sink hostname syncEvery).sampleCalls events) := by
  induction events using List.reverseRecOn with
  | nil => exact ⟨.start, rfl, rfl, rfl, [], rfl, rfl, fun _ => rfl⟩
  | append_singleton events event ih =>
    rw [run_concat, sampleCalls_concat]
    exact ih.next (logged_consistent sink hostname syncEvery events) event

/-- **Durability is asked for after every group of rows, and at no other time.** Let a batcher be
asked for any events, over a sink that succeeds and fails as it likes, and let a group be
`syncEvery` rows, or one row if that is zero. At every point of the run

* the counters of requests are those of the calls that were made, and together they are as many as
  complete groups of rows that the sink took from samples;
* a request follows immediately after the row that completes its group, and that row is followed by
  nothing else;
* a sample makes a row be delivered only if its second is another one than that of the open batch;
* an event without a row that a sample made the sink take asks for no durability, and the row of a
  stop is not among those that are counted here. -/
theorem syncs_keep_cadence (sink : σ) (hostname : String) (syncEvery : Nat)
    (events : List Event) :
    let every := max syncEvery 1
    let batcher := (logged sink hostname syncEvery).run events
    let calls := (logged sink hostname syncEvery).sampleCalls events
    batcher.stats.syncs = batcher.sink.trace.count (.synced, true) ∧
    batcher.stats.syncFailures = batcher.sink.trace.count (.synced, false) ∧
    batcher.stats.syncs + batcher.stats.syncFailures = rows calls / every ∧
    (∃ others, batcher.sink.trace = calls ++ others ∧ requests others = 0 ∧
      (.stop ∉ events → others = [])) ∧
    (∀ before succeeded, before ++ [(.synced, succeeded)] <+: calls →
      (∃ line, before.getLast? = some (.emitted line, true)) ∧
        rows before = (requests before + 1) * every) ∧
    (∀ before line, before ++ [(.emitted line, true)] <+: calls → every ∣ rows before + 1 →
      ∃ succeeded, before ++ [(.emitted line, true)] ++ [(.synced, succeeded)] <+: calls) ∧
    (∀ sample, rows (batcher.callsOf (.offer sample)) ≠ 0 →
      ∃ before, batcher.phase = .collecting before ∧ before ≠ sample.timestamp) ∧
    ∀ event, rows (batcher.sampleCallsOf event) = 0 → requests (batcher.callsOf event) = 0 := by
  intro every batcher calls
  have consistent : batcher.Consistent := logged_consistent sink hostname syncEvery events
  have paced : batcher.Paced calls := run_paced sink hostname syncEvery events
  have rhythm : Rhythm every calls := by
    have kept := paced.rhythm
    rwa [logged_syncEvery sink hostname syncEvery events] at kept
  obtain ⟨others, trace, quiet, running⟩ := paced.quiet
  have requests_eq : requests batcher.sink.trace = rows calls / every := by
    rw [trace, requests_append, quiet, Nat.add_zero, rhythm.requests_eq]
  refine ⟨paced.syncs, paced.failures, ?_, ⟨others, trace, quiet, fun active => running ?_⟩,
    fun before succeeded => rhythm.row_before_request, fun before line => rhythm.request_after_row,
    fun sample => (next_beat consistent (.offer sample)).caused sample rfl, fun event rowless => ?_⟩
  · rw [paced.syncs, paced.failures, ← requests_eq_count, requests_eq]
  · exact fun stopped => active ((logged_stopped_iff sink hostname syncEvery events).mp stopped)
  · -- Without a row the next calls are in rhythm only if they ask for nothing.
    obtain ⟨more, callsOf, moreQuiet, _⟩ := (next_beat consistent event).quiet
    have later := (paced.next consistent event).rhythm.requests_eq
    rw [rows_append, rowless, Nat.add_zero, requests_append, rhythm.requests_eq,
      (next_frame consistent event).2, logged_syncEvery sink hostname syncEvery events] at later
    rw [callsOf, requests_append, moreQuiet, Nat.add_zero]
    exact Nat.add_eq_left.mp later

end Batcher

end MetricRelay

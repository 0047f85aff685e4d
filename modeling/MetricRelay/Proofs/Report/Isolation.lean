/-
**Noise reaches no row.**

Metrics that the filter hides, that belong to no stream, or that belong to another stream than the
one that was adopted are noise. Two runs are compared here, one with and one without them.

* `Snapshot.select`: a snapshot with some of its metrics only, and what it shows
  (`Snapshot.samples_select`);
* `Batcher.withoutForeign`: a batcher but for the number of foreign samples that it dropped. That
  number is all that foreign samples change, once a stream was adopted (`Batcher.run_filter_own`);
* `Batcher.Adopts`: the stream that was opened is the one of all samples that were taken.

Main statement: `Reporter.noise_reaches_no_row`.
-/

import MetricRelay.Proofs.Batch.Grouping
import MetricRelay.Proofs.Batch.Protocol

namespace MetricRelay

/-! ### Some metrics of a snapshot -/

/-- The entries whose names pass a test. -/
def Table.select {α : Type} (keep : String → Bool) (table : Table α) : Table α :=
  ⟨table.entries.filter fun entry => keep entry.1, table.increasing.filter _⟩

namespace Snapshot

/-- The metrics whose names and kinds pass a test. -/
def select (keep : String → MetricKind → Bool) (snapshot : Snapshot) : Snapshot where
  gauges := snapshot.gauges.select fun name => keep name .gauge
  counters := snapshot.counters.select fun name => keep name .counter
  histograms := snapshot.histograms.select fun name => keep name .histogram
  meters := snapshot.meters.select fun name => keep name .meter
  timers := snapshot.timers.select fun name => keep name .timer

theorem tableSamples_select {α : Type} (keep : String → MetricKind → Bool) (kind : MetricKind)
    (display : α → Measure) (table : Table α) :
    tableSamples kind display (table.select fun name => keep name kind) =
      (tableSamples kind display table).filter fun sample => keep sample.name sample.kind := by
  unfold tableSamples Table.select
  rw [List.filter_map]
  rfl

/-- **What is shown of some metrics** is what is shown of them among all. -/
theorem samples_select (keep : String → MetricKind → Bool) (snapshot : Snapshot)
    (mode : ValueMode) (units : Units) :
    (snapshot.select keep).samples mode units =
      (snapshot.samples mode units).filter fun sample => keep sample.name sample.kind := by
  unfold samples select
  simp only [tableSamples_select, List.filter_append]

end Snapshot

/-- The request with some metrics only. -/
def Request.select (keep : String → MetricKind → Bool) : Request → Request
  | .report clock snapshot => .report clock (snapshot.select keep)
  | .stop => .stop

/-- The filter shows the metric, and it belongs to a stream. -/
def Filter.showsRouted (filter : Filter) (name : String) (kind : MetricKind) : Bool :=
  filter.accepts name kind && (Route.ofName? name).isSome

/-- The metric does not belong to another stream. -/
def StreamKey.keeps (stream : StreamKey) (name : String) (_ : MetricKind) : Bool :=
  (Route.ofName? name).all fun route => Batcher.isOwn stream route

/-- The event is no sample of another stream. -/
def Event.isOwn (stream : StreamKey) : Event → Bool
  | .offer sample => Batcher.isOwn stream sample.route
  | .cycle | .stop => true

namespace Batcher

variable {σ : Type}

/-! ### The number of foreign samples -/

/-- The batcher with another number of foreign samples. -/
def withForeign (dropped : Nat) (batcher : Batcher σ) : Batcher σ :=
  { batcher with stats := { batcher.stats with droppedForeign := dropped } }

/-- The batcher but for the number of foreign samples that it dropped. -/
def withoutForeign (batcher : Batcher σ) : Batcher σ :=
  batcher.withForeign 0

variable [Sink σ]

/-- Closing a batch neither reads nor changes the number of foreign samples. -/
theorem Closing.withForeign {batcher : Batcher σ} {stream : StreamKey} {timestamp : Int}
    {result : Bool × Batcher σ} (closing : Closing batcher stream timestamp result)
    (dropped : Nat) :
    Closing (batcher.withForeign dropped) stream timestamp
      (result.1, result.2.withForeign dropped) := by
  cases closing with
  | empty void => exact .empty void
  | lost failure sink full emit => exact .lost failure sink full emit
  | delivered sink full emit early => exact .delivered sink full emit early
  | settled sink after full emit due sync => exact .settled sink after full emit due sync
  | unsettled sink after failure full emit due sync =>
    exact .unsettled sink after failure full emit due sync

omit [Sink σ] in
theorem mergeSample_withForeign (dropped : Nat) (batcher : Batcher σ) (path : List String)
    (value : Measure) (offer : Offer) :
    (batcher.withForeign dropped).mergeSample path value offer =
      ((batcher.mergeSample path value offer).1,
        (batcher.mergeSample path value offer).2.withForeign dropped) := by
  unfold mergeSample
  simp only [show (batcher.withForeign dropped).record = batcher.record from rfl]
  rcases batcher.record.merge path value with ⟨record, outcome⟩
  cases outcome <;> rfl

theorem Taking.withForeign {batcher : Batcher σ} {sample : Offered} {result : Offer × Batcher σ}
    (taking : Taking batcher sample result) (dropped : Nat) :
    ∃ droppedAfter, Taking (batcher.withForeign dropped) sample
      (result.1, result.2.withForeign droppedAfter) := by
  cases taking with
  | stopped phase => exact ⟨dropped, .stopped phase⟩
  | waiting phase failed => exact ⟨dropped, .waiting phase failed⟩
  | refused failure sink phase ready call => exact ⟨dropped, .refused failure sink phase ready call⟩
  | adopted sink phase ready call =>
    refine ⟨dropped, ?_⟩
    rw [← mergeSample_withForeign]
    exact .adopted sink phase ready call
  | foreign stream before phase known other =>
    exact ⟨dropped + 1, .foreign stream before phase known other⟩
  | joined phase own =>
    refine ⟨dropped, ?_⟩
    rw [← mergeSample_withForeign]
    exact .joined phase own
  | rolled before emitted closed phase own different closing =>
    refine ⟨dropped, ?_⟩
    rw [← mergeSample_withForeign]
    exact .rolled before emitted (closed.withForeign dropped) phase own different
      (closing.withForeign dropped)

theorem Stopping.withForeign {batcher after : Batcher σ} (stopping : Stopping batcher after)
    (dropped : Nat) : Stopping (batcher.withForeign dropped) (after.withForeign dropped) := by
  cases stopping with
  | again phase => exact .again phase
  | unused phase => exact .unused phase
  | empty stream before result sink phase known void close =>
    exact .empty stream before result sink phase known void close
  | lost stream before failure result sink after phase known full emit close =>
    exact .lost stream before failure result sink after phase known full emit close
  | delivered stream before result sink after phase known full emit close =>
    exact .delivered stream before result sink after phase known full emit close

/-- **No step reads the number of foreign samples.** -/
theorem next_withForeign {batcher : Batcher σ} (consistent : batcher.Consistent) (event : Event)
    (dropped : Nat) : ∃ droppedAfter,
      (batcher.withForeign dropped).next event = (batcher.next event).withForeign droppedAfter := by
  have alike : (batcher.withForeign dropped).Consistent := consistent
  cases event with
  | cycle => exact ⟨dropped, rfl⟩
  | offer sample =>
    obtain ⟨droppedAfter, taken⟩ := (take_cases consistent sample).withForeign dropped
    exact ⟨droppedAfter, congrArg Prod.snd (taken.eq alike)⟩
  | stop => exact ⟨dropped, ((stop_cases consistent).withForeign dropped).eq alike⟩

/-! ### Samples of other streams -/

/-- The batcher takes no samples but those of a stream, now and later. -/
def Settled (batcher : Batcher σ) (stream : StreamKey) : Prop :=
  batcher.phase = .stopped ∨ batcher.stream = some stream

theorem next_settled {batcher : Batcher σ} (consistent : batcher.Consistent) {stream : StreamKey}
    (settled : batcher.Settled stream) (event : Event) : (batcher.next event).Settled stream := by
  rcases settled with stopped | known
  · exact .inl ((next_stopped_iff consistent event).mpr (.inl stopped))
  · cases event with
    | cycle => exact .inr known
    | offer sample => exact .inr ((take_cases consistent sample).keeps_stream consistent known)
    | stop => exact .inl (stop_cases consistent).phase

/-- A sample of another stream changes the number of foreign samples only. -/
theorem next_of_foreign {batcher : Batcher σ} {stream : StreamKey}
    (settled : batcher.Settled stream) {event : Event} (foreign : event.isOwn stream = false) :
    ∃ dropped, batcher.next event = batcher.withForeign dropped := by
  cases event with
  | cycle | stop => cases foreign
  | offer sample =>
    show ∃ dropped, (batcher.offer _ _ _).2 = _
    have other : ¬ Batcher.isOwn stream sample.route = true := Bool.eq_false_iff.mp foreign
    unfold offer
    by_cases stopped : batcher.isStopped = true
    · rw [if_pos stopped]
      exact ⟨batcher.stats.droppedForeign, rfl⟩
    · have known := settled.resolve_left (mt isStopped_iff.mpr stopped)
      rw [if_neg stopped, known]
      simp only [if_neg other]
      exact ⟨batcher.stats.droppedForeign + 1, rfl⟩

/-- **Samples of other streams leave no trace but their number,** once the stream is known. -/
theorem run_filter_own {batcher : Batcher σ} (consistent : batcher.Consistent)
    {stream : StreamKey} (settled : batcher.Settled stream) (events : List Event) (dropped : Nat) :
    ∃ droppedAfter, (batcher.withForeign dropped).run (events.filter (Event.isOwn stream)) =
      (batcher.run events).withForeign droppedAfter := by
  induction events generalizing batcher dropped with
  | nil => exact ⟨dropped, rfl⟩
  | cons event events ih =>
    have later := @ih _ (next_consistent consistent event) (next_settled consistent settled event)
    cases own : event.isOwn stream with
    | true =>
      obtain ⟨between, first⟩ := next_withForeign consistent event dropped
      obtain ⟨droppedAfter, rest⟩ := later between
      rw [List.filter_cons_of_pos own, run_cons, first, rest]
      exact ⟨droppedAfter, rfl⟩
    | false =>
      obtain ⟨droppedAfter, rest⟩ := later dropped
      obtain ⟨counted, same⟩ := next_of_foreign settled own
      rw [List.filter_cons_of_neg (Bool.eq_false_iff.mp own), run_cons]
      refine ⟨droppedAfter, ?_⟩
      rw [← rest, same]
      rfl

/-! ### The cycle that adopts a stream -/

/-- The first sample of a cycle opens the sink, or nothing opens it in this cycle. -/
theorem Taking.adopts_or_waits {batcher : Batcher σ} {sample : Offered}
    {result : Offer × Batcher σ} (taking : Taking batcher sample result)
    (idle : batcher.phase = .idle) :
    (batcher.openFailed = false ∧ result.2.stream = some (sample.stream batcher.hostname)) ∨
      (result.2.phase = .idle ∧ result.2.openFailed = true) := by
  cases taking with
  | waiting phase failed => exact .inr ⟨phase, failed⟩
  | refused failure sink phase ready => exact .inr ⟨phase, rfl⟩
  | adopted sink phase ready => exact .inl ⟨ready, mergeSample_stream _ _ _ _⟩
  | stopped phase | foreign _ _ phase | joined phase | rolled _ _ _ phase =>
    rw [idle] at phase
    cases phase

/-- After a failed open, no sample of the cycle opens the sink. -/
theorem run_of_waiting {batcher : Batcher σ} (consistent : batcher.Consistent)
    (idle : batcher.phase = .idle) (failed : batcher.openFailed = true) (samples : List Offered) :
    (batcher.run (samples.map .offer)).phase = .idle := by
  induction samples generalizing batcher with
  | nil => exact idle
  | cons sample rest ih =>
    rcases (take_cases consistent sample).adopts_or_waits idle with ⟨ready, _⟩ | ⟨waits, fails⟩
    · rw [failed] at ready
      cases ready
    · exact ih (next_consistent consistent (.offer sample)) waits fails

/-- A cycle that adopts a stream adopts that of its first sample. -/
theorem first_adopts {batcher : Batcher σ} (consistent : batcher.Consistent)
    (idle : batcher.phase = .idle) {samples : List Offered}
    (opened : (batcher.run (samples.map .offer)).phase ≠ .idle) :
    ∃ first rest, samples = first :: rest ∧
      (batcher.take first).2.stream = some (first.stream batcher.hostname) := by
  cases samples with
  | nil => exact absurd idle opened
  | cons first rest =>
    rcases (take_cases consistent first).adopts_or_waits idle with ⟨_, known⟩ | ⟨waits, fails⟩
    · exact ⟨first, rest, rfl, known⟩
    · have consistentAfter := next_consistent consistent (.offer first)
      exact absurd (run_of_waiting consistentAfter waits fails rest) opened

theorem run_keeps_stream {batcher : Batcher σ} (consistent : batcher.Consistent)
    {stream : StreamKey} (known : batcher.stream = some stream) (samples : List Offered) :
    (batcher.run (samples.map .offer)).stream = some stream := by
  induction samples generalizing batcher with
  | nil => exact known
  | cons sample rest ih =>
    exact ih (next_consistent consistent (.offer sample))
      ((take_cases consistent sample).keeps_stream consistent known)

/-- **From the cycle that adopts a stream on, samples of other streams leave no trace.** -/
theorem run_filter_of_adopting {batcher : Batcher σ} (consistent : batcher.Consistent)
    (idle : batcher.phase = .idle) {samples : List Offered} {stream : StreamKey}
    (adopted : (batcher.run (.cycle :: samples.map .offer)).stream = some stream)
    (later : List Event) :
    (batcher.run ((.cycle :: samples.map Event.offer ++ later).filter
        (Event.isOwn stream))).withoutForeign =
      (batcher.run (.cycle :: samples.map Event.offer ++ later)).withoutForeign := by
  have ready : (batcher.next .cycle).Consistent := next_consistent consistent .cycle
  have opened : (batcher.run (.cycle :: samples.map .offer)).phase ≠ .idle := by
    intro idle
    have unopened := ready.run (samples.map .offer)
    unfold Consistent at unopened
    rw [← run_cons, idle] at unopened
    rw [unopened.1] at adopted
    cases adopted
  obtain ⟨first, rest, rfl, known⟩ := first_adopts ready idle opened
  have begun := next_consistent ready (.offer first)
  have same : stream = first.stream batcher.hostname := by
    have kept := run_keeps_stream begun known rest
    exact Option.some.inj (adopted.symm.trans kept)
  have own : Event.isOwn stream (.offer first) = true := by
    rw [same]
    exact (isOwn_iff _ _ batcher.hostname first).mpr rfl
  have settled : ((batcher.next .cycle).next (.offer first)).Settled stream := by
    rw [same]
    exact .inr known
  obtain ⟨dropped, filtered⟩ := run_filter_own begun settled (rest.map .offer ++ later)
    ((batcher.next .cycle).next (.offer first)).stats.droppedForeign
  rw [List.cons_append, List.filter_cons_of_pos rfl, List.map_cons, List.cons_append,
    List.filter_cons_of_pos own]
  have alike := congrArg withoutForeign filtered
  exact alike

/-! ### The stream that was opened -/

/-- What was opened, if anything, is the stream of all samples that were taken, and there are some. -/
structure Adopts (batcher : Batcher (Logged σ)) (adopted : Option StreamKey)
    (samples : List Offered) : Prop where
  opened : ∀ stream, (.opened stream, true) ∈ batcher.sink.trace ↔ adopted = some stream
  held : batcher.phase ≠ .stopped → batcher.stream = adopted
  own : ∀ sample ∈ samples, adopted = some (sample.stream batcher.hostname)
  first : ∀ stream ∈ adopted, ∃ sample ∈ samples, sample.stream batcher.hostname = stream

section Adopts

variable {batcher after : Batcher (Logged σ)} {adopted : Option StreamKey}
  {samples : List Offered}

omit [Sink σ] in
/-- Calls that open nothing keep what was opened. -/
theorem Adopts.opened_append (adopts : batcher.Adopts adopted samples) {calls : Trace}
    (traced : after.sink.trace = batcher.sink.trace ++ calls)
    (unopened : Protocol.adoptions calls = 0) (stream : StreamKey) :
    (.opened stream, true) ∈ after.sink.trace ↔ adopted = some stream := by
  have absent : (SinkCall.opened stream, true) ∉ calls := fun member =>
    Protocol.adoptions_eq_zero_iff.mp unopened ⟨stream, member⟩
  rw [traced, List.mem_append, adopts.opened stream]
  exact or_iff_left absent

omit [Sink σ] in
/-- What neither opens the sink nor changes the stream keeps what was adopted. -/
theorem Adopts.keep (adopts : batcher.Adopts adopted samples) {calls : Trace}
    (traced : after.sink.trace = batcher.sink.trace ++ calls)
    (unopened : Protocol.adoptions calls = 0)
    (held : after.phase ≠ .stopped → batcher.phase ≠ .stopped ∧ after.stream = batcher.stream)
    (hostname : after.hostname = batcher.hostname) : after.Adopts adopted samples where
  opened := adopts.opened_append traced unopened
  held running := (held running).2.trans (adopts.held (held running).1)
  own := by
    rw [hostname]
    exact adopts.own
  first := by
    rw [hostname]
    exact adopts.first

omit [Sink σ] in
/-- One more sample of the stream. -/
theorem Adopts.concat (adopts : batcher.Adopts adopted samples) {sample : Offered}
    (own : adopted = some (sample.stream batcher.hostname)) :
    batcher.Adopts adopted (samples ++ [sample]) where
  opened := adopts.opened
  held := adopts.held
  own := by
    intro other member
    rcases List.mem_append.mp member with old | new
    · exact adopts.own other old
    · rw [List.mem_singleton.mp new]
      exact own
  first := by
    intro stream known
    obtain ⟨first, member, same⟩ := adopts.first stream known
    exact ⟨first, List.mem_append_left _ member, same⟩

theorem Taking.adopts (consistent : batcher.Consistent) {sample : Offered}
    {result : Offer × Batcher (Logged σ)} (taking : Taking batcher sample result)
    (adopts : batcher.Adopts adopted samples) :
    ∃ adoptedAfter, result.2.Adopts adoptedAfter
      (samples ++ if result.1.isTaken then [sample] else []) := by
  obtain ⟨calls, moves, traced⟩ := taking.moves
  cases taking with
  | stopped | waiting | foreign =>
    simp only [Offer.isTaken, Bool.false_eq_true, if_false, List.append_nil]
    exact ⟨adopted, adopts.keep (List.append_nil _).symm rfl (fun running => ⟨running, rfl⟩) rfl⟩
  | refused failure sink phase ready call =>
    simp only [Offer.isTaken, Bool.false_eq_true, if_false, List.append_nil]
    exact ⟨adopted, adopts.keep (Logged.trace_of_perform (.opened _) call) rfl
      (fun running => ⟨running, rfl⟩) rfl⟩
  | adopted sink phase ready call =>
    unfold Consistent at consistent
    rw [phase] at consistent
    have unadopted : adopted = none :=
      (adopts.held (by rw [phase]; decide)).symm.trans consistent.1
    have traced := Logged.trace_of_perform (.opened (sample.stream batcher.hostname)) call
    rw [if_pos (mergeSample_isTaken _ _ _ rfl)]
    refine ⟨some (sample.stream batcher.hostname), fun stream => ?_, fun _ => ?_, ?_, ?_⟩
    · rw [mergeSample_sink, traced, List.mem_append, adopts.opened stream, unadopted]
      simp [Except.toBool, eq_comm]
    · rw [mergeSample_stream]
    · rw [mergeSample_hostname]
      intro other member
      rcases List.mem_append.mp member with old | new
      · have some := adopts.own other old
        rw [unadopted] at some
        cases some
      · rw [List.mem_singleton.mp new]
    · rw [mergeSample_hostname]
      intro stream known
      exact ⟨sample, List.mem_append_right _ (List.mem_singleton_self _), Option.some.inj known⟩
  | joined phase own =>
    rw [if_pos (mergeSample_isTaken _ _ _ rfl)]
    have running : batcher.phase ≠ .stopped := by rw [phase]; simp
    have kept := adopts.concat ((adopts.held running).symm.trans own)
    refine ⟨adopted, kept.keep traced ?_ (fun _ => ⟨running, ?_⟩) ?_⟩
    · exact moves.opens_nothing (.inl (by rw [phase]; simp))
    · rw [mergeSample_stream]
    · rw [mergeSample_hostname]
  | rolled before emitted closed phase own different closing =>
    rw [if_pos (mergeSample_isTaken _ _ _ rfl)]
    have running : batcher.phase ≠ .stopped := by rw [phase]; simp
    have kept := adopts.concat ((adopts.held running).symm.trans own)
    obtain ⟨sink, stats, frame⟩ := closing.frame
    simp only at frame
    subst frame
    refine ⟨adopted, kept.keep traced ?_ (fun _ => ⟨running, ?_⟩) ?_⟩
    · exact moves.opens_nothing (.inl (by rw [phase]; simp))
    · rw [mergeSample_stream]
    · rw [mergeSample_hostname]

theorem next_adopts (consistent : batcher.Consistent) (adopts : batcher.Adopts adopted samples)
    (event : Event) :
    ∃ adoptedAfter, (batcher.next event).Adopts adoptedAfter
      (samples ++ batcher.accepted event) := by
  cases event with
  | cycle =>
    refine ⟨adopted, ?_⟩
    show batcher.beginCycle.Adopts adopted (samples ++ [])
    rw [List.append_nil]
    exact ⟨adopts.opened, adopts.held, adopts.own, adopts.first⟩
  | offer sample => exact (take_cases consistent sample).adopts consistent adopts
  | stop =>
    refine ⟨adopted, ?_⟩
    show batcher.stop.Adopts adopted (samples ++ [])
    rw [List.append_nil]
    have stopping := stop_cases consistent
    obtain ⟨calls, moves, traced⟩ := stopping.moves
    exact adopts.keep traced (moves.opens_nothing (.inr rfl))
      (fun running => absurd stopping.phase running) stopping.frame.1

end Adopts

/-- **All samples that a run takes belong to the stream that it opened.** -/
theorem run_adopts (sink : σ) (hostname : String) (syncEvery : Nat) (events : List Event) :
    ∃ adopted, ((logged sink hostname syncEvery).run events).Adopts adopted
      ((logged sink hostname syncEvery).taken events) := by
  induction events using List.reverseRecOn with
  | nil =>
    exact ⟨none, by simp [logged, new, Logged.trace], fun _ => rfl, by simp [taken], by simp⟩
  | append_singleton events event ih =>
    obtain ⟨adopted, adopts⟩ := ih
    rw [run_concat, taken_concat]
    exact next_adopts (logged_consistent sink hostname syncEvery events) adopts event

/-! ### Lines and samples -/

omit [Sink σ] in
/-- Every line that was handed over is that of the row of a block. -/
theorem Gathers.block_of_handed {batcher : Batcher (Logged σ)} {samples : List Offered}
    (gathers : Gathers batcher samples) {handed : String × Bool}
    (member : handed ∈ batcher.sink.handed) :
    ∃ block ∈ Offered.blocks samples, ∃ row,
      Offered.row? batcher.hostname block = some row ∧ handed.1 = row.line := by
  have found (closed : List (List Offered))
      (delivered : Delivered batcher (closed.filterMap (Offered.row? batcher.hostname))) :
      ∃ block ∈ closed, ∃ row,
        Offered.row? batcher.hostname block = some row ∧ handed.1 = row.line := by
    have line := List.mem_map_of_mem (f := Prod.fst) member
    rw [delivered.lines, List.mem_map] at line
    obtain ⟨row, rowMem, same⟩ := line
    obtain ⟨block, blockMem, known⟩ := List.mem_filterMap.mp rowMem
    exact ⟨block, blockMem, row, known, same.symm⟩
  unfold Gathers at gathers
  cases phase : batcher.phase with
  | idle =>
    rw [phase] at gathers
    obtain ⟨block, none, _⟩ := found [] gathers.2
    cases none
  | collecting timestamp =>
    rw [phase] at gathers
    obtain ⟨closed, opened, collects⟩ := gathers
    obtain ⟨block, blockMem, row⟩ := found closed collects.delivered
    refine ⟨block, ?_, row⟩
    rw [collects.cut]
    exact List.mem_append_left _ blockMem
  | stopped =>
    rw [phase] at gathers
    exact found (Offered.blocks samples) gathers.2

end Batcher

namespace Reporter

open Batcher

variable {σ : Type}

/-! ### What is asked without noise -/

/-- If a filter shows of some metrics what another one shows of all but for some samples, then some
requests ask for what the other ones ask but for these samples. -/
theorem asked_select {first second : Reporter σ} {keep : String → MetricKind → Bool}
    {own : Event → Bool} (cycles : own .cycle = true) (stops : own .stop = true)
    (mode : first.mode = second.mode) (units : first.units = second.units)
    (same : ∀ timestamp sample,
      (if keep sample.name sample.kind then offered? first.filter timestamp sample else none) =
        (offered? second.filter timestamp sample).filter own)
    (requests : List Request) :
    first.asked (requests.map (Request.select keep)) = (second.asked requests).filter own := by
  induction requests with
  | nil => rfl
  | cons request rest ih =>
    cases request with
    | stop =>
      show [Event.stop] = [Event.stop].filter own
      rw [List.filter_cons_of_pos stops, List.filter_nil]
    | report clock snapshot =>
      have cycle : first.cycle clock (snapshot.select keep) =
          (second.cycle clock snapshot).filter own := by
        unfold cycle
        rw [Snapshot.samples_select, List.filterMap_filter, List.filter_cons_of_pos cycles,
          List.filter_filterMap, mode, units]
        simp only [same]
      show first.cycle clock (snapshot.select keep) ++ first.asked (rest.map _) = _
      rw [cycle, ih, ← List.filter_append]
      rfl

/-- **Hiding metrics and leaving them out ask for the same.** -/
theorem asked_showsRouted (reporter : Reporter σ) (requests : List Request) :
    { reporter with filter := .everything : Reporter σ }.asked
        (requests.map (Request.select reporter.filter.showsRouted)) =
      reporter.asked requests := by
  have every : (reporter.asked requests).filter (fun _ => true) = reporter.asked requests :=
    List.filter_eq_self.mpr fun _ _ => rfl
  rw [← every]
  refine @asked_select σ { reporter with filter := .everything } reporter _ (fun _ => true)
    rfl rfl rfl rfl (fun timestamp sample => ?_) requests
  unfold offered? Filter.showsRouted Filter.everything
  cases reporter.filter.accepts sample.name sample.kind <;> cases Route.ofName? sample.name <;> rfl

/-- Leaving out the metrics of other streams asks for all but their samples. -/
theorem asked_keeps (reporter : Reporter σ) (stream : StreamKey) (requests : List Request) :
    reporter.asked (requests.map (Request.select stream.keeps)) =
      (reporter.asked requests).filter (Event.isOwn stream) := by
  refine asked_select rfl rfl rfl rfl (fun timestamp sample => ?_) requests
  unfold offered? StreamKey.keeps
  cases reporter.filter.accepts sample.name sample.kind with
  | false => simp
  | true =>
    cases Route.ofName? sample.name with
    | none => rfl
    | some route =>
      cases own : Batcher.isOwn stream route <;> simp [Event.isOwn, Option.filter, own]

/-- The sample shows a metric of a snapshot that was reported, one that the filter accepts and that
belongs to a stream. -/
def Shows (reporter : Reporter σ) (requests : List Request) (sample : Offered) : Prop :=
  ∃ clock snapshot, .report clock snapshot ∈ requests ∧
    ∃ metric ∈ snapshot.samples reporter.mode reporter.units,
      reporter.filter.accepts metric.name metric.kind = true ∧
      Route.ofName? metric.name = some sample.route ∧
      sample.value = metric.value ∧ sample.timestamp = clock.second

/-- Every sample that is offered shows a metric. -/
theorem shows_of_asked {reporter : Reporter σ} {requests : List Request} {sample : Offered}
    (asked : .offer sample ∈ reporter.asked requests) : reporter.Shows requests sample := by
  induction requests with
  | nil => cases asked
  | cons request rest ih =>
    cases request with
    | stop => simp [Reporter.asked] at asked
    | report clock snapshot =>
      rw [Reporter.asked, cycle, List.cons_append, List.mem_cons, List.mem_append,
        List.mem_filterMap] at asked
      rcases asked with cycles | ⟨metric, member, offers⟩ | later
      · cases cycles
      · obtain ⟨shown, route, routed, same⟩ := offered?_eq_some.mp offers
        cases same
        exact ⟨clock, snapshot, List.mem_cons_self, metric, member, shown, routed, rfl, rfl⟩
      · obtain ⟨clock, snapshot, member, metric⟩ := ih later
        exact ⟨clock, snapshot, List.mem_cons_of_mem _ member, metric⟩

/-- Every sample that a batcher takes of what is asked shows a metric. -/
theorem shows_of_taken {τ : Type} [Sink τ] {batcher : Batcher τ} {reporter : Reporter σ}
    {requests : List Request} {sample : Offered}
    (taken : sample ∈ batcher.taken (reporter.asked requests)) :
    reporter.Shows requests sample :=
  shows_of_asked (Event.mem_samples.mp ((taken_sublist _ _).subset taken))

/-! ### Main statement -/

variable [Sink σ]

section Life

variable (sink : σ) (hostname : String) (syncEvery : Nat) (filter : Filter) (mode : ValueMode)
  (units : Units)

/-- Hiding metrics and leaving them out lead to the same batcher. -/
theorem live_showsRouted (requests : List Request) :
    ((logged sink hostname syncEvery filter mode units).live requests).batcher =
      ((logged sink hostname syncEvery .everything mode units).live
        (requests.map (Request.select filter.showsRouted))).batcher := by
  rw [logged_live, logged_live]
  exact congrArg _ (asked_showsRouted (logged sink hostname syncEvery filter mode units)
    requests).symm

/-- From the cycle that opens a stream on, leaving out the metrics of other streams changes the
number of foreign samples only. -/
theorem live_keeps {before after : List Request} {clock : Clock} {snapshot : Snapshot}
    {stream : StreamKey}
    (unopened : (.opened stream, true) ∉
      ((logged sink hostname syncEvery filter mode units).live before).batcher.sink.trace)
    (opened : (.opened stream, true) ∈ ((logged sink hostname syncEvery filter mode units).live
      (before ++ [.report clock snapshot])).batcher.sink.trace) :
    ((logged sink hostname syncEvery filter mode units).live (before ++
        (.report clock snapshot :: after).map (Request.select stream.keeps))).batcher.withoutForeign =
      ((logged sink hostname syncEvery filter mode units).live
        (before ++ .report clock snapshot :: after)).batcher.withoutForeign := by
  let reporter := logged sink hostname syncEvery filter mode units
  let batcher := (Batcher.logged sink hostname syncEvery).run (reporter.asked before)
  rw [logged_live] at unopened opened
  have running : .stop ∉ before := by
    intro stopped
    rw [asked_append_of_stop _ stopped] at opened
    exact unopened opened
  rw [asked_append _ running, run_append] at opened
  rw [logged_live, logged_live, asked_append _ running, asked_append _ running, asked_keeps,
    run_append, run_append]
  have consistent : batcher.Consistent := logged_consistent sink hostname syncEvery _
  have unstopped : batcher.phase ≠ .stopped := fun phase =>
    running (stop_mem_asked.mp ((logged_stopped_iff sink hostname syncEvery _).mp phase))
  obtain ⟨adopted, adopts⟩ := run_adopts sink hostname syncEvery (reporter.asked before)
  obtain ⟨adoptedAfter, adoptsAfter⟩ := run_adopts sink hostname syncEvery
    (reporter.asked before ++ reporter.asked [.report clock snapshot])
  rw [run_append] at adoptsAfter
  have same : adoptedAfter = some stream := (adoptsAfter.opened stream).mp opened
  have idle : batcher.phase = .idle := by
    cases phase : batcher.phase with
    | idle => rfl
    | stopped => exact absurd phase unstopped
    | collecting second =>
      -- The stream of an open batch was opened before, so it is the one that was opened later.
      obtain ⟨calls, extended⟩ := run_extends consistent (reporter.asked [.report clock snapshot])
      unfold Consistent at consistent
      rw [phase] at consistent
      obtain ⟨application, executor, known⟩ := consistent
      have openedBefore := (adopts.opened _).mpr ((adopts.held unstopped).symm.trans known)
      have openedAfter := (adoptsAfter.opened _).mp
        (extended ▸ List.mem_append_left calls openedBefore)
      rw [same] at openedAfter
      rw [← Option.some.inj openedAfter] at openedBefore
      exact absurd openedBefore unopened
  obtain ⟨samples, cycle, _⟩ := reporter.cycle_offers clock snapshot
  have known : (batcher.run (.cycle :: samples.map .offer)).stream = some stream := by
    rw [← cycle, ← same, ← List.append_nil (reporter.cycle clock snapshot)]
    refine adoptsAfter.held ?_
    rw [Ne, consistent.run_stopped_iff]
    exact not_or.mpr ⟨unstopped, mt stop_mem_asked.mp (by simp)⟩
  show (batcher.run ((reporter.cycle clock snapshot ++ reporter.asked after).filter _)).withoutForeign
    = (batcher.run (reporter.cycle clock snapshot ++ reporter.asked after)).withoutForeign
  rw [cycle]
  exact run_filter_of_adopting consistent idle known (reporter.asked after)

/-- Every line that is handed over is that of a row of shown metrics of the stream that was
opened. -/
theorem row_of_handed (requests : List Request) {handed : String × Bool}
    (member : handed ∈ ((logged sink hostname syncEvery filter mode units).live
      requests).batcher.sink.handed) :
    ∃ (stream : StreamKey) (row : Row) (block : List Offered),
      (∀ other, (.opened other, true) ∈ ((logged sink hostname syncEvery filter mode units).live
        requests).batcher.sink.trace ↔ other = stream) ∧
      handed.1 = row.line ∧ row.host = HostTag.of hostname stream.executor ∧
      row.values = Offered.gather block ∧
      ∀ sample ∈ block, sample.stream hostname = stream ∧ sample.timestamp = row.timestamp ∧
        (logged sink hostname syncEvery filter mode units).Shows requests sample := by
  let reporter := logged sink hostname syncEvery filter mode units
  rw [logged_live] at member ⊢
  obtain ⟨block, blockMem, row, known, line⟩ :=
    (run_gathers sink hostname syncEvery (reporter.asked requests)).block_of_handed member
  obtain ⟨adopted, adopts⟩ := run_adopts sink hostname syncEvery (reporter.asked requests)
  rw [logged_hostname] at known
  obtain ⟨first, firstMem, rfl⟩ := Offered.row?_eq_some known
  have taken {sample : Offered} (sampleMem : sample ∈ block) :
      sample ∈ (Batcher.logged sink hostname syncEvery).taken (reporter.asked requests) :=
    Offered.mem_of_mem_blocks blockMem sampleMem
  have own {sample : Offered} (sampleMem : sample ∈ block) :
      adopted = some (sample.stream hostname) := by
    have own := adopts.own sample (taken sampleMem)
    rwa [logged_hostname] at own
  refine ⟨first.stream hostname, _, block, fun other => ?_, line, rfl, rfl, ?_⟩
  · rw [adopts.opened other, own firstMem, Option.some.injEq, eq_comm]
  · intro sample sampleMem
    exact ⟨Option.some.inj ((own sampleMem).symm.trans (own firstMem)),
      Offered.timestamp_of_mem_blocks blockMem sampleMem firstMem,
      shows_of_taken (taken sampleMem)⟩

/-- **Metrics that the filter hides, that belong to no stream or that belong to another stream reach
no row.** Let a reporter serve any requests, with any filter, over a sink that succeeds and fails as
it likes:

* with the hidden metrics and those of no stream left out, and without a filter, it does the same:
  the calls of the sink, the phase, the record, the stream and the counters are those with them;
* from the cycle that opens a stream on, with the metrics of other streams left out, it does the
  same but for the number of foreign samples;
* every line that the sink is handed is that of a row whose host is the host name and the executor
  of the one stream that was opened, and whose values are those of shown metrics of that stream. -/
theorem noise_reaches_no_row (requests : List Request) :
    let start (filter : Filter) := logged sink hostname syncEvery filter mode units
    let trace (requests : List Request) := ((start filter).live requests).batcher.sink.trace
    ((start filter).live requests).batcher =
      ((start .everything).live (requests.map (Request.select filter.showsRouted))).batcher ∧
    (∀ (before after : List Request) (clock : Clock) (snapshot : Snapshot) (stream : StreamKey),
      requests = before ++ .report clock snapshot :: after →
      (.opened stream, true) ∉ trace before →
      (.opened stream, true) ∈ trace (before ++ [.report clock snapshot]) →
      ((start filter).live (before ++ (.report clock snapshot :: after).map
          (Request.select stream.keeps))).batcher.withoutForeign =
        ((start filter).live requests).batcher.withoutForeign) ∧
    ∀ handed ∈ ((start filter).live requests).batcher.sink.handed,
      ∃ (stream : StreamKey) (row : Row) (block : List Offered),
        (∀ other, (.opened other, true) ∈ trace requests ↔ other = stream) ∧
        handed.1 = row.line ∧ row.host = HostTag.of hostname stream.executor ∧
        row.values = Offered.gather block ∧
        ∀ sample ∈ block, sample.stream hostname = stream ∧ sample.timestamp = row.timestamp ∧
          (start filter).Shows requests sample := by
  intro start trace
  refine ⟨live_showsRouted sink hostname syncEvery filter mode units requests, ?_, fun handed =>
    row_of_handed sink hostname syncEvery filter mode units requests⟩
  rintro before after clock snapshot stream rfl unopened opened
  exact live_keeps sink hostname syncEvery filter mode units unopened opened

end Life

end Reporter

end MetricRelay

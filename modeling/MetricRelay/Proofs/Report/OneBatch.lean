/-
**One report is one batch.**

All samples of a report have the second that the clock showed when it began. So a report closes at
most one batch and opens at most one, whatever its samples are and whatever the sink does, and what
it writes is in that one batch at its end.

* `Sample.Precedes`: report order, by kind and then by name. `Snapshot.samples` lists the metrics in
  it (`Snapshot.samples_ordered`);
* `Reporter.offers`: the samples of the metrics that the filter shows and that have a route, in report
  order. A report offers them and nothing else (`Reporter.cycle_eq`);
* `Batcher.Gathers.block_of_openRow`: the row of the open batch is that of a block of samples that
  were taken before.

Main statement: `Reporter.report_is_one_batch`.
-/

import MetricRelay.Proofs.Batch.Course
import MetricRelay.Proofs.Report.Account
import MetricRelay.Proofs.Report.Isolation

namespace MetricRelay

/-! ### Report order -/

/-- The metric comes before another one in a report: its kind does, or its name does in its kind. -/
def Sample.Precedes (sample other : Sample) : Prop :=
  sample.kind.rank < other.kind.rank ∨ sample.kind = other.kind ∧ sample.name < other.name

namespace Snapshot

/-- The samples are in report order, and their kinds come before some rank. -/
structure OrderedBelow (rank : Nat) (samples : List Sample) : Prop where
  ordered : samples.Pairwise Sample.Precedes
  below : ∀ sample ∈ samples, sample.kind.rank < rank

theorem OrderedBelow.append {α : Type} {samples : List Sample} (kind : MetricKind)
    (ordered : OrderedBelow kind.rank samples) (display : α → Measure) (table : Table α) :
    OrderedBelow (kind.rank + 1) (samples ++ tableSamples kind display table) := by
  have own : ∀ sample ∈ tableSamples kind display table, sample.kind = kind := by
    intro sample member
    obtain ⟨entry, _, rfl⟩ := List.mem_map.mp member
    rfl
  constructor
  · refine List.pairwise_append.mpr ⟨ordered.ordered, ?_, fun first member later laterMem => ?_⟩
    · exact List.pairwise_map.mpr (table.increasing.imp fun before => .inr ⟨rfl, before⟩)
    · have before := ordered.below first member
      rw [← own later laterMem] at before
      exact .inl before
  · refine List.forall_mem_append.mpr ⟨fun sample member => ?_, fun sample member => ?_⟩
    · exact Nat.lt_succ_of_lt (ordered.below sample member)
    · rw [own sample member]
      exact Nat.lt_succ_self _

/-- **The metrics of a snapshot are listed in report order.** -/
theorem samples_ordered (snapshot : Snapshot) (mode : ValueMode) (units : Units) :
    (snapshot.samples mode units).Pairwise Sample.Precedes := by
  have none : OrderedBelow MetricKind.gauge.rank [] := ⟨.nil, by simp⟩
  have whole : OrderedBelow (MetricKind.timer.rank + 1) (snapshot.samples mode units) :=
    ((((none.append .gauge _ _).append .counter _ _).append .histogram _ _).append .meter _ _).append
      .timer _ _
  exact whole.ordered

end Snapshot

namespace Batcher

variable {σ : Type} [Sink σ]

/-! ### The state before a report -/

omit [Sink σ] in
/-- The row of the open batch is that of a block of samples that were taken. -/
theorem Gathers.block_of_openRow {batcher : Batcher (Logged σ)} (consistent : batcher.Consistent)
    {samples : List Offered} (gathers : Gathers batcher samples) {row : Row}
    (known : batcher.openRow = some row) :
    ∃ block ∈ Offered.blocks samples, Offered.row? batcher.hostname block = some row := by
  obtain ⟨handed, _, split⟩ := gathers.rows_split consistent
  have member : row ∈ Offered.rows batcher.hostname samples := by
    rw [split, known]
    exact List.mem_append_right _ List.mem_cons_self
  exact List.mem_filterMap.mp member

/-- As long as no open succeeded, a running batcher is idle. -/
theorem idle_of_unopened (sink : σ) (hostname : String) (syncEvery : Nat) {events : List Event}
    (running : .stop ∉ events) (unopened : ∀ stream, (.opened stream, true) ∉
      ((logged sink hostname syncEvery).run events).sink.trace) :
    ((logged sink hostname syncEvery).run events).phase = .idle := by
  have consistent := logged_consistent sink hostname syncEvery events
  obtain ⟨adopted, adopts⟩ := run_adopts sink hostname syncEvery events
  unfold Consistent at consistent
  cases phase : ((logged sink hostname syncEvery).run events).phase with
  | idle => rfl
  | stopped => exact absurd ((logged_stopped_iff sink hostname syncEvery events).mp phase) running
  | collecting timestamp =>
    rw [phase] at consistent
    obtain ⟨application, executor, known⟩ := consistent
    have held := adopts.held (by rw [phase]; exact nofun)
    exact absurd ((adopts.opened _).mpr (held.symm.trans known)) (unopened _)

omit [Sink σ] in
/-- A new cycle keeps what all states of a run have in common. -/
theorem beginCycle_orderly {batcher : Batcher σ} (orderly : batcher.Orderly) :
    batcher.beginCycle.Orderly :=
  ⟨orderly.ordered, orderly.solid, fun _ _ => rfl⟩

/-- Samples of a cycle are events of a run. -/
theorem run_offers (batcher : Batcher σ) (samples : List Offered) :
    batcher.run (samples.map .offer) = batcher.takeAll samples :=
  List.foldl_map

/-- A stopped batcher stays as it is, whatever it is offered. -/
theorem takeAll_of_stopped {batcher : Batcher σ} (phase : batcher.phase = .stopped)
    (samples : List Offered) : batcher.takeAll samples = batcher := by
  induction samples with
  | nil => rfl
  | cons sample rest ih =>
    show (batcher.take sample).2.takeAll rest = batcher
    rw [take_of_stopped phase]
    exact ih

end Batcher

namespace Reporter

open Batcher

variable {σ : Type}

/-! ### The samples of a report -/

/-- The sample of a metric, if the filter shows it and its name has a route. -/
def offering? (filter : Filter) (timestamp : Int) (sample : Sample) : Option Offered :=
  if filter.accepts sample.name sample.kind then
    (Route.ofName? sample.name).map fun route => ⟨route, sample.value, timestamp⟩
  else none

/-- The samples that a report offers to its batcher. -/
def offers (reporter : Reporter σ) (clock : Clock) (snapshot : Snapshot) : List Offered :=
  (snapshot.samples reporter.mode reporter.units).filterMap
    (offering? reporter.filter clock.second)

/-- A report begins a cycle and offers its samples. -/
theorem cycle_eq (reporter : Reporter σ) (clock : Clock) (snapshot : Snapshot) :
    reporter.cycle clock snapshot = .cycle :: (reporter.offers clock snapshot).map .offer := by
  unfold cycle offers
  rw [List.map_filterMap]
  refine congrArg _ (List.filterMap_congr fun sample _ => ?_)
  unfold offered? offering?
  cases filter : reporter.filter.accepts sample.name sample.kind with
  | false => rfl
  | true => simp [Function.comp_def]

theorem second_of_offers (reporter : Reporter σ) {clock : Clock} {snapshot : Snapshot}
    {sample : Offered} (member : sample ∈ reporter.offers clock snapshot) :
    sample.timestamp = clock.second := by
  obtain ⟨metric, _, shown⟩ := List.mem_filterMap.mp member
  unfold offering? at shown
  split at shown
  · obtain ⟨route, _, rfl⟩ := Option.map_eq_some_iff.mp shown
    rfl
  · cases shown

/-- A metric gives a sample exactly if the filter shows it and it belongs to a stream. -/
theorem isSome_offering? (filter : Filter) (timestamp : Int) (sample : Sample) :
    (offering? filter timestamp sample).isSome = filter.showsRouted sample.name sample.kind := by
  unfold offering? Filter.showsRouted
  cases filter.accepts sample.name sample.kind <;> simp

/-- As many samples are offered as metrics are shown and belong to a stream. -/
theorem length_offers (reporter : Reporter σ) (clock : Clock) (snapshot : Snapshot) :
    (reporter.offers clock snapshot).length =
      (snapshot.samples reporter.mode reporter.units).countP fun metric =>
        reporter.filter.showsRouted metric.name metric.kind := by
  unfold offers
  rw [List.length_filterMap_eq_countP]
  simp only [isSome_offering?]

/-- The first sample is that of the first metric that is shown and belongs to a stream. -/
theorem offers_of_first (reporter : Reporter σ) (clock : Clock) {snapshot : Snapshot}
    {front back : List Sample} {metric : Sample} {route : Route}
    (samples : snapshot.samples reporter.mode reporter.units = front ++ metric :: back)
    (hidden : ∀ other ∈ front, reporter.filter.showsRouted other.name other.kind = false)
    (shown : reporter.filter.showsRouted metric.name metric.kind = true)
    (routed : Route.ofName? metric.name = some route) :
    ∃ rest, reporter.offers clock snapshot = ⟨route, metric.value, clock.second⟩ :: rest := by
  have none : front.filterMap (offering? reporter.filter clock.second) = [] := by
    refine List.filterMap_eq_nil_iff.mpr fun other member => ?_
    have unseen := isSome_offering? reporter.filter clock.second other
    rw [hidden other member] at unseen
    exact Option.isNone_iff_eq_none.mp (Option.isSome_eq_false_iff.mp unseen)
  have first : offering? reporter.filter clock.second metric =
      some ⟨route, metric.value, clock.second⟩ := by
    unfold offering?
    rw [if_pos (Bool.and_elim_left shown), routed]
    rfl
  refine ⟨back.filterMap (offering? reporter.filter clock.second), ?_⟩
  rw [offers, samples, List.filterMap_append, none, List.nil_append, List.filterMap_cons_some first]

/-- **A cycle of an idle batcher tries to open the sink once, for the first metric that is shown and
belongs to a stream.** If that fails, all such metrics are counted as dropped and nothing else
changes. -/
theorem opening_of_first {τ : Type} (reporter : Reporter τ) {before after : Batcher (Logged σ)}
    {clock : Clock} {snapshot : Snapshot} {calls : Trace} (idle : before.phase = .idle)
    (course : Course before clock.second (reporter.offers clock snapshot) calls after)
    {front back : List Sample} {metric : Sample} {route : Route}
    (samples : snapshot.samples reporter.mode reporter.units = front ++ metric :: back)
    (hidden : ∀ other ∈ front, reporter.filter.showsRouted other.name other.kind = false)
    (shown : reporter.filter.showsRouted metric.name metric.kind = true)
    (routed : Route.ofName? metric.name = some route) :
    ∃ succeeded,
      calls = [(.opened (.of route.application route.executor before.hostname), succeeded)] ∧
      (succeeded = false →
        after.stats.droppedSinkUnavailable = before.stats.droppedSinkUnavailable +
          ((snapshot.samples reporter.mode reporter.units).countP fun metric =>
            reporter.filter.showsRouted metric.name metric.kind) ∧
        after.phase = before.phase ∧ after.record = before.record ∧
        after.stream = before.stream) := by
  obtain ⟨rest, offered⟩ := offers_of_first reporter clock samples hidden shown routed
  have many := length_offers reporter clock snapshot
  rw [offered] at course many
  obtain ⟨succeeded, made, fails⟩ := course.opening idle
  refine ⟨succeeded, made, fun failed => ?_⟩
  obtain ⟨refusal, same⟩ := fails failed
  rw [same, ← many]
  exact ⟨rfl, rfl, rfl, rfl⟩

/-! ### Main statement -/

section Life

variable [Sink σ] (sink : σ) (hostname : String) (syncEvery : Nat) (filter : Filter)
  (mode : ValueMode) (units : Units)

/-- A report is one more request. -/
theorem live_concat (reporter : Reporter σ) (requests : List Request) (clock : Clock)
    (snapshot : Snapshot) : reporter.live (requests ++ [.report clock snapshot]) =
      (reporter.live requests).report clock snapshot :=
  live_append reporter requests [.report clock snapshot]

/-- What a report of a running reporter does to its batcher. -/
theorem report_takes {requests : List Request} (running : .stop ∉ requests) (clock : Clock)
    (snapshot : Snapshot) :
    let start := logged sink hostname syncEvery filter mode units
    ((start.live requests).report clock snapshot).batcher =
      (start.live requests).batcher.beginCycle.takeAll (start.offers clock snapshot) := by
  intro start
  have asks : start.asked [.report clock snapshot] = start.cycle clock snapshot :=
    List.append_nil _
  rw [← live_concat, logged_live, logged_live, asked_append start running, run_append, asks, cycle_eq,
    run_cons, run_offers]
  rfl

/-- The row that is open before a report holds samples of earlier reports only. -/
theorem shows_of_openRow {requests : List Request} {row : Row} :
    let start := logged sink hostname syncEvery filter mode units
    (start.live requests).batcher.openRow = some row →
      ∃ block, row.values = Offered.gather block ∧
        ∀ sample ∈ block, sample.timestamp = row.timestamp ∧ start.Shows requests sample := by
  intro start known
  rw [logged_live] at known
  obtain ⟨block, blockMem, made⟩ :=
    (run_gathers sink hostname syncEvery (start.asked requests)).block_of_openRow
      (logged_consistent sink hostname syncEvery (start.asked requests)) known
  obtain ⟨first, firstMem, rfl⟩ := Offered.row?_eq_some made
  exact ⟨block, rfl, fun sample member =>
    ⟨Offered.timestamp_of_mem_blocks blockMem member firstMem,
      shows_of_taken (Offered.mem_of_mem_blocks blockMem member)⟩⟩

/-- **One report is one batch.** Let a reporter have served any requests, with any filter, over a sink
that succeeds and fails as it likes, and let it report any snapshot. If it was stopped before,
nothing happens. Otherwise it offers the samples of the metrics that the filter shows and that have
a route, in report order, and:

* it opens, emits and syncs at most once each;
* a row that is emitted is that of the batch that was open before, which holds samples of earlier
  reports only;
* a sample that is counted as merged is there at the end, in the one open batch, which is of the
  second of the clock and the stream of the sample: at its path stands its value, or that of a later
  sample of the same name;
* as long as no open has succeeded, the report makes one call: it asks the sink to open for the first
  metric that is shown and has a route. If that fails, all such metrics are counted as dropped, and
  phase, record and stream stay.

After an open that succeeded there is no other one. -/
theorem report_is_one_batch (requests : List Request) (clock : Clock) (snapshot : Snapshot) :
    let start := logged sink hostname syncEvery filter mode units
    let reporter := start.live requests
    let before := reporter.batcher
    let after := (reporter.report clock snapshot).batcher
    let metrics := snapshot.samples mode units
    let shown (metric : Sample) := filter.showsRouted metric.name metric.kind
    (.stop ∈ requests → reporter.report clock snapshot = reporter) ∧
    (.stop ∉ requests → after = before.beginCycle.takeAll (start.offers clock snapshot)) ∧
    metrics.Pairwise Sample.Precedes ∧
    (after.sink.trace.Pairwise fun call later =>
      call.1.isOpened = true → call.2 = true → later.1.isOpened = false) ∧
    ∃ calls : Trace, after.sink.trace = before.sink.trace ++ calls ∧
      (calls.countP fun call => call.1.isOpened) ≤ 1 ∧
      (calls.countP fun call => call.1.isEmitted) ≤ 1 ∧
      (calls.countP fun call => call.1.isSynced) ≤ 1 ∧
      (∀ line taken, (.emitted line, taken) ∈ calls →
        ∃ row block, before.openRow = some row ∧ line = row.line ∧
          row.values = Offered.gather block ∧
          ∀ sample ∈ block, sample.timestamp = row.timestamp ∧ start.Shows requests sample) ∧
      (∀ front sample back, start.offers clock snapshot = front ++ sample :: back →
        let current := before.beginCycle.takeAll front
        (current.take sample).2.stats.merged ≠ current.stats.merged →
        after.openTimestamp = some clock.second ∧ after.stream = some (sample.stream hostname) ∧
        ∃ last ∈ sample :: back, last.route = sample.route ∧
          after.record.find sample.route.path = .leaf last.value) ∧
      (∀ front metric back route, metrics = front ++ metric :: back →
        (∀ other ∈ front, shown other = false) → shown metric = true →
        Route.ofName? metric.name = some route →
        .stop ∉ requests → (∀ stream, (.opened stream, true) ∉ before.sink.trace) →
        ∃ succeeded,
          calls = [(.opened (.of route.application route.executor hostname), succeeded)] ∧
          (succeeded = false →
            after.stats.droppedSinkUnavailable =
              before.stats.droppedSinkUnavailable + metrics.countP shown ∧
            after.phase = before.phase ∧ after.record = before.record ∧
            after.stream = before.stream)) := by
  intro start reporter before after metrics shown
  have lived : before = (Batcher.logged sink hostname syncEvery).run (start.asked requests) :=
    logged_live sink hostname syncEvery filter mode units requests
  have consistent : before.beginCycle.Consistent := by
    rw [lived]
    exact logged_consistent sink hostname syncEvery _
  have orderly : before.beginCycle.Orderly := by
    rw [lived]
    exact beginCycle_orderly (run_orderly ({ sink } : Logged σ) hostname syncEvery _)
  have named : before.hostname = hostname := by
    rw [lived]
    exact logged_hostname sink hostname syncEvery _
  have ordered := snapshot.samples_ordered mode units
  have once : after.sink.trace.Pairwise fun call later =>
      call.1.isOpened = true → call.2 = true → later.1.isOpened = false := by
    show ((start.live requests).report clock snapshot).batcher.sink.trace.Pairwise _
    rw [← live_concat, logged_live]
    exact opens_once sink hostname syncEvery _
  by_cases stopped : .stop ∈ requests
  · have phase : before.phase = .stopped := by
      rw [lived, logged_stopped_iff]
      exact stop_mem_asked.mpr stopped
    have same : reporter.report clock snapshot = reporter :=
      live_of_stopped (isStopped_iff.mpr phase) [.report clock snapshot]
    have unchanged : after = before := congrArg Reporter.batcher same
    refine ⟨fun _ => same, fun running => absurd stopped running, ordered, once, [], ?_,
      Nat.zero_le _, Nat.zero_le _, Nat.zero_le _, fun _ _ member => (nomatch member), ?_, ?_⟩
    · rw [unchanged, List.append_nil]
    · intro front sample back _ current counted
      have phaseHere : before.beginCycle.phase = .stopped := phase
      have idle : current = before.beginCycle := takeAll_of_stopped phaseHere front
      rw [idle, take_of_stopped phaseHere] at counted
      exact absurd rfl counted
    · exact fun _ _ _ _ _ _ _ _ running => absurd stopped running
  · have takes : after = before.beginCycle.takeAll (start.offers clock snapshot) :=
      report_takes sink hostname syncEvery filter mode units stopped clock snapshot
    obtain ⟨calls, traced, course⟩ := course_of_cycle consistent orderly rfl
      (start.offers clock snapshot) fun sample member => second_of_offers start member
    rw [← takes] at traced course
    obtain ⟨opens, emits, syncs⟩ := course.one_of_each
    refine ⟨fun stops => absurd stops stopped, fun _ => takes, ordered, once, calls, traced, opens,
      emits, syncs, fun line taken member => ?_, ?_, ?_⟩
    · obtain ⟨row, known, same⟩ := course.row_of_emitted member
      obtain ⟨block, values, shows⟩ :=
        shows_of_openRow sink hostname syncEvery filter mode units known
      exact ⟨row, block, known, same, values, shows⟩
    · intro front sample back offered current counted
      have second : ∀ other ∈ sample :: back, other.timestamp = clock.second := fun other member =>
        second_of_offers start (offered ▸ List.mem_append_right front member)
      have stays := written_stays consistent orderly second counted
      rw [takes, offered, ← named]
      exact stays
    · intro front metric back route split hidden isShown routed _ unopened
      have idle : before.beginCycle.phase = .idle := by
        rw [lived] at unopened ⊢
        exact idle_of_unopened sink hostname syncEvery (mt stop_mem_asked.mp stopped) unopened
      have opening := opening_of_first start idle course split hidden isShown routed
      rw [show before.beginCycle.hostname = hostname from named] at opening
      exact opening

end Life

end Reporter

end MetricRelay

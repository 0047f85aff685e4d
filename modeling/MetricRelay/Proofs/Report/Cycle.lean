/-
**A reporter is a driver of its batcher.**

What a reporter does to its batcher are events: a snapshot begins a cycle and offers the samples
that the filter shows and that belong to a stream, all with the second of the clock. So every life
of a reporter is a run of its batcher (`Reporter.live_batcher`), and what holds of all runs of a
batcher holds of all reporters. Which run it is depends on the requests, the filter and the mode
only (`Reporter.asked`, `Reporter.live_asked`).
-/

import MetricRelay.Proofs.Batch.Cases
import MetricRelay.Report.Reporter

namespace MetricRelay

/-- What can be asked of a reporter. -/
inductive Request where
  | report (clock : Clock) (snapshot : Snapshot)
  | stop

namespace Reporter

variable {σ : Type}

/-- The sample as it is offered, if it is shown and belongs to a stream. -/
def offered? (filter : Filter) (timestamp : Int) (sample : Sample) : Option Event :=
  if filter.accepts sample.name sample.kind then
    (Route.ofName? sample.name).map fun route => .offer ⟨route, sample.value, timestamp⟩
  else none

/-- A sample is offered if the filter shows it and its name has a route. -/
theorem offered?_eq_some {filter : Filter} {timestamp : Int} {sample : Sample} {event : Event} :
    offered? filter timestamp sample = some event ↔
      filter.accepts sample.name sample.kind = true ∧ ∃ route,
        Route.ofName? sample.name = some route ∧
        .offer ⟨route, sample.value, timestamp⟩ = event := by
  unfold offered?
  by_cases shown : filter.accepts sample.name sample.kind = true
  · rw [if_pos shown, Option.map_eq_some_iff]
    simp only [shown, true_and]
  · rw [if_neg shown]
    simp only [shown, reduceCtorEq, false_and]

/-- What a snapshot asks of the batcher. -/
def cycle (reporter : Reporter σ) (clock : Clock) (snapshot : Snapshot) : List Event :=
  .cycle :: (snapshot.samples reporter.mode reporter.units).filterMap
    (offered? reporter.filter clock.second)

/-- A report begins a cycle and offers samples of the second of the clock. -/
theorem cycle_offers (reporter : Reporter σ) (clock : Clock) (snapshot : Snapshot) :
    ∃ samples : List Offered,
      reporter.cycle clock snapshot = .cycle :: samples.map Event.offer ∧
      ∀ sample ∈ samples, sample.timestamp = clock.second := by
  unfold cycle
  induction snapshot.samples reporter.mode reporter.units with
  | nil => exact ⟨[], rfl, by simp⟩
  | cons sample rest ih =>
    obtain ⟨samples, same, second⟩ := ih
    rw [List.cons.injEq] at same
    rw [List.filterMap_cons]
    cases asks : offered? reporter.filter clock.second sample with
    | none => exact ⟨samples, by rw [same.2], second⟩
    | some event =>
      obtain ⟨_, route, _, rfl⟩ := offered?_eq_some.mp asks
      exact ⟨⟨route, sample.value, clock.second⟩ :: samples, by rw [same.2, List.map_cons],
        List.forall_mem_cons.mpr ⟨rfl, second⟩⟩

/-- What requests ask of the batcher. Nothing is asked after a stop. -/
def asked (reporter : Reporter σ) : List Request → List Event
  | [] => []
  | .report clock snapshot :: rest => reporter.cycle clock snapshot ++ reporter.asked rest
  | .stop :: _ => [.stop]

/-- A new reporter over a sink whose calls are logged. -/
def logged (sink : σ) (hostname : String) (syncEvery : Nat) (filter : Filter) (mode : ValueMode)
    (units : Units) : Reporter (Logged σ) where
  batcher := .logged sink hostname syncEvery
  filter := filter
  mode := mode
  units := units

variable [Sink σ]

/-- The reporter after a request. -/
def serve (reporter : Reporter σ) : Request → Reporter σ
  | .report clock snapshot => reporter.report clock snapshot
  | .stop => reporter.stop

/-- The reporter after some requests. -/
def live (reporter : Reporter σ) (requests : List Request) : Reporter σ :=
  requests.foldl serve reporter

theorem live_append (reporter : Reporter σ) (first later : List Request) :
    reporter.live (first ++ later) = (reporter.live first).live later :=
  List.foldl_append

/-- What one sample does to the batcher. -/
theorem take_batcher (timestamp : Int) (reporter : Reporter σ) (sample : Sample) :
    (take timestamp reporter sample).batcher =
      reporter.batcher.run (offered? reporter.filter timestamp sample).toList := by
  unfold take offered?
  by_cases shown : reporter.filter.accepts sample.name sample.kind = true
  · simp only [if_pos shown]
    cases Route.ofName? sample.name with
    | none => rfl
    | some route => rfl
  · simp only [if_neg shown]
    rfl

/-- A sample changes the batcher and the counters of samples only. -/
theorem take_frame (timestamp : Int) (reporter : Reporter σ) (sample : Sample) :
    (take timestamp reporter sample).filter = reporter.filter ∧
      (take timestamp reporter sample).mode = reporter.mode ∧
      (take timestamp reporter sample).units = reporter.units ∧
      (take timestamp reporter sample).cycles = reporter.cycles := by
  unfold take
  by_cases shown : reporter.filter.accepts sample.name sample.kind = true
  · simp only [if_pos shown]
    cases Route.ofName? sample.name with
    | none => exact ⟨rfl, rfl, rfl, rfl⟩
    | some route => exact ⟨rfl, rfl, rfl, rfl⟩
  · rw [if_neg shown]
    exact ⟨rfl, rfl, rfl, rfl⟩

theorem foldl_take_frame (timestamp : Int) (reporter : Reporter σ) (samples : List Sample) :
    (samples.foldl (take timestamp) reporter).filter = reporter.filter ∧
      (samples.foldl (take timestamp) reporter).mode = reporter.mode ∧
      (samples.foldl (take timestamp) reporter).units = reporter.units ∧
      (samples.foldl (take timestamp) reporter).cycles = reporter.cycles := by
  induction samples generalizing reporter with
  | nil => exact ⟨rfl, rfl, rfl, rfl⟩
  | cons sample rest ih =>
    obtain ⟨filter, mode, units, cycles⟩ := ih (take timestamp reporter sample)
    obtain ⟨filterFirst, modeFirst, unitsFirst, cyclesFirst⟩ := take_frame timestamp reporter sample
    exact ⟨filter.trans filterFirst, mode.trans modeFirst, units.trans unitsFirst,
      cycles.trans cyclesFirst⟩

/-- A report changes the batcher and the counters only. -/
theorem report_frame (reporter : Reporter σ) (clock : Clock) (snapshot : Snapshot) :
    (reporter.report clock snapshot).filter = reporter.filter ∧
      (reporter.report clock snapshot).mode = reporter.mode ∧
      (reporter.report clock snapshot).units = reporter.units := by
  unfold report
  by_cases stopped : reporter.batcher.isStopped = true
  · rw [if_pos stopped]
    exact ⟨rfl, rfl, rfl⟩
  · rw [if_neg stopped]
    obtain ⟨filter, mode, units, _⟩ := foldl_take_frame clock.second
      { reporter with cycles := reporter.cycles + 1, batcher := reporter.batcher.beginCycle }
      (snapshot.samples reporter.mode reporter.units)
    exact ⟨filter, mode, units⟩

/-- A report counts its cycle, unless the reporter was stopped. -/
theorem report_cycles {reporter : Reporter σ} (running : reporter.batcher.isStopped = false)
    (clock : Clock) (snapshot : Snapshot) :
    (reporter.report clock snapshot).cycles = reporter.cycles + 1 := by
  unfold report
  rw [if_neg (by rw [running]; decide)]
  exact (foldl_take_frame clock.second _ _).2.2.2

/-- What the samples of a cycle do to the batcher. -/
theorem foldl_take_batcher (timestamp : Int) (reporter : Reporter σ) (samples : List Sample) :
    (samples.foldl (take timestamp) reporter).batcher =
      reporter.batcher.run (samples.filterMap (offered? reporter.filter timestamp)) := by
  induction samples generalizing reporter with
  | nil => rfl
  | cons sample rest ih =>
    rw [List.foldl_cons, ih, (take_frame timestamp reporter sample).1, take_batcher,
      ← Batcher.run_append]
    congr 1
    rw [List.filterMap_cons]
    cases offered? reporter.filter timestamp sample <;> rfl

/-- **A report is a run of the batcher,** unless it was stopped. -/
theorem report_batcher {reporter : Reporter σ} (running : reporter.batcher.isStopped = false)
    (clock : Clock) (snapshot : Snapshot) :
    (reporter.report clock snapshot).batcher =
      reporter.batcher.run (reporter.cycle clock snapshot) := by
  unfold report
  rw [if_neg (by rw [running]; decide)]
  exact foldl_take_batcher clock.second
    { reporter with cycles := reporter.cycles + 1, batcher := reporter.batcher.beginCycle }
    (snapshot.samples reporter.mode reporter.units)

/-- **The life of a reporter is a run of its batcher.** -/
theorem live_batcher (reporter : Reporter σ) (requests : List Request) :
    ∃ events, (reporter.live requests).batcher = reporter.batcher.run events := by
  induction requests generalizing reporter with
  | nil => exact ⟨[], rfl⟩
  | cons request rest ih =>
    obtain ⟨later, lived⟩ := ih (reporter.serve request)
    have first : ∃ events, (reporter.serve request).batcher = reporter.batcher.run events := by
      cases request with
      | stop => exact ⟨[.stop], rfl⟩
      | report clock snapshot =>
        cases stopped : reporter.batcher.isStopped with
        | false => exact ⟨_, report_batcher stopped clock snapshot⟩
        | true =>
          refine ⟨[], ?_⟩
          show (reporter.report clock snapshot).batcher = reporter.batcher
          unfold report
          rw [if_pos stopped]
    obtain ⟨events, served⟩ := first
    refine ⟨events ++ later, ?_⟩
    rw [Batcher.run_append, ← served]
    exact lived

/-! ### The events of a life -/

omit [Sink σ] in
/-- What is asked depends on the filter, the mode and the units only, not on the sink either. -/
theorem asked_congr {τ : Type} {first : Reporter σ} {second : Reporter τ}
    (filter : first.filter = second.filter) (mode : first.mode = second.mode)
    (units : first.units = second.units) (requests : List Request) :
    first.asked requests = second.asked requests := by
  induction requests with
  | nil => rfl
  | cons request rest ih =>
    cases request with
    | stop => rfl
    | report clock snapshot =>
      unfold asked cycle
      rw [ih, filter, mode, units]

omit [Sink σ] in
theorem asked_append (reporter : Reporter σ) {first : List Request} (running : .stop ∉ first)
    (later : List Request) :
    reporter.asked (first ++ later) = reporter.asked first ++ reporter.asked later := by
  induction first with
  | nil => rfl
  | cons request rest ih =>
    obtain ⟨goesOn, restRuns⟩ := not_or.mp (mt List.mem_cons.mpr running)
    cases request with
    | stop => exact absurd rfl goesOn
    | report clock snapshot =>
      rw [List.cons_append, asked, asked, ih restRuns, List.append_assoc]

omit [Sink σ] in
/-- After a stop nothing is asked. -/
theorem asked_append_of_stop (reporter : Reporter σ) {first : List Request}
    (stopped : .stop ∈ first) (later : List Request) :
    reporter.asked (first ++ later) = reporter.asked first := by
  induction first with
  | nil => cases stopped
  | cons request rest ih =>
    cases request with
    | stop => rfl
    | report clock snapshot =>
      have laterStopped : .stop ∈ rest := (List.mem_cons.mp stopped).resolve_left (by simp)
      rw [List.cons_append, asked, asked, ih laterStopped]

omit [Sink σ] in
theorem stop_notMem_cycle (reporter : Reporter σ) (clock : Clock) (snapshot : Snapshot) :
    .stop ∉ reporter.cycle clock snapshot := by
  rw [cycle, List.mem_cons, List.mem_filterMap]
  rintro (cycles | ⟨sample, _, offers⟩)
  · cases cycles
  · obtain ⟨_, route, _, same⟩ := offered?_eq_some.mp offers
    cases same

omit [Sink σ] in
/-- Only a stop asks for a stop. -/
theorem stop_mem_asked {reporter : Reporter σ} {requests : List Request} :
    .stop ∈ reporter.asked requests ↔ .stop ∈ requests := by
  induction requests with
  | nil => simp [asked]
  | cons request rest ih =>
    cases request with
    | stop => simp [asked]
    | report clock snapshot =>
      simp [asked, stop_notMem_cycle, ih]

/-- Nothing is reported after a stop. -/
theorem live_of_stopped {reporter : Reporter σ} (stopped : reporter.batcher.isStopped = true)
    (requests : List Request) : reporter.live requests = reporter := by
  induction requests with
  | nil => rfl
  | cons request rest ih =>
    have same : reporter.serve request = reporter := by
      cases request with
      | report clock snapshot =>
        show reporter.report clock snapshot = reporter
        unfold report
        rw [if_pos stopped]
      | stop =>
        show { reporter with batcher := reporter.batcher.stop } = reporter
        rw [Batcher.stop_of_stopped (Batcher.isStopped_iff.mp stopped)]
    show (reporter.serve request).live rest = reporter
    rw [same, ih]

/-- A report stops nothing. -/
theorem report_runs {reporter : Reporter σ} (consistent : reporter.batcher.Consistent)
    (running : reporter.batcher.phase ≠ .stopped) (clock : Clock) (snapshot : Snapshot) :
    (reporter.report clock snapshot).batcher =
        reporter.batcher.run (reporter.cycle clock snapshot) ∧
      (reporter.report clock snapshot).batcher.Consistent ∧
      (reporter.report clock snapshot).batcher.phase ≠ .stopped := by
  have active : reporter.batcher.isStopped = false :=
    Bool.eq_false_iff.mpr (mt Batcher.isStopped_iff.mp running)
  rw [report_batcher active clock snapshot]
  refine ⟨rfl, consistent.run _, ?_⟩
  rw [Ne, consistent.run_stopped_iff]
  exact not_or.mpr ⟨running, stop_notMem_cycle reporter clock snapshot⟩

/-- **Which run of the batcher the life of a reporter is.** -/
theorem live_asked {reporter : Reporter σ} (consistent : reporter.batcher.Consistent)
    (running : reporter.batcher.phase ≠ .stopped) (requests : List Request) :
    (reporter.live requests).batcher = reporter.batcher.run (reporter.asked requests) := by
  induction requests generalizing reporter with
  | nil => rfl
  | cons request rest ih =>
    cases request with
    | stop =>
      have stopped : reporter.stop.batcher.isStopped = true :=
        Batcher.isStopped_iff.mpr (Batcher.stop_cases consistent).phase
      show (reporter.stop.live rest).batcher = reporter.batcher.stop
      rw [live_of_stopped stopped]
      rfl
    | report clock snapshot =>
      obtain ⟨reported, consistentAfter, runs⟩ := report_runs consistent running clock snapshot
      obtain ⟨filter, mode, units⟩ := report_frame reporter clock snapshot
      show ((reporter.report clock snapshot).live rest).batcher = _
      rw [ih consistentAfter runs, asked_congr filter mode units, reported, ← Batcher.run_append]
      rfl

/-- Every report counts, as long as none follows a stop. -/
theorem live_cycles {reporter : Reporter σ} (consistent : reporter.batcher.Consistent)
    (running : reporter.batcher.phase ≠ .stopped) {requests : List Request}
    (reports : .stop ∉ requests) :
    (reporter.live requests).cycles = reporter.cycles + requests.length := by
  induction requests generalizing reporter with
  | nil => rfl
  | cons request rest ih =>
    obtain ⟨goesOn, later⟩ := not_or.mp (mt List.mem_cons.mpr reports)
    cases request with
    | stop => exact absurd rfl goesOn
    | report clock snapshot =>
      obtain ⟨_, consistentAfter, runs⟩ := report_runs consistent running clock snapshot
      have active : reporter.batcher.isStopped = false :=
        Bool.eq_false_iff.mpr (mt Batcher.isStopped_iff.mp running)
      show ((reporter.report clock snapshot).live rest).cycles = _
      rw [ih consistentAfter runs later, report_cycles active, List.length_cons]
      omega

/-- Which run of its batcher the life of a new reporter is. -/
theorem logged_live (sink : σ) (hostname : String) (syncEvery : Nat) (filter : Filter)
    (mode : ValueMode) (units : Units) (requests : List Request) :
    ((logged sink hostname syncEvery filter mode units).live requests).batcher =
      (Batcher.logged sink hostname syncEvery).run
        ((logged sink hostname syncEvery filter mode units).asked requests) :=
  live_asked (Batcher.logged_consistent sink hostname syncEvery [])
    (by simp [logged, Batcher.logged, Batcher.new]) requests

variable {reporter : Reporter σ} {sink : σ} {hostname : String} {syncEvery : Nat}

/-- The life of a reporter with a new batcher. -/
theorem live_of_new (new : reporter.batcher = .new sink hostname syncEvery)
    (requests : List Request) :
    (reporter.live requests).batcher =
      (Batcher.new sink hostname syncEvery).run (reporter.asked requests) := by
  rw [← new]
  refine live_asked ?_ ?_ requests
  · rw [new]
    exact Batcher.new_consistent sink hostname syncEvery
  · rw [new]
    simp [Batcher.new]

/-- What a reporter with a new batcher leaves. -/
theorem drop_of_new (new : reporter.batcher = .new sink hostname syncEvery)
    (requests : List Request) :
    (reporter.live requests).drop =
      ((Batcher.new sink hostname syncEvery).run (reporter.asked requests ++ [.stop])).sink := by
  rw [Batcher.run_concat, ← live_of_new new]
  rfl

end Reporter

end MetricRelay

/-
**No sample vanishes uncounted.**

A reporter counts the samples that it sees and, for each of them, one thing that became of it.

* `Request.reports`: the reports that are made before the first stop;
* `ReportStats.answered`: the samples of which it is counted what became of them. With every sample
  that is seen they are one more (`Reporter.take_counts`);
* `Reporter.Counts`: what one reporter has counted more than another one. Counts add up
  (`Reporter.Counts.trans`), from samples to reports and from reports to lives.

Main statement: `Reporter.every_sample_is_counted`.
-/

import MetricRelay.Proofs.Batch.Tally
import MetricRelay.Proofs.Report.Cycle

namespace MetricRelay

/-- The samples that were filtered, unroutable, or offered and counted by the batcher. -/
def ReportStats.answered (stats : ReportStats) : Nat :=
  stats.samplesFiltered + stats.droppedUnroutable + stats.batch.answered

/-- The reports before the first stop. -/
def Request.reports : List Request → List (Clock × Snapshot)
  | [] => []
  | .report clock snapshot :: rest => (clock, snapshot) :: reports rest
  | .stop :: _ => []

/-- A snapshot gives one sample for each of its metrics. -/
theorem Snapshot.length_samples (snapshot : Snapshot) (mode : ValueMode) (units : Units) :
    (snapshot.samples mode units).length = snapshot.size := by
  simp only [samples, tableSamples, List.length_append, List.length_map, size, Table.size]

namespace Reporter

variable {σ : Type}

/-- The later reporter has counted some more cycles and samples, and what became of each sample. -/
structure Counts (before after : Reporter σ) (cycles samples : Nat) : Prop where
  cycles : after.cycles = before.cycles + cycles
  seen : after.samplesSeen = before.samplesSeen + samples
  answered : after.stats.answered = before.stats.answered + samples

theorem Counts.trans {before middle after : Reporter σ} {cycles samples more moreSamples : Nat}
    (early : Counts before middle cycles samples) (late : Counts middle after more moreSamples) :
    Counts before after (cycles + more) (samples + moreSamples) where
  cycles := by rw [late.cycles, early.cycles, Nat.add_assoc]
  seen := by rw [late.seen, early.seen, Nat.add_assoc]
  answered := by rw [late.answered, early.answered, Nat.add_assoc]

/-- A reporter in service: its batcher is in a state that a run reaches, and not stopped. -/
structure InService [Sink σ] (reporter : Reporter σ) : Prop where
  consistent : reporter.batcher.Consistent
  running : reporter.batcher.phase ≠ .stopped

variable [Sink σ]

/-- A sample that is offered is counted by the batcher. -/
theorem InService.offer {reporter : Reporter σ} (inService : InService reporter)
    (sample : Offered) :
    InService { reporter with batcher := (reporter.batcher.take sample).2 } ∧
      (reporter.batcher.take sample).2.stats.answered = reporter.batcher.stats.answered + 1 := by
  have taking := Batcher.take_cases inService.consistent sample
  exact ⟨⟨taking.consistent inService.consistent, mt taking.stopped_iff.mp inService.running⟩,
    taking.answered inService.running⟩

/-- **One sample is seen, and one thing that became of it is counted.** -/
theorem take_counts {reporter : Reporter σ} (inService : InService reporter) (timestamp : Int)
    (sample : Sample) :
    InService (take timestamp reporter sample) ∧
      Counts reporter (take timestamp reporter sample) 0 1 := by
  unfold take
  by_cases shown : reporter.filter.accepts sample.name sample.kind = true
  · rw [if_pos shown]
    cases Route.ofName? sample.name with
    | none =>
      refine ⟨⟨inService.consistent, inService.running⟩, rfl, rfl, ?_⟩
      simp only [stats, ReportStats.answered]
      omega
    | some route =>
      obtain ⟨after, answered⟩ := inService.offer ⟨route, sample.value, timestamp⟩
      refine ⟨⟨after.consistent, after.running⟩, rfl, rfl, ?_⟩
      exact congrArg (reporter.samplesFiltered + reporter.droppedUnroutable + ·) answered
  · rw [if_neg shown]
    refine ⟨⟨inService.consistent, inService.running⟩, rfl, rfl, ?_⟩
    simp only [stats, ReportStats.answered]
    omega

theorem foldl_take_counts {reporter : Reporter σ} (inService : InService reporter)
    (timestamp : Int) (samples : List Sample) :
    InService (samples.foldl (take timestamp) reporter) ∧
      Counts reporter (samples.foldl (take timestamp) reporter) 0 samples.length := by
  induction samples generalizing reporter with
  | nil => exact ⟨inService, rfl, rfl, rfl⟩
  | cons sample rest ih =>
    obtain ⟨afterOne, one⟩ := take_counts inService timestamp sample
    obtain ⟨afterAll, others⟩ := ih afterOne
    refine ⟨afterAll, ?_⟩
    rw [List.length_cons, Nat.add_comm rest.length]
    exact one.trans others

/-- A report counts its cycle and all samples of its snapshot. -/
theorem report_counts {reporter : Reporter σ} (inService : InService reporter) (clock : Clock)
    (snapshot : Snapshot) :
    InService (reporter.report clock snapshot) ∧
      Counts reporter (reporter.report clock snapshot) 1 snapshot.size := by
  have active : ¬ reporter.batcher.isStopped = true :=
    mt Batcher.isStopped_iff.mp inService.running
  have begun : InService { reporter with
      cycles := reporter.cycles + 1, batcher := reporter.batcher.beginCycle } :=
    ⟨inService.consistent, inService.running⟩
  have cycle : Counts reporter { reporter with
      cycles := reporter.cycles + 1, batcher := reporter.batcher.beginCycle } 1 0 :=
    ⟨rfl, rfl, rfl⟩
  unfold report
  rw [if_neg active, ← snapshot.length_samples reporter.mode reporter.units]
  obtain ⟨after, samples⟩ := foldl_take_counts begun clock.second
    (snapshot.samples reporter.mode reporter.units)
  refine ⟨after, ?_⟩
  have whole := cycle.trans samples
  rwa [Nat.zero_add] at whole

/-- A stop counts rows, and no sample. -/
theorem stop_counts {reporter : Reporter σ} (consistent : reporter.batcher.Consistent) :
    Counts reporter reporter.stop 0 0 := by
  refine ⟨rfl, rfl, ?_⟩
  have samples := (Batcher.stop_cases consistent).samples.1
  exact congrArg (reporter.samplesFiltered + reporter.droppedUnroutable + ·) samples

/-- What is asked after a stop changes nothing. -/
theorem live_stop {reporter : Reporter σ} (consistent : reporter.batcher.Consistent)
    (later : List Request) : reporter.live (.stop :: later) = reporter.stop :=
  live_of_stopped (Batcher.isStopped_iff.mpr (Batcher.stop_cases consistent).phase) later

/-- **The life of a reporter counts all reports before its stop, and all their samples.** -/
theorem live_counts {reporter : Reporter σ} (inService : InService reporter)
    (requests : List Request) :
    Counts reporter (reporter.live requests) (Request.reports requests).length
      ((Request.reports requests).map fun report => report.2.size).sum := by
  induction requests generalizing reporter with
  | nil => exact ⟨rfl, rfl, rfl⟩
  | cons request rest ih =>
    cases request with
    | stop =>
      rw [live_stop inService.consistent]
      exact stop_counts inService.consistent
    | report clock snapshot =>
      obtain ⟨after, first⟩ := report_counts inService clock snapshot
      have whole := first.trans (ih after)
      rw [Request.reports, List.length_cons, List.map_cons, List.sum_cons, Nat.add_comm _ 1]
      exact whole

theorem logged_inService (sink : σ) (hostname : String) (syncEvery : Nat) (filter : Filter)
    (mode : ValueMode) (units : Units) :
    InService (logged sink hostname syncEvery filter mode units) :=
  ⟨Batcher.logged_consistent sink hostname syncEvery [], by
    simp [logged, Batcher.logged, Batcher.new]⟩

/-- **Every sample is counted once, and every merged one is a leaf or was replaced.** Let a reporter
be asked for any reports and stops, over a sink that succeeds and fails as it likes:

* its cycles are the reports that were made before the first stop;
* it has seen the samples of their snapshots, and each of them is counted by exactly one of the
  counters of what became of it;
* the rows that were emitted and those that failed are together the lines that the sink was handed;
* the merged samples are the leaves of the rows that were handed over, those of the open record,
  and the samples that replaced a value of their own block. The rows are those of the blocks of the
  samples that were taken, but for that of the open batch;
* what is asked after a stop changes nothing. -/
theorem every_sample_is_counted (sink : σ) (hostname : String) (syncEvery : Nat) (filter : Filter)
    (mode : ValueMode) (units : Units) (requests : List Request) :
    let start := logged sink hostname syncEvery filter mode units
    let stats := (start.live requests).stats
    let batcher := (start.live requests).batcher
    let taken := (Batcher.logged sink hostname syncEvery).taken (start.asked requests)
    stats.cycles = (Request.reports requests).length ∧
    stats.samplesSeen = ((Request.reports requests).map fun report => report.2.size).sum ∧
    stats.samplesSeen = stats.samplesFiltered + stats.droppedUnroutable + stats.batch.merged +
      stats.batch.droppedConflicts + stats.batch.droppedEmptyPath + stats.batch.droppedForeign +
      stats.batch.droppedSinkUnavailable ∧
    stats.batch.rowsEmitted + stats.batch.sampleFailures = batcher.sink.handed.length ∧
    (∃ rows : List Row,
      batcher.sink.handed.map Prod.fst = rows.map Row.line ∧
      Offered.rows hostname taken = rows ++ batcher.openRow.toList ∧
      stats.batch.merged = (rows.map fun row => row.values.leafCount).sum +
        batcher.record.leafCount + ((Offered.blocks taken).map Offered.overwritten).sum) ∧
    ∀ later : List Request,
      start.live (requests ++ .stop :: later) = start.live (requests ++ [.stop]) := by
  intro start stats batcher taken
  have inService : InService start := logged_inService sink hostname syncEvery filter mode units
  have counts := live_counts inService requests
  have lived : batcher = (Batcher.logged sink hostname syncEvery).run (start.asked requests) :=
    logged_live sink hostname syncEvery filter mode units requests
  have consistent : batcher.Consistent := by
    rw [lived]
    exact Batcher.logged_consistent sink hostname syncEvery _
  have gathers : batcher.Gathers taken := by
    rw [lived]
    exact Batcher.run_gathers sink hostname syncEvery _
  have tallied : batcher.stats.merged = ((Offered.blocks taken).map Offered.written).sum := by
    rw [lived]
    exact Batcher.run_tallied sink hostname syncEvery _
  have named : batcher.hostname = hostname := by
    rw [lived]
    exact Batcher.logged_hostname sink hostname syncEvery _
  obtain ⟨rows, delivered, split⟩ := gathers.rows_split consistent
  rw [named] at split
  refine ⟨?_, ?_, ?_, ?_, ⟨rows, delivered.lines, split, ?_⟩, fun later => ?_⟩
  · exact counts.cycles.trans (Nat.zero_add _)
  · exact counts.seen.trans (Nat.zero_add _)
  · have seen : stats.samplesSeen = stats.answered :=
      counts.seen.trans counts.answered.symm
    rw [seen, ReportStats.answered, BatchStats.answered]
    omega
  · have handed := congrArg List.length delivered.lines
    rw [List.length_map, List.length_map] at handed
    exact delivered.taken_add_refused.trans handed.symm
  · show batcher.stats.merged = _
    rw [tallied, Offered.sum_written hostname, split, List.map_append, List.sum_append,
      Batcher.leafCount_openRow consistent]
  · rw [live_append, live_append, live_stop consistent, live_stop consistent]

end Reporter

end MetricRelay

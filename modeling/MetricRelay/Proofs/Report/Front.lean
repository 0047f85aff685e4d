/-
**What a replay counts before its sink has a say.**

Whether a sample is shown and whether it has a route is decided before it is offered, and every
frame is a cycle. So these counters are functions of the filter, the mode, the units and the lines
of the recording, and every sink leaves them the same.

* `Front`: the counters of a replay in which its sink has no part;
* `Front.ofLines`: what they are for some lines;
* `Reporter.Showing`: what one reporter has counted more than another one, for some samples.
  Reports add up (`Reporter.Showing.trans`).

Main statement of the module: `Replay.front_of_takeLines`.
-/

import MetricRelay.Proofs.Report.Replayed

namespace MetricRelay

open Recording

/-- The counters of a replay in which its sink has no part. -/
structure Front where
  frames : Nat
  skippedLines : Nat
  cycles : Nat
  samplesSeen : Nat
  samplesFiltered : Nat
  droppedUnroutable : Nat
  deriving DecidableEq, Repr

/-- The counters of a summary in which the sink has no part. -/
def ReplaySummary.front (summary : ReplaySummary) : Front where
  frames := summary.frames
  skippedLines := summary.skippedLines
  cycles := summary.stats.cycles
  samplesSeen := summary.stats.samplesSeen
  samplesFiltered := summary.stats.samplesFiltered
  droppedUnroutable := summary.stats.droppedUnroutable

/-- The filter does not show the sample. -/
def Filter.hides (filter : Filter) (sample : Sample) : Bool :=
  !filter.accepts sample.name sample.kind

/-- The filter shows the sample, but its name has no route. -/
def Filter.strands (filter : Filter) (sample : Sample) : Bool :=
  filter.accepts sample.name sample.kind && (Route.ofName? sample.name).isNone

/-- The samples of some frames, in report order. -/
def Frame.samples (mode : ValueMode) (units : Units) (frames : List Frame) : List Sample :=
  frames.flatMap fun frame => frame.snapshot.samples mode units

/-- What the counters are for lines that hold this. -/
def Front.ofLines (filter : Filter) (mode : ValueMode) (units : Units) (lines : List Line) :
    Front :=
  let frames := lines.filterMap Line.frame?
  let samples := Frame.samples mode units frames
  { frames := frames.length
    skippedLines := lines.countP Line.isMalformed
    cycles := frames.length
    samplesSeen := samples.length
    samplesFiltered := samples.countP filter.hides
    droppedUnroutable := samples.countP filter.strands }

namespace Reporter

variable {σ : Type}

/-- The later reporter has seen some more samples and shows metrics as before. -/
structure Showing (before after : Reporter σ) (samples : List Sample) : Prop where
  filter : after.filter = before.filter
  seen : after.samplesSeen = before.samplesSeen + samples.length
  filtered : after.samplesFiltered = before.samplesFiltered + samples.countP before.filter.hides
  unroutable : after.droppedUnroutable =
    before.droppedUnroutable + samples.countP before.filter.strands

theorem Showing.trans {before middle after : Reporter σ} {first later : List Sample}
    (early : Showing before middle first) (late : Showing middle after later) :
    Showing before after (first ++ later) where
  filter := late.filter.trans early.filter
  seen := by rw [late.seen, early.seen, List.length_append, Nat.add_assoc]
  filtered := by
    rw [late.filtered, early.filtered, early.filter, List.countP_append, Nat.add_assoc]
  unroutable := by
    rw [late.unroutable, early.unroutable, early.filter, List.countP_append, Nat.add_assoc]

variable [Sink σ]

theorem take_showing (timestamp : Int) (reporter : Reporter σ) (sample : Sample) :
    Showing reporter (take timestamp reporter sample) [sample] := by
  unfold take
  by_cases shown : reporter.filter.accepts sample.name sample.kind = true
  · rw [if_pos shown]
    cases found : Route.ofName? sample.name with
    | none =>
      exact ⟨rfl, rfl, by simp [Filter.hides, shown], by simp [Filter.strands, shown, found]⟩
    | some route =>
      exact ⟨rfl, rfl, by simp [Filter.hides, shown], by simp [Filter.strands, found]⟩
  · rw [if_neg shown]
    exact ⟨rfl, rfl, by simp [Filter.hides, shown], by simp [Filter.strands, shown]⟩

theorem foldl_take_showing (timestamp : Int) (reporter : Reporter σ) (samples : List Sample) :
    Showing reporter (samples.foldl (take timestamp) reporter) samples := by
  induction samples generalizing reporter with
  | nil => exact ⟨rfl, rfl, rfl, rfl⟩
  | cons sample rest ih => exact (take_showing timestamp reporter sample).trans (ih _)

/-- A report sees the samples of its snapshot. -/
theorem report_showing {reporter : Reporter σ} (running : reporter.batcher.isStopped = false)
    (clock : Clock) (snapshot : Snapshot) :
    Showing reporter (reporter.report clock snapshot)
      (snapshot.samples reporter.mode reporter.units) := by
  unfold report
  rw [if_neg (by rw [running]; decide)]
  obtain ⟨filter, seen, filtered, unroutable⟩ := foldl_take_showing clock.second
    { reporter with cycles := reporter.cycles + 1, batcher := reporter.batcher.beginCycle }
    (snapshot.samples reporter.mode reporter.units)
  exact ⟨filter, seen, filtered, unroutable⟩

end Reporter

namespace Replay

open Batcher

variable {σ : Type} [Sink σ]

/-- **Frames are seen with all their samples**, and every one is a cycle. -/
theorem walk_showing {reporter : Reporter σ} (consistent : reporter.batcher.Consistent)
    (running : reporter.batcher.phase ≠ .stopped) (clock : Clock) (frames : List Frame) :
    Reporter.Showing reporter (walk frames (reporter, clock)).1
        (Frame.samples reporter.mode reporter.units frames) ∧
      (walk frames (reporter, clock)).1.cycles = reporter.cycles + frames.length := by
  induction frames generalizing reporter clock with
  | nil => exact ⟨⟨rfl, rfl, rfl, rfl⟩, rfl⟩
  | cons frame rest ih =>
    have active : reporter.batcher.isStopped = false :=
      Bool.eq_false_iff.mpr (mt isStopped_iff.mp running)
    obtain ⟨_, consistentAfter, runs⟩ :=
      Reporter.report_runs consistent running ⟨frame.timestamp⟩ frame.snapshot
    obtain ⟨_, mode, units⟩ :=
      Reporter.report_frame reporter ⟨frame.timestamp⟩ frame.snapshot
    obtain ⟨later, cycles⟩ := ih consistentAfter runs ⟨frame.timestamp⟩
    rw [mode, units] at later
    rw [Reporter.report_cycles active, Nat.add_right_comm, Nat.add_assoc] at cycles
    exact ⟨(Reporter.report_showing active _ _).trans later, cycles⟩

/-- A reporter that was not used yet, with a filter, a mode and units. -/
structure Fresh (reporter : Reporter σ) (filter : Filter) (mode : ValueMode) (units : Units) :
    Prop where
  batcher : ∃ sink hostname syncEvery, reporter.batcher = .new sink hostname syncEvery
  filter : reporter.filter = filter
  mode : reporter.mode = mode
  units : reporter.units = units
  cycles : reporter.cycles = 0
  seen : reporter.samplesSeen = 0
  filtered : reporter.samplesFiltered = 0
  unroutable : reporter.droppedUnroutable = 0

omit [Sink σ] in
theorem Fresh.inService {reporter : Reporter σ} {filter : Filter} {mode : ValueMode}
    {units : Units} (fresh : Fresh reporter filter mode units) :
    reporter.batcher.Consistent ∧ reporter.batcher.phase ≠ .stopped := by
  obtain ⟨sink, hostname, syncEvery, new⟩ := fresh.batcher
  rw [new]
  exact ⟨new_consistent sink hostname syncEvery, by simp [Batcher.new]⟩

section Fresh

variable {reporter : Reporter σ} {filter : Filter} {mode : ValueMode} {units : Units}
  (fresh : Fresh reporter filter mode units) (clock : Clock)

include fresh

theorem front_of_lines (held : List Line) :
    (held.foldl after { reporter, clock }).finish.summary.front =
      .ofLines filter mode units held := by
  obtain ⟨consistent, running⟩ := fresh.inService
  obtain ⟨walked, count, skipped⟩ := foldl_after { reporter, clock } held
  obtain ⟨⟨_, seen, filtered, unroutable⟩, cycles⟩ :=
    walk_showing consistent running clock (held.filterMap Line.frame?)
  have same := congrArg Prod.fst walked
  simp only at same count skipped
  rw [fresh.mode, fresh.units] at seen filtered unroutable
  simp only [ReplaySummary.front, summary, finish, Reporter.stop, Reporter.stats, Front.ofLines,
    same, count, skipped, seen, filtered, unroutable, cycles, fresh.filter, fresh.cycles,
    fresh.seen, fresh.filtered, fresh.unroutable, Nat.zero_add]

/-- **The front counters are decided by the lines**, whatever the sink does, and so is whether they
are all texts. -/
theorem front_of_takeLines (lines : List (List UInt8)) :
    (takeLines { reporter, clock } lines).1 = (lines.map classify).all Line.isText ∧
      (takeLines { reporter, clock } lines).2.finish.summary.front =
        .ofLines filter mode units ((lines.map classify).takeWhile Line.isText) := by
  rw [takeLines_eq]
  exact ⟨rfl, front_of_lines fresh clock _⟩

end Fresh

end Replay

end MetricRelay

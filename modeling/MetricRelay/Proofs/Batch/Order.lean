/-
**The order of the samples of a second does not matter.**

While the batch of a second is open, samples of that second can be offered in any order, and cycles
can begin anywhere between them, as long as no path of a sample begins with that of another one.
What stands in the record already makes no difference, even if some of the samples do not fit to it.

* `Batcher.Orderly`: what the states of a run have in common beside `Batcher.Consistent`;
* `Batcher.Gathering`: the batch of a second is open for a stream. Samples of both are only merged
  (`Batcher.Gathering.take_eq`), and two of them can be taken in either order
  (`Batcher.Gathering.take_comm`);
* `Batcher.answers`: what the samples of a run are answered.

Main statement: `Batcher.order_does_not_matter`.
-/

import MetricRelay.Proofs.Batch.Tally
import MetricRelay.Proofs.Row.Commuting
import MetricRelay.Sink.Recorder

namespace MetricRelay

/-- The answer to a sample that closes no batch, by what its value did to the record. -/
def Offer.ofOutcome : MergeOutcome → Offer
  | .inserted | .replaced => .merged
  | .conflict => .dropped .conflict
  | .emptyPath => .dropped .emptyPath

namespace BatchStats

/-- The counters after one more sample, by what its value did to the record. -/
def counted (stats : BatchStats) : MergeOutcome → BatchStats
  | .inserted | .replaced => { stats with merged := stats.merged + 1 }
  | .conflict => { stats with droppedConflicts := stats.droppedConflicts + 1 }
  | .emptyPath => { stats with droppedEmptyPath := stats.droppedEmptyPath + 1 }

theorem counted_comm (stats : BatchStats) (first second : MergeOutcome) :
    (stats.counted first).counted second = (stats.counted second).counted first := by
  cases first <;> cases second <;> rfl

end BatchStats

namespace Batcher

variable {σ : Type}

theorem mergeSample_eq (batcher : Batcher σ) (path : List String) (value : Measure) :
    batcher.mergeSample path value .merged =
      (.ofOutcome (batcher.record.merge path value).2, { batcher with
        record := (batcher.record.merge path value).1
        stats := batcher.stats.counted (batcher.record.merge path value).2 }) := by
  unfold mergeSample
  rcases batcher.record.merge path value with ⟨record, outcome⟩
  cases outcome <;> rfl

/-! ### The states of a run -/

/-- The record is in order and has no empty nodes, and while a batch is open no open has failed in
this cycle. -/
structure Orderly (batcher : Batcher σ) : Prop where
  ordered : batcher.record.Ordered
  solid : batcher.record.Solid
  ready : ∀ timestamp, batcher.phase = .collecting timestamp → batcher.openFailed = false

/-- Merging a sample keeps a batcher orderly. -/
theorem mergeSample_orderly (batcher : Batcher σ) (ordered : batcher.record.Ordered)
    (solid : batcher.record.Solid) (ready : batcher.openFailed = false) (path : List String)
    (value : Measure) (offer : Offer) : Orderly (batcher.mergeSample path value offer).2 := by
  obtain ⟨stats, after, _⟩ := mergeSample_frame batcher path value offer
  rw [after]
  exact ⟨Record.merge_ordered ordered path value, Record.merge_solid solid path value,
    fun _ _ => ready⟩

variable [Sink σ]

theorem Taking.orderly {batcher : Batcher σ} {sample : Offered} {result : Offer × Batcher σ}
    (orderly : Orderly batcher) (taking : Taking batcher sample result) : Orderly result.2 := by
  cases taking with
  | stopped | waiting | foreign => exact ⟨orderly.ordered, orderly.solid, orderly.ready⟩
  | refused failure sink phase ready call =>
    refine ⟨orderly.ordered, orderly.solid, fun timestamp collecting => ?_⟩
    exact nomatch phase.symm.trans collecting
  | adopted sink phase ready call =>
    refine mergeSample_orderly _ ?_ ?_ ?_ _ _ _
    exacts [orderly.ordered, orderly.solid, ready]
  | joined phase own =>
    exact mergeSample_orderly _ orderly.ordered orderly.solid (orderly.ready _ phase) _ _ _
  | rolled before emitted closed phase own different closing =>
    obtain ⟨sink, stats, after⟩ := closing.frame
    simp only at after
    subst after
    refine mergeSample_orderly _ ?_ ?_ ?_ _ _ _
    exacts [trivial, trivial, orderly.ready _ phase]

theorem Stopping.orderly {batcher after : Batcher σ} (orderly : Orderly batcher)
    (stopping : Stopping batcher after) : Orderly after := by
  have phase := stopping.phase
  cases stopping with
  | again => exact orderly
  | unused => exact ⟨orderly.ordered, orderly.solid, fun _ collecting => nomatch collecting⟩
  | empty | lost | delivered => exact ⟨trivial, trivial, fun _ collecting => nomatch collecting⟩

/-- **Every state of a run is orderly.** -/
theorem run_orderly (sink : σ) (hostname : String) (syncEvery : Nat) (events : List Event) :
    Orderly ((new sink hostname syncEvery).run events) := by
  induction events using List.reverseRecOn with
  | nil => exact ⟨trivial, trivial, fun _ collecting => nomatch collecting⟩
  | append_singleton events event ih =>
    have consistent := run_consistent sink hostname syncEvery events
    rw [run_concat]
    cases event with
    | cycle => exact ⟨ih.ordered, ih.solid, fun _ _ => rfl⟩
    | offer sample => exact (take_cases consistent sample).orderly ih
    | stop => exact (stop_cases consistent).orderly ih

/-! ### Samples of the open batch -/

/-- The batch of a second is open for a stream, as it can be in a run. -/
structure Gathering (batcher : Batcher σ) (timestamp : Int) (stream : StreamKey) : Prop where
  consistent : batcher.Consistent
  orderly : batcher.Orderly
  phase : batcher.phase = .collecting timestamp
  stream : batcher.stream = some stream

/-- The sample is one of the second and the stream. -/
structure Belongs (batcher : Batcher σ) (timestamp : Int) (stream : StreamKey)
    (sample : Offered) : Prop where
  stream : sample.stream batcher.hostname = stream
  timestamp : sample.timestamp = timestamp

namespace Gathering

variable {batcher : Batcher σ} {timestamp : Int} {stream : StreamKey} {sample other : Offered}

/-- **A sample of the open batch is merged, and that is all.** -/
theorem take_eq (gathering : Gathering batcher timestamp stream)
    (belongs : Belongs batcher timestamp stream sample) :
    batcher.take sample =
      (.ofOutcome (batcher.record.merge sample.route.path sample.value).2, { batcher with
        record := (batcher.record.merge sample.route.path sample.value).1
        stats := batcher.stats.counted
          (batcher.record.merge sample.route.path sample.value).2 }) := by
  rw [← mergeSample_eq]
  refine Taking.eq gathering.consistent (.joined ?_ ?_)
  · rw [gathering.phase, belongs.timestamp]
  · rw [gathering.stream, belongs.stream]

theorem take (gathering : Gathering batcher timestamp stream)
    (belongs : Belongs batcher timestamp stream sample) :
    Gathering (batcher.take sample).2 timestamp stream := by
  have taking := take_cases gathering.consistent sample
  refine ⟨taking.consistent gathering.consistent, taking.orderly gathering.orderly, ?_, ?_⟩
  · rw [gathering.take_eq belongs]
    exact gathering.phase
  · exact taking.keeps_stream gathering.consistent gathering.stream

omit [Sink σ] in
/-- A new cycle changes nothing while a batch is open. -/
theorem beginCycle_eq (gathering : Gathering batcher timestamp stream) :
    batcher.beginCycle = batcher := by
  unfold beginCycle
  rw [← gathering.orderly.ready timestamp gathering.phase]

theorem belongs_take (gathering : Gathering batcher timestamp stream)
    (belongs : Belongs batcher timestamp stream sample)
    (also : Belongs batcher timestamp stream other) :
    Belongs (batcher.take sample).2 timestamp stream other := by
  refine ⟨?_, also.timestamp⟩
  rw [gathering.take_eq belongs]
  exact also.stream

section Apart

variable (gathering : Gathering batcher timestamp stream)
  (belongs : Belongs batcher timestamp stream sample)
  (also : Belongs batcher timestamp stream other)
  (apart : Record.Apart sample.route.path other.route.path)

include gathering belongs also apart

/-- **What a sample is answered does not depend on one before it at a path apart.** -/
theorem answer_take : ((batcher.take sample).2.take other).1 = (batcher.take other).1 := by
  rw [(gathering.take belongs).take_eq (gathering.belongs_take belongs also),
    gathering.take_eq belongs, gathering.take_eq also]
  exact congrArg Offer.ofOutcome
    (Record.outcome_merge_merge gathering.orderly.ordered gathering.orderly.solid apart _ _)

/-- **Two samples at paths apart can be taken in either order.** -/
theorem take_comm :
    ((batcher.take sample).2.take other).2 = ((batcher.take other).2.take sample).2 := by
  obtain ⟨ordered, solid, _⟩ := gathering.orderly
  rw [(gathering.take belongs).take_eq (gathering.belongs_take belongs also),
    (gathering.take also).take_eq (gathering.belongs_take also belongs),
    gathering.take_eq belongs, gathering.take_eq also]
  simp only
  rw [Record.merge_comm ordered solid apart, Record.outcome_merge_merge ordered solid apart,
    Record.outcome_merge_merge ordered solid apart.symm, BatchStats.counted_comm]

end Apart

end Gathering

/-! ### Runs of the open batch -/

/-- What the samples of a run are answered. -/
def answers (batcher : Batcher σ) : List Event → List (Offered × Offer)
  | [] => []
  | .offer sample :: rest =>
    (sample, (batcher.take sample).1) :: (batcher.take sample).2.answers rest
  | .cycle :: rest => batcher.beginCycle.answers rest
  | .stop :: rest => batcher.stop.answers rest

/-- The batcher after some samples. -/
def takeAll (batcher : Batcher σ) (samples : List Offered) : Batcher σ :=
  samples.foldl (fun batcher sample => (batcher.take sample).2) batcher

namespace Gathering

variable {batcher : Batcher σ} {timestamp : Int} {stream : StreamKey}

theorem takeAll (gathering : Gathering batcher timestamp stream) {samples : List Offered}
    (belong : ∀ sample ∈ samples, Belongs batcher timestamp stream sample) :
    Gathering (batcher.takeAll samples) timestamp stream ∧
      ∃ stats, batcher.takeAll samples = { batcher with
        record := batcher.record.mergeAll
          (samples.map fun sample => (sample.route.path, sample.value))
        stats } := by
  induction samples generalizing batcher with
  | nil => exact ⟨gathering, batcher.stats, rfl⟩
  | cons sample rest ih =>
    obtain ⟨first, others⟩ := List.forall_mem_cons.mp belong
    obtain ⟨after, stats, frame⟩ := ih (gathering.take first) fun other member =>
      gathering.belongs_take first (others other member)
    refine ⟨after, stats, ?_⟩
    show (batcher.take sample).2.takeAll rest = _
    rw [frame, gathering.take_eq first]
    rfl

/-- **Cycles that begin between the samples make no difference.** -/
theorem run_eq (gathering : Gathering batcher timestamp stream) {events : List Event}
    (running : .stop ∉ events)
    (belong : ∀ sample ∈ Event.samples events, Belongs batcher timestamp stream sample) :
    batcher.run events = batcher.takeAll (Event.samples events) := by
  induction events generalizing batcher with
  | nil => rfl
  | cons event rest ih =>
    obtain ⟨goesOn, restRuns⟩ := not_or.mp (mt List.mem_cons.mpr running)
    cases event with
    | stop => exact absurd rfl goesOn
    | cycle =>
      show batcher.beginCycle.run rest = _
      rw [gathering.beginCycle_eq, ih gathering restRuns belong]
      rfl
    | offer sample =>
      obtain ⟨first, others⟩ := List.forall_mem_cons.mp belong
      exact ih (gathering.take first) restRuns fun other member =>
        gathering.belongs_take first (others other member)

/-- **Each sample is answered what it would have been answered first.** -/
theorem answers_eq (gathering : Gathering batcher timestamp stream) {events : List Event}
    (running : .stop ∉ events)
    (belong : ∀ sample ∈ Event.samples events, Belongs batcher timestamp stream sample)
    (apart : (Event.samples events).Pairwise fun sample other =>
      Record.Apart sample.route.path other.route.path) :
    batcher.answers events =
      (Event.samples events).map fun sample => (sample, (batcher.take sample).1) := by
  induction events generalizing batcher with
  | nil => rfl
  | cons event rest ih =>
    obtain ⟨goesOn, restRuns⟩ := not_or.mp (mt List.mem_cons.mpr running)
    cases event with
    | stop => exact absurd rfl goesOn
    | cycle =>
      show batcher.beginCycle.answers rest = _
      rw [gathering.beginCycle_eq, ih gathering restRuns belong apart]
      rfl
    | offer sample =>
      obtain ⟨first, others⟩ := List.forall_mem_cons.mp belong
      obtain ⟨front, behind⟩ := List.pairwise_cons.mp apart
      have later := ih (gathering.take first) restRuns
        (fun other member => gathering.belongs_take first (others other member)) behind
      show (sample, _) :: (batcher.take sample).2.answers rest = (sample, _) :: _
      rw [later]
      refine congrArg _ (List.map_congr_left fun other member => ?_)
      rw [gathering.answer_take first (others other member) (front other member)]

/-- **Samples at paths apart can be taken in any order.** -/
theorem takeAll_perm (gathering : Gathering batcher timestamp stream)
    {samples others : List Offered} (reordered : samples.Perm others)
    (belong : ∀ sample ∈ samples, Belongs batcher timestamp stream sample)
    (apart : samples.Pairwise fun sample other =>
      Record.Apart sample.route.path other.route.path) :
    batcher.takeAll samples = batcher.takeAll others := by
  induction reordered generalizing batcher with
  | nil => rfl
  | @cons sample rest otherRest reordered ih =>
    obtain ⟨first, later⟩ := List.forall_mem_cons.mp belong
    exact ih (gathering.take first)
      (fun other member => gathering.belongs_take first (later other member))
      (List.pairwise_cons.mp apart).2
  | swap second first rest =>
    obtain ⟨belongsFirst, later⟩ := List.forall_mem_cons.mp belong
    have belongsSecond := later second List.mem_cons_self
    have twoApart := (List.pairwise_cons.mp apart).1 second List.mem_cons_self
    show ((batcher.take first).2.take second).2.takeAll rest =
      ((batcher.take second).2.take first).2.takeAll rest
    rw [gathering.take_comm belongsFirst belongsSecond twoApart]
  | @trans samples middle others early late ihEarly ihLate =>
    have symmetric {sample other : Offered}
        (apart : Record.Apart sample.route.path other.route.path) :
        Record.Apart other.route.path sample.route.path := apart.symm
    rw [ihEarly gathering belong apart]
    exact ihLate gathering (fun sample member => belong sample (early.mem_iff.mpr member))
      (early.pairwise apart symmetric)

end Gathering

/-- **The order of the samples of the open batch does not matter**, and neither do the cycles that
begin between them, as long as no path of a sample begins with that of another one: the record, the
counters and all else end up the same, so that whatever follows is the same to the byte. Each sample
is answered what it would have been answered first. -/
theorem order_does_not_matter (sink : σ) (hostname : String) (syncEvery : Nat)
    (before first second : List Event) (timestamp : Int) (stream : StreamKey)
    (phase : ((new sink hostname syncEvery).run before).phase = .collecting timestamp)
    (known : ((new sink hostname syncEvery).run before).stream = some stream)
    (firstRuns : .stop ∉ first) (secondRuns : .stop ∉ second)
    (reordered : (Event.samples first).Perm (Event.samples second))
    (own : ∀ sample ∈ Event.samples first,
      sample.stream hostname = stream ∧ sample.timestamp = timestamp)
    (apart : (Event.samples first).Pairwise fun sample other =>
      Record.Apart sample.route.path other.route.path) :
    let batcher := (new sink hostname syncEvery).run before
    (∃ stats, batcher.run first = { batcher with
      record := batcher.record.mergeAll
        ((Event.samples first).map fun sample => (sample.route.path, sample.value))
      stats }) ∧
    (∀ later, batcher.run (first ++ later) = batcher.run (second ++ later)) ∧
    batcher.answers first =
      (Event.samples first).map (fun sample => (sample, (batcher.take sample).1)) ∧
    batcher.answers second =
      (Event.samples second).map (fun sample => (sample, (batcher.take sample).1)) := by
  intro batcher
  have host : batcher.hostname = hostname := run_hostname sink hostname syncEvery before
  have gathering : Gathering batcher timestamp stream :=
    ⟨run_consistent sink hostname syncEvery before, run_orderly sink hostname syncEvery before,
      phase, known⟩
  have belong : ∀ sample ∈ Event.samples first, Belongs batcher timestamp stream sample :=
    fun sample member => ⟨host ▸ (own sample member).1, (own sample member).2⟩
  have alsoBelong : ∀ sample ∈ Event.samples second, Belongs batcher timestamp stream sample :=
    fun sample member => belong sample (reordered.mem_iff.mpr member)
  have same : batcher.run first = batcher.run second := by
    rw [gathering.run_eq firstRuns belong, gathering.run_eq secondRuns alsoBelong]
    exact gathering.takeAll_perm reordered belong apart
  refine ⟨?_, fun later => ?_, gathering.answers_eq firstRuns belong apart,
    gathering.answers_eq secondRuns alsoBelong (reordered.pairwise apart Record.Apart.symm)⟩
  · rw [gathering.run_eq firstRuns belong]
    exact (gathering.takeAll belong).2
  · rw [run_append, run_append, same]

/-- A sample of a number at a path. -/
def countSample (path : List String) (count : Int64) (timestamp : Int) : Offered :=
  ⟨⟨⟨"app-1"⟩, ⟨"1"⟩, path⟩, .count count, timestamp⟩

/-- Two samples of a second, one of which does not fit to the record, in both orders. -/
theorem two_samples_in_any_order :
    let before := [Event.offer (countSample ["jvm"] 1 7)]
    let first := [Event.offer (countSample ["jvm", "heap"] 2 7), .cycle,
      .offer (countSample ["disk", "used"] 3 7)]
    let second := [Event.offer (countSample ["disk", "used"] 3 7),
      .offer (countSample ["jvm", "heap"] 2 7)]
    let batcher := (new ({} : Recorder) "host" 20).run before
    (batcher.answers first).map Prod.snd = [.dropped .conflict, .merged] ∧
      (batcher.answers second).map Prod.snd = [.merged, .dropped .conflict] ∧
      batcher.run first = batcher.run second := by
  intro before first second batcher
  obtain ⟨_, same, firstAnswers, secondAnswers⟩ :=
    order_does_not_matter ({} : Recorder) "host" 20 before first second 7
      (.of ⟨"app-1"⟩ ⟨"1"⟩ "host") rfl rfl (by simp [first]) (by simp [second])
      (.swap _ _ []) (by decide) (by decide)
  refine ⟨?_, ?_, ?_⟩
  · rw [firstAnswers]
    rfl
  · rw [secondAnswers]
    rfl
  · simpa using same []

end Batcher

end MetricRelay

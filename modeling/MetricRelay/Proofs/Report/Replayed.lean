/-
**Replaying a recording is reporting its frames.**

What a replay does is said by the lines before the first one that is no text: their frames are
reported one after the other, each at its own time, and then the reporter is stopped
(`Replay.run_eq`, `Replay.walk`). Blank lines and malformed ones do nothing but count.

A reporter that is stopped leaves nothing behind: the row of its open batch is handed over and the
sink is closed (`Batcher.Left`).

Main statement: `Replay.replay_is_reporting`.
-/

import MetricRelay.Proofs.Batch.Grouping
import MetricRelay.Proofs.Batch.Protocol
import MetricRelay.Proofs.Report.Lines
import MetricRelay.Report.Replay

namespace MetricRelay

open Recording

namespace Replay

variable {σ : Type} [Sink σ]

/-! ### Line by line -/

/-- A replay after a line that holds something. -/
def after (replay : Replay σ) : Line → Replay σ
  | .unreadable => replay
  | .blank => { replay with line := replay.line + 1 }
  | .malformed =>
    { replay with line := replay.line + 1, skippedLines := replay.skippedLines + 1 }
  | .frame frame =>
    { replay with
      line := replay.line + 1
      clock := ⟨frame.timestamp⟩
      reporter := replay.reporter.report ⟨frame.timestamp⟩ frame.snapshot
      frames := replay.frames + 1 }

theorem takeLine_eq (replay : Replay σ) {line : List UInt8} {text : String}
    (readable : text? line = some text) : replay.takeLine text = replay.after (classify line) := by
  have isText : (classify line).isText = true := by
    rw [isText_classify, readable]
    rfl
  unfold takeLine
  simp only [ofLine_eq readable]
  cases held : classify line with
  | unreadable =>
    rw [held] at isText
    cases isText
  | blank | malformed | frame frame => rfl

theorem takeLines_eq (replay : Replay σ) (lines : List (List UInt8)) :
    replay.takeLines lines = ((lines.map classify).all Line.isText,
      ((lines.map classify).takeWhile Line.isText).foldl after replay) := by
  induction lines generalizing replay with
  | nil => rfl
  | cons line rest ih =>
    have isText := isText_classify line
    unfold takeLines
    cases readable : text? line with
    | none =>
      rw [readable] at isText
      simp [isText]
    | some text =>
      rw [readable] at isText
      simp only [takeLine_eq replay readable, ih, List.map_cons, List.all_cons, isText,
        Option.isSome_some, Bool.true_and, List.takeWhile_cons_of_pos, List.foldl_cons]

/-- **What a replay does** is said by what the lines of the recording hold. -/
theorem run_eq (reporter : Reporter σ) (clock : Clock) (recording : List UInt8) :
    run reporter clock recording =
      conclude (((pieces recording).map classify).all Line.isText)
        ((((pieces recording).map classify).takeWhile Line.isText).foldl after
          { reporter, clock }) := by
  unfold run
  rw [takeLines_eq, classify_lines]

/-! ### Frame by frame -/

/-- A reporter and its clock after some frames: each one sets the clock and is reported. -/
def walk (frames : List Frame) (start : Reporter σ × Clock) : Reporter σ × Clock :=
  frames.foldl (fun state frame =>
    let clock : Clock := ⟨frame.timestamp⟩
    (state.1.report clock frame.snapshot, clock)) start

theorem foldl_after (replay : Replay σ) (held : List Line) :
    ((held.foldl after replay).reporter, (held.foldl after replay).clock) =
        walk (held.filterMap Line.frame?) (replay.reporter, replay.clock) ∧
      (held.foldl after replay).frames =
        replay.frames + (held.filterMap Line.frame?).length ∧
      (held.foldl after replay).skippedLines =
        replay.skippedLines + held.countP Line.isMalformed := by
  induction held generalizing replay with
  | nil => exact ⟨rfl, rfl, rfl⟩
  | cons line rest ih =>
    obtain ⟨walked, frames, skipped⟩ := ih (replay.after line)
    rw [List.foldl_cons, walked, frames, skipped, List.filterMap_cons, List.countP_cons]
    cases line with
    | unreadable | blank => exact ⟨rfl, rfl, rfl⟩
    | malformed => exact ⟨rfl, rfl, Nat.add_right_comm _ 1 _⟩
    | frame frame => exact ⟨rfl, Nat.add_right_comm _ 1 _, rfl⟩

/-- Every line that is a text holds a frame, is malformed or is blank. -/
theorem length_of_texts {held : List Line} (readable : held.all Line.isText = true) :
    (held.filterMap Line.frame?).length + held.countP Line.isMalformed +
      held.countP Line.isBlank = held.length := by
  induction held with
  | nil => rfl
  | cons line rest ih =>
    rw [List.all_cons, Bool.and_eq_true] at readable
    have later := ih readable.2
    cases line with
    | unreadable => cases readable.1
    | blank | malformed | frame frame =>
      simp only [List.filterMap_cons, List.countP_cons, List.length_cons, Line.frame?,
        Line.isMalformed, Line.isBlank, if_true, Bool.false_eq_true, if_false]
      omega

/-- Blank and malformed lines hide no frame and no line that is no text. -/
theorem frames_of_filter (held : List Line) :
    ((held.filter fun line => !line.isNoise).takeWhile Line.isText).filterMap Line.frame? =
        (held.takeWhile Line.isText).filterMap Line.frame? ∧
      (held.filter fun line => !line.isNoise).all Line.isText = held.all Line.isText := by
  induction held with
  | nil => exact ⟨rfl, rfl⟩
  | cons line rest ih =>
    obtain ⟨frames, readable⟩ := ih
    cases line with
    | unreadable => exact ⟨rfl, rfl⟩
    | blank | malformed => exact ⟨frames, readable⟩
    | frame frame => exact ⟨congrArg (frame :: ·) frames, readable⟩

/-- What is reported is what a life of the reporter asks for. -/
theorem walk_live (frames : List Frame) (start : Reporter σ × Clock) :
    (walk frames start).1 =
      start.1.live (frames.map fun frame => .report ⟨frame.timestamp⟩ frame.snapshot) := by
  induction frames generalizing start with
  | nil => rfl
  | cons frame rest ih => exact ih _

/-- What lines ask of a reporter: to report their frames, up to the first one that is no text. -/
def reports (held : List Line) : List Request :=
  ((held.takeWhile Line.isText).filterMap Line.frame?).map fun frame =>
    .report ⟨frame.timestamp⟩ frame.snapshot

/-- **Taking lines** is a part of the life of the reporter. -/
theorem takeLines_reporter (replay : Replay σ) (lines : List (List UInt8)) :
    (replay.takeLines lines).2.reporter =
      replay.reporter.live (reports (lines.map classify)) := by
  rw [takeLines_eq]
  obtain ⟨walked, _⟩ := foldl_after replay ((lines.map classify).takeWhile Line.isText)
  have same := congrArg Prod.fst walked
  simp only at same
  rw [same, walk_live]
  rfl

end Replay

/-! ### What a stop leaves -/

namespace Batcher

variable {σ : Type}

/-- The second batcher is the first one, left for good: it holds nothing, and if a batch was open,
its row was handed over, unless it had none, and the sink was closed. -/
structure Left (before after : Batcher (Logged σ)) : Prop where
  stopped : after.phase = .stopped
  void : after.record = .nil
  calls :
    match before.phase with
    | .idle | .stopped => after.sink = before.sink
    | .collecting second => ∃ stream taken succeeded, before.stream = some stream ∧
      after.sink.trace = before.sink.trace ++
        (if before.record.isEmpty then []
          else [(.emitted (Row.line ⟨second, before.record, stream.host⟩), taken)]) ++
        [(.closed, succeeded)]

theorem Stopping.left [Sink σ] {batcher after : Batcher (Logged σ)}
    (consistent : batcher.Consistent) (stopping : Stopping batcher after) :
    Left batcher after := by
  refine ⟨stopping.phase, ?_, ?_⟩
  · have held := stopping.consistent consistent
    unfold Consistent at held
    rw [stopping.phase] at held
    exact held.2
  · cases stopping with
    | again phase | unused phase => simp only [phase]
    | empty stream before result sink phase known void close =>
      simp only [phase]
      refine ⟨stream, true, result.toBool, known, ?_⟩
      rw [if_pos (Record.isEmpty_iff.mpr void), List.append_nil]
      exact Logged.trace_of_perform .closed close
    | lost stream before failure result sink after phase known full emit close =>
      simp only [phase]
      refine ⟨stream, false, result.toBool, known, ?_⟩
      rw [if_neg (mt Record.isEmpty_iff.mp full), Logged.trace_of_perform .closed close,
        Logged.trace_of_perform (.emitted _) emit]
      rfl
    | delivered stream before result sink after phase known full emit close =>
      simp only [phase]
      refine ⟨stream, true, result.toBool, known, ?_⟩
      rw [if_neg (mt Record.isEmpty_iff.mp full), Logged.trace_of_perform .closed close,
        Logged.trace_of_perform (.emitted _) emit]
      rfl

end Batcher

namespace Replay

open Batcher Protocol

variable {σ : Type} [Sink σ]

/-! ### Main statement -/

/-- Two replays left the same reporter and the same clock, and took as many frames. -/
structure Alike (first second : Replay σ) : Prop where
  reporter : first.reporter = second.reporter
  clock : first.clock = second.clock
  frames : first.frames = second.frames

section Run

variable (reporter : Reporter σ) (clock : Clock) (recording : List UInt8)

/-- **The effect of a replay** is that of its frames, and of one stop. -/
theorem run_walk :
    let good := ((pieces recording).map classify).takeWhile Line.isText
    let frames := good.filterMap Line.frame?
    let replay := (run reporter clock recording).2
    replay.reporter = (walk frames (reporter, clock)).1.stop ∧
      replay.clock = (walk frames (reporter, clock)).2 ∧ replay.frames = frames.length ∧
      replay.skippedLines = good.countP Line.isMalformed := by
  intro good frames replay
  obtain ⟨walked, count, skipped⟩ := foldl_after { reporter, clock } good
  have after : replay = (good.foldl after { reporter, clock }).finish := by
    show (run reporter clock recording).2 = _
    rw [run_eq]
    rfl
  obtain ⟨sameReporter, sameClock⟩ := Prod.mk.inj walked
  rw [after]
  exact ⟨congrArg Reporter.stop sameReporter, sameClock, count.trans (Nat.zero_add _),
    skipped.trans (Nat.zero_add _)⟩

/-- What lines hold before the first one that is no text says all but how many were skipped. -/
theorem alike_of_frames {other : List UInt8}
    (same : (((pieces other).map classify).takeWhile Line.isText).filterMap Line.frame? =
      (((pieces recording).map classify).takeWhile Line.isText).filterMap Line.frame?) :
    Alike (run reporter clock other).2 (run reporter clock recording).2 := by
  obtain ⟨otherReporter, otherClock, otherFrames, _⟩ := run_walk reporter clock other
  obtain ⟨sameReporter, sameClock, sameFrames, _⟩ := run_walk reporter clock recording
  simp only [same] at otherReporter otherClock otherFrames
  exact ⟨otherReporter.trans sameReporter.symm, otherClock.trans sameClock.symm,
    otherFrames.trans sameFrames.symm⟩

/-- A recording is readable exactly if all of its lines are texts, and the answer says so. -/
theorem run_answer :
    (run reporter clock recording).1 =
      if ((pieces recording).map classify).all Line.isText then
        .ok (run reporter clock recording).2.summary
      else .error (.file "the recording is not UTF-8") := by
  rw [run_eq]
  rfl

/-- On a new reporter every frame is a cycle. -/
theorem run_cycles {sink : σ} {hostname : String} {syncEvery : Nat}
    (fresh : reporter.batcher = .new sink hostname syncEvery) (uncounted : reporter.cycles = 0) :
    (run reporter clock recording).2.frames =
      (run reporter clock recording).2.reporter.stats.cycles := by
  obtain ⟨walked, _, frames, _⟩ := run_walk reporter clock recording
  have consistent : reporter.batcher.Consistent := by
    rw [fresh]
    exact new_consistent sink hostname syncEvery
  have running : reporter.batcher.phase ≠ .stopped := by
    rw [fresh]
    simp [new]
  rw [walked, frames, walk_live]
  refine ((Reporter.live_cycles consistent running ?_).trans ?_).symm
  · simp
  · rw [uncounted, Nat.zero_add, List.length_map]

/-- The bytes before the first line that is no text are a recording that is readable, and its replay
does the same. -/
theorem alike_of_front (unreadable : ((pieces recording).map classify).all Line.isText = false) :
    ∃ before, before <+: recording ∧
      (run reporter clock before).1 = .ok (run reporter clock before).2.summary ∧
      Alike (run reporter clock before).2 (run reporter clock recording).2 := by
  obtain ⟨line, member, noText⟩ : ∃ line ∈ (pieces recording), (classify line).isText = false := by
    simpa using unreadable
  obtain ⟨first, back, cut⟩ : ∃ line back, pieces recording =
      (pieces recording).takeWhile (Line.isText ∘ classify) ++ line :: back := by
    cases behind : (pieces recording).dropWhile (Line.isText ∘ classify) with
    | nil =>
      have texts := List.dropWhile_eq_nil_iff.mp behind line member
      rw [Function.comp, noText] at texts
      cases texts
    | cons first back => exact ⟨first, back, by rw [← behind, List.takeWhile_append_dropWhile]⟩
  obtain ⟨before, begins, parts⟩ := pieces_of_front cut
  have held : (pieces before).map classify =
      ((pieces recording).map classify).takeWhile Line.isText := by
    rw [parts, List.takeWhile_map]
  have texts : ((pieces before).map classify).all Line.isText = true := by
    rw [held, List.all_eq_true]
    exact fun line member => List.mem_takeWhile_imp member
  refine ⟨before, begins, ?_, alike_of_frames reporter clock recording ?_⟩
  · rw [run_answer, if_pos texts]
  · rw [held, List.takeWhile_takeWhile]
    simp

/-- Whatever the lines hold before the first one that is no text, the batcher is left for good. -/
theorem left_of_run (current : Reporter (Logged σ)) (consistent : current.batcher.Consistent) :
    Left (walk ((((pieces recording).map classify).takeWhile Line.isText).filterMap Line.frame?)
        (current, clock)).1.batcher
      (run current clock recording).2.reporter.batcher := by
  rw [(run_walk current clock recording).1, walk_live]
  obtain ⟨events, lived⟩ := current.live_batcher
    (((((pieces recording).map classify).takeWhile Line.isText).filterMap Line.frame?).map
      fun frame => .report ⟨frame.timestamp⟩ frame.snapshot)
  have consistentAfter := consistent.run events
  rw [← lived] at consistentAfter
  exact (stop_cases consistentAfter).left consistentAfter

/-- **A replay delivers the rows of all samples** that are taken from its frames. -/
theorem rows_of_run (sink : σ) (hostname : String) (syncEvery : Nat) (filter : Filter)
    (mode : ValueMode) (units : Units) :
    let fresh := Reporter.logged sink hostname syncEvery filter mode units
    let frames := (((pieces recording).map classify).takeWhile Line.isText).filterMap Line.frame?
    let asked := fresh.asked (frames.map fun frame => .report ⟨frame.timestamp⟩ frame.snapshot)
    let after := (run fresh clock recording).2.reporter.batcher
    after.sink.handed.map Prod.fst =
      (Offered.rows hostname ((Batcher.logged sink hostname syncEvery).taken asked)).map
        Row.line ∧
    after.sink.trace ∈ finished := by
  intro fresh frames asked after
  have stopped : after = (Batcher.logged sink hostname syncEvery).run (asked ++ [.stop]) := by
    rw [run_concat, ← Reporter.logged_live, ← walk_live frames (fresh, clock)]
    exact congrArg Reporter.batcher (run_walk fresh clock recording).1
  have phase : after.phase = .stopped := by
    rw [stopped, logged_stopped_iff]
    simp
  have gathers := run_gathers sink hostname syncEvery (asked ++ [.stop])
  have reached := run_reached sink hostname syncEvery (asked ++ [.stop])
  rw [← stopped, phase] at reached
  rw [← stopped, taken_concat] at gathers
  simp only [Gathers, phase] at gathers
  refine ⟨?_, reached.mem_finished⟩
  rw [gathers.2.lines, stopped, logged_hostname]
  exact congrArg (fun samples => (Offered.rows hostname samples).map Row.line) (List.append_nil _)

/-- A report offers its samples with the second of its time, rounded down. -/
theorem report_offers {current : Reporter σ} (running : current.batcher.isStopped = false)
    (timestamp : Int64) (snapshot : Snapshot) :
    ∃ samples : List Offered,
      (current.report ⟨timestamp⟩ snapshot).batcher =
        current.batcher.run (.cycle :: samples.map Event.offer) ∧
      ∀ sample ∈ samples, sample.timestamp = timestamp.toInt.fdiv 1000 := by
  obtain ⟨samples, cycle, second⟩ := current.cycle_offers ⟨timestamp⟩ snapshot
  refine ⟨samples, by rw [Reporter.report_batcher running, cycle], fun sample member => ?_⟩
  rw [second sample member, Int.fdiv_eq_ediv_of_nonneg _ (by decide)]
  rfl

end Run

/-- **Replaying is reporting.** Let a recording be cut at its line feeds, and let the good lines be
those before the first one that is no text. For every reporter, every sink and every clock

* a replay does what the frames of the good lines do when each one sets the clock and is reported,
  and then the reporter is stopped, once;
* if all lines are texts, the answer is the summary; frames, skipped lines and blank lines are all
  lines, and on a new reporter the frames are the cycles;
* if not, the answer is that the recording cannot be read, and the effect is that of the bytes before
  the first bad line; in any case what comes behind the good lines has no effect;
* taking blank and malformed lines out, or putting some in, changes neither the reporter nor its
  sink nor the number of frames, nor whether the recording is readable; other line ends change
  nothing at all;
* a report offers its samples with the second of its time, rounded down;
* afterwards the batcher is left for good, with its last row handed over and the sink closed; on a
  new reporter the sink was handed the rows of all samples that were taken from the frames. -/
theorem replay_is_reporting (reporter : Reporter σ) (clock : Clock) (recording : List UInt8) :
    let lines := (pieces recording).map classify
    let good := lines.takeWhile Line.isText
    let frames := good.filterMap Line.frame?
    let walked := walk frames (reporter, clock)
    let answer := (run reporter clock recording).1
    let replay := (run reporter clock recording).2
    (replay.reporter = walked.1.stop ∧ replay.clock = walked.2 ∧ replay.frames = frames.length) ∧
    ((∀ line ∈ lines, line.isText = true) → answer = .ok replay.summary ∧
      replay.frames + replay.skippedLines + lines.countP Line.isBlank = lines.length ∧
      ∀ sink hostname syncEvery, reporter.batcher = .new sink hostname syncEvery →
        reporter.cycles = 0 → replay.frames = replay.summary.stats.cycles) ∧
    ((¬ ∀ line ∈ lines, line.isText = true) →
      answer = .error (.file "the recording is not UTF-8") ∧
      ∃ before, before <+: recording ∧
        (run reporter clock before).1 = .ok (run reporter clock before).2.summary ∧
        Alike (run reporter clock before).2 replay) ∧
    (∀ other, ((pieces other).map classify).takeWhile Line.isText = good →
      Alike (run reporter clock other).2 replay) ∧
    (∀ other, (((pieces other).map classify).filter fun line => !line.isNoise) =
        lines.filter (fun line => !line.isNoise) →
      Alike (run reporter clock other).2 replay ∧
        (run reporter clock other).1.toBool = answer.toBool) ∧
    (∀ other, Respelled recording other →
      run reporter clock other = run reporter clock recording) ∧
    (∀ (current : Reporter σ) (timestamp : Int64) (snapshot : Snapshot),
      current.batcher.isStopped = false → ∃ samples : List Offered,
        (current.report ⟨timestamp⟩ snapshot).batcher =
          current.batcher.run (.cycle :: samples.map Event.offer) ∧
        ∀ sample ∈ samples, sample.timestamp = timestamp.toInt.fdiv 1000) ∧
    (∀ current : Reporter (Logged σ), current.batcher.Consistent →
      Left (walk frames (current, clock)).1.batcher
        (run current clock recording).2.reporter.batcher) ∧
    ∀ (sink : σ) (hostname : String) (syncEvery : Nat) (filter : Filter) (mode : ValueMode)
      (units : Units),
      let fresh := Reporter.logged sink hostname syncEvery filter mode units
      let asked := fresh.asked
        (frames.map fun frame => .report ⟨frame.timestamp⟩ frame.snapshot)
      let after := (run fresh clock recording).2.reporter.batcher
      after.sink.handed.map Prod.fst =
        (Offered.rows hostname ((Batcher.logged sink hostname syncEvery).taken asked)).map
          Row.line ∧
      after.sink.trace ∈ finished := by
  intro lines good frames walked answer replay
  have readable : lines.all Line.isText = true ↔ ∀ line ∈ lines, line.isText = true :=
    List.all_eq_true
  have answered := run_answer reporter clock recording
  obtain ⟨walkedReporter, walkedClock, count, skipped⟩ := run_walk reporter clock recording
  refine ⟨⟨walkedReporter, walkedClock, count⟩, fun texts => ⟨?_, ?_, ?_⟩, fun unreadable => ?_,
    fun other same => alike_of_frames reporter clock recording (by rw [same]), ?_, ?_,
    fun current timestamp snapshot running => report_offers running timestamp snapshot,
    left_of_run clock recording, rows_of_run clock recording⟩
  · rw [if_pos (readable.mpr texts)] at answered
    exact answered
  · have whole : good = lines := List.takeWhile_eq_self_iff.mpr texts
    have lengths := length_of_texts (readable.mpr texts)
    rw [count, skipped]
    simp only [lines, good] at whole lengths ⊢
    rw [whole]
    exact lengths
  · exact fun sink hostname syncEvery => run_cycles reporter clock recording
  · have bad : lines.all Line.isText = false :=
      Bool.eq_false_iff.mpr fun texts => unreadable (readable.mp texts)
    rw [if_neg (Bool.eq_false_iff.mp bad)] at answered
    exact ⟨answered, alike_of_front reporter clock recording bad⟩
  · intro other same
    obtain ⟨otherFrames, otherReadable⟩ := frames_of_filter ((pieces other).map classify)
    obtain ⟨sameFrames, sameReadable⟩ := frames_of_filter lines
    rw [same] at otherFrames otherReadable
    refine ⟨alike_of_frames reporter clock recording (otherFrames.symm.trans sameFrames), ?_⟩
    show (run reporter clock other).1.toBool = (run reporter clock recording).1.toBool
    rw [run_answer, run_answer, ← otherReadable, sameReadable]
    cases lines.all Line.isText <;> rfl
  · intro other respelled
    rw [run_eq, run_eq, respelled.classify_pieces]

end Replay

end MetricRelay

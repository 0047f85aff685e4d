/-
**The calls that a sink gets.**

The calls of a batcher, each with its outcome, form a word of a regular language:

* `Protocol.session`: failed opens; then, if an open succeeds, rows, each one perhaps followed by a
  request for durability; then, if the batcher is stopped, perhaps one more row, and the release;
* `Protocol.Moves`: the same step by step: which calls an event makes in a phase, and the phase
  after it. Only a sample of another second makes a row be delivered while the batcher is running,
  and only then durability is asked for.

Main statement: `Batcher.calls_follow_protocol`.
-/

import Mathlib.Computability.Language
import MetricRelay.Proofs.Batch.Cases
import MetricRelay.Proofs.Report.Cycle

namespace MetricRelay

open scoped Computability

namespace Protocol

/-! ### Words -/

/-- An open that failed. -/
def refusedOpen : Language (SinkCall × Bool) :=
  {trace | ∃ stream, trace = [(.opened stream, false)]}

/-- An open that succeeded. -/
def adoptedOpen : Language (SinkCall × Bool) :=
  {trace | ∃ stream, trace = [(.opened stream, true)]}

/-- A row that was refused. -/
def lostRow : Language (SinkCall × Bool) :=
  {trace | ∃ line, trace = [(.emitted line, false)]}

/-- A row that was taken. -/
def takenRow : Language (SinkCall × Bool) :=
  {trace | ∃ line, trace = [(.emitted line, true)]}

/-- A request for durability. -/
def settling : Language (SinkCall × Bool) :=
  {trace | ∃ succeeded, trace = [(.synced, succeeded)]}

/-- The release of the sink. -/
def release : Language (SinkCall × Bool) :=
  {trace | ∃ succeeded, trace = [(.closed, succeeded)]}

/-- A row on the way: durability is asked for only after it was taken. -/
def row : Language (SinkCall × Bool) :=
  lostRow + takenRow * (1 + settling)

/-- The end: perhaps the last row, and the release in any case. -/
def ending : Language (SinkCall × Bool) :=
  (1 + (lostRow + takenRow)) * release

/-- The calls of a whole life. -/
def session : Language (SinkCall × Bool) :=
  refusedOpen∗ * (1 + adoptedOpen * (row∗ * (1 + ending)))

/-- The calls of a life that was ended. -/
def finished : Language (SinkCall × Bool) :=
  refusedOpen∗ * (1 + adoptedOpen * (row∗ * ending))

/-- How many opens succeeded. -/
def adoptions (trace : Trace) : Nat :=
  trace.countP fun call =>
    match call with
    | (.opened _, true) => true
    | _ => false

/-- How often the sink was released. -/
def releases (trace : Trace) : Nat :=
  trace.countP fun call =>
    match call with
    | (.closed, _) => true
    | _ => false

/-! ### Steps -/

/-- The phase before an event, the event, the phase after it, and the calls it makes. -/
inductive Moves : Phase → Event → Phase → Trace → Prop where
  | cycle (phase : Phase) : Moves phase .cycle phase []
  /-- A sample that needs no call: it is dropped, or it joins the open batch. -/
  | silent (phase : Phase) (sample : Offered) : Moves phase (.offer sample) phase []
  | refused (sample : Offered) {calls : Trace} (opening : calls ∈ refusedOpen) :
      Moves .idle (.offer sample) .idle calls
  | adopted (sample : Offered) {calls : Trace} (opening : calls ∈ adoptedOpen) :
      Moves .idle (.offer sample) (.collecting sample.timestamp) calls
  /-- A sample of another second closes the batch, which may be empty. -/
  | rolled (before : Int) (sample : Offered) {calls : Trace}
      (different : before ≠ sample.timestamp) (closing : calls ∈ 1 + row) :
      Moves (.collecting before) (.offer sample) (.collecting sample.timestamp) calls
  | unused : Moves .idle .stop .stopped []
  | again : Moves .stopped .stop .stopped []
  | ended (before : Int) {calls : Trace} (closing : calls ∈ ending) :
      Moves (.collecting before) .stop .stopped calls

/-- The calls that can have been made when a phase is reached, with how many opens succeeded and
how often the sink was released. -/
def Reached : Phase → Trace → Prop
  | .idle, trace => trace ∈ refusedOpen∗ ∧ adoptions trace = 0 ∧ releases trace = 0
  | .collecting _, trace =>
    trace ∈ refusedOpen∗ * (adoptedOpen * row∗) ∧ adoptions trace = 1 ∧ releases trace = 0
  | .stopped, trace =>
    (trace ∈ refusedOpen∗ ∧ adoptions trace = 0 ∧ releases trace = 0) ∨
      (trace ∈ refusedOpen∗ * (adoptedOpen * (row∗ * ending)) ∧
        adoptions trace = 1 ∧ releases trace = 1)

@[simp] theorem adoptions_append (first later : Trace) :
    adoptions (first ++ later) = adoptions first + adoptions later :=
  List.countP_append

@[simp] theorem releases_append (first later : Trace) :
    releases (first ++ later) = releases first + releases later :=
  List.countP_append

/-- No open succeeded exactly if no call is an open that did. -/
theorem adoptions_eq_zero_iff {trace : Trace} :
    adoptions trace = 0 ↔ ¬ ∃ stream, (.opened stream, true) ∈ trace := by
  rw [adoptions, List.countP_eq_zero]
  constructor
  · rintro unopened ⟨stream, member⟩
    exact unopened _ member rfl
  · rintro unopened ⟨call, succeeded⟩ member
    cases call with
    | opened stream =>
      cases succeeded with
      | true => exact absurd ⟨stream, member⟩ unopened
      | false => simp
    | emitted | synced | closed => simp

/-- A repetition goes on with one more word. -/
theorem concat_mem_kstar {words : Language (SinkCall × Bool)} {first later : Trace}
    (before : first ∈ words∗) (word : later ∈ words) : first ++ later ∈ words∗ := by
  have more : words∗ * words ≤ words∗ := kstar_mul_le_kstar
  exact more (Language.append_mem_mul before word)

/-- Failed opens adopt nothing and release nothing. -/
theorem counts_of_refusedOpen {calls : Trace} (opening : calls ∈ refusedOpen) :
    adoptions calls = 0 ∧ releases calls = 0 := by
  obtain ⟨stream, rfl⟩ := opening
  exact ⟨rfl, rfl⟩

theorem counts_of_adoptedOpen {calls : Trace} (opening : calls ∈ adoptedOpen) :
    adoptions calls = 1 ∧ releases calls = 0 := by
  obtain ⟨stream, rfl⟩ := opening
  exact ⟨rfl, rfl⟩

theorem counts_of_row {calls : Trace} (delivery : calls ∈ row) :
    adoptions calls = 0 ∧ releases calls = 0 := by
  rw [row, Language.mem_add] at delivery
  rcases delivery with ⟨line, rfl⟩ | delivery
  · exact ⟨rfl, rfl⟩
  · obtain ⟨taken, ⟨line, rfl⟩, rest, settled, rfl⟩ := Language.mem_mul.mp delivery
    rcases (Language.mem_add _ _ _).mp settled with void | ⟨succeeded, rfl⟩
    · rw [Language.mem_one] at void
      rw [void]
      exact ⟨rfl, rfl⟩
    · exact ⟨rfl, rfl⟩

theorem counts_of_ending {calls : Trace} (closing : calls ∈ ending) :
    adoptions calls = 0 ∧ releases calls = 1 := by
  obtain ⟨last, delivery, closed, ⟨succeeded, rfl⟩, rfl⟩ := Language.mem_mul.mp closing
  rcases (Language.mem_add _ _ _).mp delivery with void | delivery
  · rw [Language.mem_one] at void
    rw [void]
    exact ⟨rfl, rfl⟩
  · rcases (Language.mem_add _ _ _).mp delivery with ⟨line, rfl⟩ | ⟨line, rfl⟩
    · exact ⟨rfl, rfl⟩
    · exact ⟨rfl, rfl⟩

/-- Only a sample that is offered before the first one was taken can open the sink. -/
theorem Moves.opens_nothing {phase after : Phase} {event : Event} {calls : Trace}
    (moves : Moves phase event after calls) (settled : phase ≠ .idle ∨ event = .stop) :
    adoptions calls = 0 := by
  cases moves with
  | cycle | silent | unused | again => rfl
  | refused sample opening => exact (counts_of_refusedOpen opening).1
  | adopted sample opening =>
    rcases settled with begun | stops
    · exact absurd rfl begun
    · cases stops
  | rolled before sample different closing =>
    rcases (Language.mem_add _ _ _).mp closing with void | delivery
    · rw [Language.mem_one] at void
      rw [void]
      rfl
    · exact (counts_of_row delivery).1
  | ended before closing => exact (counts_of_ending closing).1

/-- **A step leads from what reaches a phase to what reaches the next one.** -/
theorem Reached.move {phase after : Phase} {event : Event} {trace calls : Trace}
    (reached : Reached phase trace) (moves : Moves phase event after calls) :
    Reached after (trace ++ calls) := by
  cases moves with
  | cycle | silent | again =>
    rw [List.append_nil]
    exact reached
  | refused sample opening =>
    obtain ⟨word, noAdoption, noRelease⟩ := reached
    obtain ⟨callsAdopt, callsRelease⟩ := counts_of_refusedOpen opening
    exact ⟨concat_mem_kstar word opening, by simp [noAdoption, callsAdopt],
      by simp [noRelease, callsRelease]⟩
  | adopted sample opening =>
    obtain ⟨word, noAdoption, noRelease⟩ := reached
    obtain ⟨callsAdopt, callsRelease⟩ := counts_of_adoptedOpen opening
    have first : calls ∈ adoptedOpen * row∗ := by
      have word := Language.append_mem_mul opening (Language.nil_mem_kstar row)
      rwa [List.append_nil] at word
    exact ⟨Language.append_mem_mul word first, by simp [noAdoption, callsAdopt],
      by simp [noRelease, callsRelease]⟩
  | rolled before sample different closing =>
    obtain ⟨word, oneAdoption, noRelease⟩ := reached
    rcases (Language.mem_add _ _ _).mp closing with void | delivery
    · rw [Language.mem_one] at void
      rw [void, List.append_nil]
      exact ⟨word, oneAdoption, noRelease⟩
    · obtain ⟨callsAdopt, callsRelease⟩ := counts_of_row delivery
      obtain ⟨failed, failedWord, rest, restWord, rfl⟩ := Language.mem_mul.mp word
      obtain ⟨opened, openedWord, rows, rowsWord, rfl⟩ := Language.mem_mul.mp restWord
      refine ⟨?_, by rw [adoptions_append, oneAdoption, callsAdopt],
        by rw [releases_append, noRelease, callsRelease]⟩
      rw [List.append_assoc, List.append_assoc]
      exact Language.append_mem_mul failedWord
        (Language.append_mem_mul openedWord (concat_mem_kstar rowsWord delivery))
  | unused =>
    rw [List.append_nil]
    exact .inl reached
  | ended before closing =>
    obtain ⟨word, oneAdoption, noRelease⟩ := reached
    obtain ⟨callsAdopt, callsRelease⟩ := counts_of_ending closing
    obtain ⟨failed, failedWord, rest, restWord, rfl⟩ := Language.mem_mul.mp word
    obtain ⟨opened, openedWord, rows, rowsWord, rfl⟩ := Language.mem_mul.mp restWord
    refine .inr ⟨?_, by rw [adoptions_append, oneAdoption, callsAdopt],
      by rw [releases_append, noRelease, callsRelease]⟩
    rw [List.append_assoc, List.append_assoc]
    exact Language.append_mem_mul failedWord
      (Language.append_mem_mul openedWord (Language.append_mem_mul rowsWord closing))

/-- What was called before a phase is a word of the protocol. -/
theorem Reached.mem_session {phase : Phase} {trace : Trace} (reached : Reached phase trace) :
    trace ∈ session := by
  have unopened {trace : Trace} (word : trace ∈ refusedOpen∗) : trace ∈ session := by
    have whole := Language.append_mem_mul word
      ((Language.mem_add 1 (adoptedOpen * (row∗ * (1 + ending))) []).mpr
        (.inl Language.nil_mem_one))
    rwa [List.append_nil] at whole
  have opened {trace : Trace} (rest : Language (SinkCall × Bool)) (smaller : rest ≤ 1 + ending)
      (word : trace ∈ refusedOpen∗ * (adoptedOpen * (row∗ * rest))) : trace ∈ session := by
    have larger : refusedOpen∗ * (adoptedOpen * (row∗ * rest)) ≤ session :=
      mul_le_mul' le_rfl (le_trans (mul_le_mul' le_rfl (mul_le_mul' le_rfl smaller))
        (fun _ member => .inr member))
    exact larger word
  cases phase with
  | idle => exact unopened reached.1
  | collecting before =>
    refine opened 1 (fun _ member => .inl member) ?_
    rw [mul_one]
    exact reached.1
  | stopped =>
    rcases reached with ⟨word, _⟩ | ⟨word, _⟩
    · exact unopened word
    · exact opened ending (fun _ member => .inr member) word

theorem Reached.adoptions_le {phase : Phase} {trace : Trace} (reached : Reached phase trace) :
    adoptions trace ≤ 1 := by
  cases phase with
  | idle => exact le_of_eq_of_le reached.2.1 zero_le_one
  | collecting before => exact le_of_eq reached.2.1
  | stopped =>
    rcases reached with ⟨_, none, _⟩ | ⟨_, one, _⟩
    · exact le_of_eq_of_le none zero_le_one
    · exact le_of_eq one

theorem Reached.releases_le {phase : Phase} {trace : Trace} (reached : Reached phase trace) :
    releases trace ≤ 1 := by
  cases phase with
  | idle => exact le_of_eq_of_le reached.2.2 zero_le_one
  | collecting before => exact le_of_eq_of_le reached.2.2 zero_le_one
  | stopped =>
    rcases reached with ⟨_, _, none⟩ | ⟨_, _, one⟩
    · exact le_of_eq_of_le none zero_le_one
    · exact le_of_eq one

/-- The sink is released exactly if it was opened and the batcher is stopped. -/
theorem Reached.released_iff {phase : Phase} {trace : Trace} (reached : Reached phase trace) :
    releases trace = 1 ↔ adoptions trace = 1 ∧ phase = .stopped := by
  cases phase with
  | idle =>
    obtain ⟨_, _, none⟩ := reached
    simp [none]
  | collecting before =>
    obtain ⟨_, _, none⟩ := reached
    simp [none]
  | stopped =>
    rcases reached with ⟨_, unopened, none⟩ | ⟨_, opened, one⟩
    · simp [unopened, none]
    · simp [opened, one]

/-- The batcher is idle exactly if no open succeeded and it is not stopped. -/
theorem Reached.idle_iff {phase : Phase} {trace : Trace} (reached : Reached phase trace) :
    phase = .idle ↔ (¬ ∃ stream, (.opened stream, true) ∈ trace) ∧ phase ≠ .stopped := by
  rw [← adoptions_eq_zero_iff]
  cases phase with
  | idle => simp [reached.2.1]
  | collecting before => simp [reached.2.1]
  | stopped => simp

theorem Reached.mem_finished {trace : Trace} (reached : Reached .stopped trace) :
    trace ∈ finished := by
  rcases reached with ⟨word, _⟩ | ⟨word, _⟩
  · have whole := Language.append_mem_mul word
      ((Language.mem_add 1 (adoptedOpen * (row∗ * ending)) []).mpr (.inl Language.nil_mem_one))
    rwa [List.append_nil] at whole
  · have larger : refusedOpen∗ * (adoptedOpen * (row∗ * ending)) ≤ finished :=
      mul_le_mul' le_rfl (fun _ member => .inr member)
    exact larger word

/-- A sink that was opened is released last. -/
theorem Reached.released_last {trace : Trace} (reached : Reached .stopped trace)
    (opened : adoptions trace = 1) : ∃ succeeded, trace.getLast? = some (.closed, succeeded) := by
  rcases reached with ⟨_, none, _⟩ | ⟨word, _⟩
  · omega
  · obtain ⟨failed, _, life, lifeWord, rfl⟩ := Language.mem_mul.mp word
    obtain ⟨first, _, used, usedWord, rfl⟩ := Language.mem_mul.mp lifeWord
    obtain ⟨rows, _, last, lastWord, rfl⟩ := Language.mem_mul.mp usedWord
    obtain ⟨delivery, _, closed, ⟨succeeded, rfl⟩, rfl⟩ := Language.mem_mul.mp lastWord
    exact ⟨succeeded, by simp [← List.append_assoc]⟩

end Protocol

namespace Batcher

open Protocol

variable {σ : Type} [Sink σ]

/-- The calls that close a batch make no row or one. -/
theorem Closing.calls {batcher : Batcher (Logged σ)} {stream : StreamKey} {timestamp : Int}
    {result : Bool × Batcher (Logged σ)} (closing : Closing batcher stream timestamp result) :
    ∃ calls ∈ (1 + row : Language (SinkCall × Bool)),
      result.2.sink.trace = batcher.sink.trace ++ calls := by
  let line := Row.line ⟨timestamp, batcher.record, stream.host⟩
  have delivered {calls : Trace}
      (settled : calls ∈ (1 + settling : Language (SinkCall × Bool))) :
      [(.emitted line, true)] ++ calls ∈ (1 + row : Language (SinkCall × Bool)) :=
    .inr (.inr (Language.append_mem_mul
      (show [(SinkCall.emitted line, true)] ∈ takenRow from ⟨line, rfl⟩) settled))
  cases closing with
  | empty void => exact ⟨[], .inl rfl, (List.append_nil _).symm⟩
  | lost failure sink full emit =>
    exact ⟨_, .inr (.inl ⟨line, rfl⟩), Logged.trace_of_perform (.emitted line) emit⟩
  | delivered sink full emit early =>
    exact ⟨_, delivered (.inl rfl), Logged.trace_of_perform (.emitted line) emit⟩
  | settled sink after full emit due sync =>
    refine ⟨_, delivered (.inr ⟨true, rfl⟩), ?_⟩
    rw [Logged.trace_of_perform .synced sync, Logged.trace_of_perform (.emitted line) emit,
      List.append_assoc]
    rfl
  | unsettled sink after failure full emit due sync =>
    refine ⟨_, delivered (.inr ⟨false, rfl⟩), ?_⟩
    rw [Logged.trace_of_perform .synced sync, Logged.trace_of_perform (.emitted line) emit,
      List.append_assoc]
    rfl

theorem Taking.moves {batcher : Batcher (Logged σ)} {sample : Offered}
    {result : Offer × Batcher (Logged σ)} (taking : Taking batcher sample result) :
    ∃ calls, Moves batcher.phase (.offer sample) result.2.phase calls ∧
      result.2.sink.trace = batcher.sink.trace ++ calls := by
  cases taking with
  | stopped | waiting | foreign => exact ⟨[], .silent _ sample, (List.append_nil _).symm⟩
  | refused failure sink phase ready call =>
    refine ⟨[(.opened _, false)], ?_, Logged.trace_of_perform (.opened _) call⟩
    rw [phase]
    exact .refused sample ⟨_, rfl⟩
  | adopted sink phase ready call =>
    refine ⟨[(.opened (sample.stream batcher.hostname), true)], ?_, ?_⟩
    · rw [mergeSample_phase, phase]
      exact .adopted sample ⟨_, rfl⟩
    · rw [mergeSample_sink]
      exact Logged.trace_of_perform (.opened _) call
  | joined phase own =>
    refine ⟨[], ?_, ?_⟩
    · rw [mergeSample_phase]
      exact .silent _ sample
    · rw [mergeSample_sink, List.append_nil]
  | rolled before emitted closed phase own different closing =>
    obtain ⟨calls, closes, traced⟩ := closing.calls
    refine ⟨calls, ?_, ?_⟩
    · rw [mergeSample_phase, phase]
      exact .rolled before sample different closes
    · rw [mergeSample_sink]
      exact traced

theorem Stopping.moves {batcher after : Batcher (Logged σ)} (stopping : Stopping batcher after) :
    ∃ calls, Moves batcher.phase .stop after.phase calls ∧
      after.sink.trace = batcher.sink.trace ++ calls := by
  cases stopping with
  | again phase =>
    rw [phase]
    exact ⟨[], .again, (List.append_nil _).symm⟩
  | unused phase =>
    rw [phase]
    exact ⟨[], .unused, (List.append_nil _).symm⟩
  | empty stream before result sink phase known void close =>
    rw [phase]
    refine ⟨[] ++ [(.closed, _)], .ended before ?_, Logged.trace_of_perform .closed close⟩
    exact Language.append_mem_mul (.inl rfl) ⟨_, rfl⟩
  | lost stream before failure result sink after phase known full emit close =>
    let line := Row.line ⟨before, batcher.record, stream.host⟩
    rw [phase]
    refine ⟨[(.emitted line, false)] ++ [(.closed, result.toBool)], .ended before ?_, ?_⟩
    · exact Language.append_mem_mul (.inr (.inl ⟨line, rfl⟩)) ⟨_, rfl⟩
    · rw [Logged.trace_of_perform .closed close, Logged.trace_of_perform (.emitted line) emit,
        List.append_assoc]
      rfl
  | delivered stream before result sink after phase known full emit close =>
    let line := Row.line ⟨before, batcher.record, stream.host⟩
    rw [phase]
    refine ⟨[(.emitted line, true)] ++ [(.closed, result.toBool)], .ended before ?_, ?_⟩
    · exact Language.append_mem_mul (.inr (.inr ⟨line, rfl⟩)) ⟨_, rfl⟩
    · rw [Logged.trace_of_perform .closed close, Logged.trace_of_perform (.emitted line) emit,
        List.append_assoc]
      rfl

/-- **Every step of a batcher is a step of the protocol.** -/
theorem next_moves {batcher : Batcher (Logged σ)} (consistent : batcher.Consistent)
    (event : Event) :
    ∃ calls, Moves batcher.phase event (batcher.next event).phase calls ∧
      (batcher.next event).sink.trace = batcher.sink.trace ++ calls := by
  cases event with
  | cycle => exact ⟨[], .cycle batcher.phase, (List.append_nil _).symm⟩
  | offer sample => exact (take_cases consistent sample).moves
  | stop => exact (stop_cases consistent).moves

/-- The calls before a run stay. -/
theorem run_extends {batcher : Batcher (Logged σ)} (consistent : batcher.Consistent)
    (events : List Event) :
    ∃ calls, (batcher.run events).sink.trace = batcher.sink.trace ++ calls := by
  induction events using List.reverseRecOn with
  | nil => exact ⟨[], (List.append_nil _).symm⟩
  | append_singleton events event ih =>
    obtain ⟨calls, traced⟩ := ih
    obtain ⟨more, _, last⟩ := next_moves (consistent.run events) event
    rw [run_concat, last, traced, List.append_assoc]
    exact ⟨_, rfl⟩

/-- **The calls of a run reach its phase.** -/
theorem run_reached (sink : σ) (hostname : String) (syncEvery : Nat) (events : List Event) :
    Reached ((logged sink hostname syncEvery).run events).phase
      ((logged sink hostname syncEvery).run events).sink.trace := by
  induction events using List.reverseRecOn with
  | nil => exact ⟨Language.nil_mem_kstar _, rfl, rfl⟩
  | append_singleton events event ih =>
    obtain ⟨calls, moves, traced⟩ :=
      next_moves (logged_consistent sink hostname syncEvery events) event
    rw [run_concat, traced]
    exact ih.move moves

/-- A stopped batcher does nothing any more but to forget that an open failed. -/
theorem run_of_stopped {batcher : Batcher (Logged σ)} (phase : batcher.phase = .stopped)
    (events : List Event) :
    ∃ openFailed, batcher.run events = { batcher with openFailed } := by
  induction events using List.reverseRecOn with
  | nil => exact ⟨batcher.openFailed, rfl⟩
  | append_singleton events event ih =>
    obtain ⟨openFailed, same⟩ := ih
    rw [run_concat, same]
    have stopped : ({ batcher with openFailed } : Batcher (Logged σ)).phase = .stopped := phase
    cases event with
    | cycle => exact ⟨false, rfl⟩
    | offer sample => exact ⟨openFailed, congrArg Prod.snd (take_of_stopped stopped sample)⟩
    | stop => exact ⟨openFailed, stop_of_stopped stopped⟩

theorem emitRow_phase (batcher : Batcher σ) (timestamp : Int) :
    (batcher.emitRow timestamp).2.phase = batcher.phase := by
  unfold emitRow
  cases batcher.stream with
  | none => rfl
  | some stream =>
    simp only
    rcases Sink.emit (Row.line ⟨timestamp, batcher.record, stream.host⟩) batcher.sink with
      ⟨_ | _, sink⟩ <;> rfl

theorem finish_phase (batcher : Batcher σ) (timestamp : Option Int) :
    (batcher.finish timestamp).phase = batcher.phase := by
  unfold finish
  cases timestamp with
  | none => rfl
  | some timestamp =>
    by_cases empty : batcher.record.isEmpty = true
    · simp only [if_pos empty]
    · simp only [if_neg empty]
      exact emitRow_phase batcher timestamp

theorem stop_phase (batcher : Batcher σ) : batcher.stop.phase = .stopped := by
  unfold stop
  by_cases already : batcher.isStopped = true
  · rw [if_pos already]
    exact isStopped_iff.mp already
  · rw [if_neg already]
    cases batcher.stream with
    | none => rfl
    | some stream =>
      exact finish_phase { batcher with phase := .stopped, stream := some stream } _

/-- **A second stop does nothing.** -/
theorem stop_stop (batcher : Batcher σ) : batcher.stop.stop = batcher.stop :=
  stop_of_stopped (stop_phase batcher)

/-- After a stop a run leaves the sink alone. -/
theorem run_sink_of_stop {sink : σ} {hostname : String} {syncEvery : Nat} {events : List Event}
    (stopped : .stop ∈ events) (later : List Event) :
    (((logged sink hostname syncEvery).run events).run later).sink =
      ((logged sink hostname syncEvery).run events).sink := by
  have phase := (logged_stopped_iff sink hostname syncEvery events).mpr stopped
  obtain ⟨openFailed, same⟩ := run_of_stopped phase later
  rw [same]

/-- A stop without an open before it leaves the sink alone. -/
theorem Stopping.sink_of_unopened {batcher after : Batcher (Logged σ)}
    (stopping : Stopping batcher after) (reached : Reached batcher.phase batcher.sink.trace)
    (unopened : adoptions batcher.sink.trace = 0) : after.sink = batcher.sink := by
  cases stopping with
  | again | unused => rfl
  | empty _ _ _ _ phase | lost _ _ _ _ _ _ phase | delivered _ _ _ _ _ phase =>
    rw [phase] at reached
    have opened : adoptions batcher.sink.trace = 1 := reached.2.1
    omega

/-- **What the sink of a batcher is asked for.** Whatever the sink answers, and whatever the batcher
is asked for in whatever order:

* the calls form a word of the protocol, and each step adds those that the protocol gives it;
* at most one open succeeds, and the sink is released exactly if one did and the batcher was
  stopped, exactly once;
* no call follows a stop;
* a second stop changes nothing; a stop leaves a sink alone that was never opened, and releases one
  that was, also if the last row fails;
* a reporter that goes out of use leaves its sink as a stop does. -/
theorem calls_follow_protocol (sink : σ) (hostname : String) (syncEvery : Nat)
    (events : List Event) :
    let batcher := (logged sink hostname syncEvery).run events
    batcher.sink.trace ∈ session ∧
    (∀ event, ∃ calls, Moves batcher.phase event (batcher.next event).phase calls ∧
      (batcher.next event).sink.trace = batcher.sink.trace ++ calls) ∧
    adoptions batcher.sink.trace ≤ 1 ∧
    releases batcher.sink.trace ≤ 1 ∧
    (releases batcher.sink.trace = 1 ↔ adoptions batcher.sink.trace = 1 ∧ .stop ∈ events) ∧
    (.stop ∈ events → ∀ later, (batcher.run later).sink = batcher.sink) ∧
    batcher.stop.stop = batcher.stop ∧
    (adoptions batcher.sink.trace = 0 → batcher.stop.sink = batcher.sink) ∧
    (adoptions batcher.sink.trace = 1 →
      ∃ succeeded, batcher.stop.sink.trace.getLast? = some (.closed, succeeded)) ∧
    ∀ (reporter : Reporter (Logged σ)) (requests : List Request),
      reporter.batcher = logged sink hostname syncEvery →
        (reporter.live requests).drop.trace ∈ finished ∧
        (reporter.live (requests ++ [.stop])).drop = (reporter.live requests).drop ∧
        ∃ asked, (reporter.live requests).batcher = reporter.batcher.run asked ∧
          (reporter.live requests).drop = (reporter.batcher.run (asked ++ [.stop])).sink := by
  intro batcher
  have consistent : batcher.Consistent := logged_consistent sink hostname syncEvery events
  have reached : Reached batcher.phase batcher.sink.trace :=
    run_reached sink hostname syncEvery events
  have stopped : batcher.phase = .stopped ↔ .stop ∈ events :=
    logged_stopped_iff sink hostname syncEvery events
  -- A run that ends with a stop reaches the end of the protocol.
  have ended (events : List Event) : Reached .stopped
      ((logged sink hostname syncEvery).run events).stop.sink.trace := by
    have reached := run_reached sink hostname syncEvery (events ++ [.stop])
    rw [(logged_stopped_iff sink hostname syncEvery _).mpr (by simp), run_concat] at reached
    exact reached
  refine ⟨reached.mem_session, next_moves consistent,
    reached.adoptions_le, reached.releases_le, ?_, fun asked => run_sink_of_stop asked,
    stop_stop batcher, (stop_cases consistent).sink_of_unopened reached, ?_, ?_⟩
  · rw [reached.released_iff, stopped]
  · intro opened
    have before := (ended events).adoptions_le
    refine (ended events).released_last (le_antisymm before ?_)
    obtain ⟨calls, _, traced⟩ := (stop_cases consistent).moves
    rw [traced, adoptions_append]
    exact opened.ge.trans (Nat.le_add_right _ _)
  · intro reporter requests fresh
    obtain ⟨asked, lived⟩ := reporter.live_batcher requests
    have dropped : (reporter.live requests).drop = (reporter.batcher.run asked).stop.sink := by
      rw [← lived]
      rfl
    refine ⟨?_, ?_, asked, lived, ?_⟩
    · rw [dropped, fresh]
      exact (ended asked).mem_finished
    · have again : (reporter.live (requests ++ [.stop])).drop =
          (reporter.live requests).batcher.stop.stop.sink := by
        unfold Reporter.live
        rw [List.foldl_concat]
        rfl
      rw [again, stop_stop]
      rfl
    · rw [dropped, run_concat]
      rfl

end Batcher

end MetricRelay

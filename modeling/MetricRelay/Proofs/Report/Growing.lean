/-
**A recording that its own replay may add to.**

A replay looks at its recording again whenever it took all lines that it saw, and takes what was
added meanwhile. So it reads the recording in parts (`Replay.Reads`): what was there at the first
look comes first, and what is read stands in the recording in the end. If nothing was added until
then, the lines that are taken are those of the recording.

* `Recording.Chunk`: the part of some bytes that one round reads;
* `Replay.Growing`: the recording only ever gets longer, as far as the calls of the sink go;
* `Replay.takeGrowing_step`: one round. A round that goes on comes before the others
  (`Replay.Reads.cons`), so that several read a recording in parts (`Replay.Growing.reads`).

Main statement of the module: `Replay.Growing.runGrowing_eq`.
-/

import MetricRelay.Proofs.Report.Replayed

namespace MetricRelay

namespace Recording

/-! ### The bytes of one round -/

theorem splitFrom_of_plain {rest : List UInt8} (plain : 10 ∉ rest) (line : List UInt8) :
    splitFrom line rest = ([], line.reverse ++ rest) := by
  induction rest generalizing line with
  | nil => rw [splitFrom, List.append_nil]
  | cons byte rest ih =>
    obtain ⟨other, later⟩ := not_or.mp (mt List.mem_cons.mpr plain)
    rw [splitFrom, if_neg fun feed => other feed.symm, ih later, List.reverse_cons,
      List.append_assoc]
    rfl

/-- What is behind a line feed is split on its own. -/
theorem splitFrom_feed (line front behind : List UInt8) :
    splitFrom line (front ++ 10 :: behind) =
      ((splitFrom line (front ++ [10])).1 ++ (split behind).1, (split behind).2) := by
  induction front generalizing line with
  | nil => rfl
  | cons byte rest ih =>
    rw [List.cons_append, List.cons_append, splitFrom, splitFrom]
    by_cases feed : byte = 10
    · rw [if_pos feed, if_pos feed, ih []]
      rfl
    · rw [if_neg feed, if_neg feed]
      exact ih _

theorem splitFrom_ne_nil {rest : List UInt8} (feeds : 10 ∈ rest) (line : List UInt8) :
    (splitFrom line rest).1 ≠ [] := by
  induction rest generalizing line with
  | nil => cases feeds
  | cons byte rest ih =>
    rw [splitFrom]
    by_cases feed : byte = 10
    · rw [if_pos feed]
      exact List.cons_ne_nil _ _
    · rw [if_neg feed]
      exact ih ((List.mem_cons.mp feeds).resolve_left fun same => feed same.symm) _

theorem split_feed (front : List UInt8) :
    (split (front ++ [10])).1 ≠ [] ∧ (split (front ++ [10])).2 = [] :=
  ⟨splitFrom_ne_nil (List.mem_append_right _ List.mem_cons_self) [],
    congrArg Prod.snd (splitFrom_feed [] front [])⟩

theorem lines_feed (front behind : List UInt8) :
    lines (front ++ 10 :: behind) = lines (front ++ [10]) ++ lines behind := by
  have parts : split (front ++ 10 :: behind) = _ := splitFrom_feed [] front behind
  have ended := (split_feed front).2
  simp only [lines, parts, ended, List.isEmpty_nil, if_true]
  by_cases void : (split behind).2.isEmpty = true
  · rw [if_pos void, if_pos void]
    rfl
  · rw [if_neg void, if_neg void, List.append_assoc]
    rfl

theorem exists_last_feed {bytes : List UInt8} (feeds : 10 ∈ bytes) :
    ∃ front behind, bytes = front ++ 10 :: behind ∧ 10 ∉ behind := by
  obtain ⟨behind, front, reversed, plain⟩ :=
    List.eq_append_cons_of_mem (List.mem_reverse.mpr feeds)
  refine ⟨front.reverse, behind.reverse, ?_, mt List.mem_reverse.mp plain⟩
  rw [← List.reverse_reverse bytes, reversed, List.reverse_append, List.reverse_cons,
    List.append_assoc]
  rfl

/-- The part of some bytes that one round reads, and the rest: all lines that have an end, or one
line without an end if there is no other. -/
inductive Chunk : List UInt8 → List UInt8 → List UInt8 → Prop where
  | unended {bytes : List UInt8} (full : bytes ≠ []) (plain : 10 ∉ bytes) : Chunk bytes bytes []
  | ended (front : List UInt8) {behind : List UInt8} (plain : 10 ∉ behind) :
      Chunk (front ++ 10 :: behind) (front ++ [10]) behind

theorem exists_chunk {bytes : List UInt8} (full : bytes ≠ []) :
    ∃ chunk behind, Chunk bytes chunk behind := by
  by_cases feeds : 10 ∈ bytes
  · obtain ⟨front, behind, rfl, plain⟩ := exists_last_feed feeds
    exact ⟨_, _, .ended front plain⟩
  · exact ⟨_, _, .unended full feeds⟩

namespace Chunk

variable {bytes chunk behind : List UInt8} (part : Chunk bytes chunk behind)

include part

theorem append_eq : chunk ++ behind = bytes := by
  cases part with
  | unended => exact List.append_nil _
  | ended front => rw [List.append_assoc]; rfl

theorem plain_behind : 10 ∉ behind := by
  cases part with
  | unended => exact List.not_mem_nil
  | ended front plain => exact plain

theorem feeds_of_behind (more : behind ≠ []) : 10 ∈ bytes := by
  cases part with
  | unended => exact absurd rfl more
  | ended front => exact List.mem_append_right _ List.mem_cons_self

theorem lines_eq : lines bytes = lines chunk ++ lines behind := by
  cases part with
  | unended => exact (List.append_nil _).symm
  | ended front => exact lines_feed front behind

/-- A round gets as far as the first line feed. -/
theorem prefix_of_plain {front : List UInt8} (plain : 10 ∉ front) (begins : front <+: bytes) :
    front <+: chunk := by
  cases part with
  | unended => exact begins
  | @ended cut behind _ =>
    have cutBegins : cut ++ [10] <+: cut ++ 10 :: behind := ⟨behind, by simp⟩
    refine (List.prefix_or_prefix_of_prefix begins cutBegins).resolve_right fun longer => ?_
    exact plain (longer.mem (List.mem_append_right _ List.mem_cons_self))

end Chunk

end Recording

namespace Replay

open Batcher Recording

variable {σ : Type} [Sink σ]

/-! ### Lines that are taken one after the other -/

theorem takeLines_append (replay : Replay σ) (first later : List (List UInt8)) :
    replay.takeLines (first ++ later) =
      if (replay.takeLines first).1 then (replay.takeLines first).2.takeLines later
      else replay.takeLines first := by
  induction first generalizing replay with
  | nil => rfl
  | cons line rest ih =>
    rw [List.cons_append, takeLines, takeLines]
    cases text? line with
    | none => rfl
    | some text => exact ih _

/-- What lines do to the batcher is a run. -/
theorem takeLines_batcher (replay : Replay σ) (lines : List (List UInt8)) :
    ∃ events, (replay.takeLines lines).2.reporter.batcher = replay.reporter.batcher.run events := by
  rw [takeLines_reporter]
  exact Reporter.live_batcher _ _

/-! ### Looking again -/

/-- The sink a replay has come to. -/
def sink (replay : Replay σ) : σ :=
  replay.reporter.batcher.sink

/-- Where nothing is behind what was read, a replay has come to the end. -/
theorem takeGrowing_of_void {recording : σ → List UInt8} {position : Nat} {replay : Replay σ}
    (void : (recording replay.sink).drop position = []) (rounds : Nat) :
    takeGrowing recording rounds position replay = (true, replay) := by
  cases rounds with
  | zero => rfl
  | succ rounds =>
    rw [takeGrowing]
    simp only [show replay.reporter.batcher.sink = replay.sink from rfl, void]
    rfl

/-- **One round** takes the lines of its chunk, and another one follows if they are all texts. -/
theorem takeGrowing_step {recording : σ → List UInt8} {position : Nat} {replay : Replay σ}
    {chunk behind : List UInt8}
    (part : Chunk ((recording replay.sink).drop position) chunk behind) (rounds : Nat) :
    takeGrowing recording (rounds + 1) position replay =
      if (replay.takeLines (lines chunk)).1 then
        takeGrowing recording rounds (position + chunk.length)
          (replay.takeLines (lines chunk)).2
      else replay.takeLines (lines chunk) := by
  rw [takeGrowing]
  simp only [show replay.reporter.batcher.sink = replay.sink from rfl]
  generalize (recording replay.sink).drop position = bytes at part ⊢
  cases part with
  | unended full plain =>
    have unended : split chunk = ([], chunk) := splitFrom_of_plain plain []
    have void : chunk.isEmpty = false := List.isEmpty_eq_false_iff.mpr full
    simp only [lines, unended, void, List.isEmpty_nil, List.nil_append, Bool.false_eq_true,
      if_true, if_false]
    rcases replay.takeLines [chunk] with ⟨_ | _, after⟩ <;> rfl
  | @ended front behind plain =>
    have parts : split (front ++ 10 :: behind) = ((split (front ++ [10])).1, behind) := by
      have unended : split behind = ([], behind) := splitFrom_of_plain plain []
      have cut := splitFrom_feed [] front behind
      rw [unended, List.append_nil] at cut
      exact cut
    obtain ⟨someEnded, noneBehind⟩ := split_feed front
    have full : (front ++ 10 :: behind).isEmpty = false := by simp
    have length : (front ++ 10 :: behind).length - behind.length = (front ++ [10]).length := by
      simp only [List.length_append, List.length_cons, List.length_nil]
      omega
    simp only [lines, parts, full, noneBehind, List.isEmpty_eq_false_iff.mpr someEnded, length,
      List.isEmpty_nil, Bool.false_eq_true, if_true, if_false]
    rcases replay.takeLines (split (front ++ [10])).1 with ⟨_ | _, after⟩ <;> rfl

/-- What is read of a recording in some rounds, from a position on: the lines of some parts of it
are taken, up to the first one that is no text. -/
structure Reads (recording : σ → List UInt8) (rounds position : Nat) (replay : Replay σ)
    (parts : List (List UInt8)) : Prop where
  taken : takeGrowing recording rounds position replay = replay.takeLines (parts.flatMap lines)
  /-- What is read stands in the recording in the end. -/
  inside : parts.flatten <+:
    (recording (takeGrowing recording rounds position replay).2.sink).drop position
  /-- One round gets as far as the first line feed. -/
  plain : rounds ≠ 0 → ∀ front, 10 ∉ front → front <+: (recording replay.sink).drop position →
    front <+: parts.flatten
  /-- Two rounds get behind all that was there. -/
  whole : 2 ≤ rounds → (recording replay.sink).drop position <+: parts.flatten
  /-- If nothing was added in the end, the lines are those that were there. -/
  still : recording (takeGrowing recording rounds position replay).2.sink = recording replay.sink →
    ((recording replay.sink).drop position ≠ [] → rounds ≠ 0) →
    (10 ∈ (recording replay.sink).drop position → 2 ≤ rounds) →
    parts.flatMap lines = lines ((recording replay.sink).drop position)

namespace Reads

variable {recording : σ → List UInt8} {rounds position : Nat} {replay : Replay σ}
  {chunk behind : List UInt8} {parts : List (List UInt8)}

/-- Nothing is read where nothing is. -/
theorem of_void (void : (recording replay.sink).drop position = []) :
    Reads recording rounds position replay [] := by
  refine ⟨takeGrowing_of_void void rounds, List.nil_prefix, fun _ front _ begins => ?_,
    fun _ => ?_, fun _ _ _ => ?_⟩
  · rwa [void] at begins
  · rw [void]
    exact List.prefix_refl []
  · rw [void]
    rfl

/-- A line that is no text ends it all. -/
theorem of_stuck (part : Chunk ((recording replay.sink).drop position) chunk behind)
    (stuck : (replay.takeLines (lines chunk)).1 = false)
    (longer : recording replay.sink <+: recording (replay.takeLines (lines chunk)).2.sink) :
    Reads recording (rounds + 1) position replay [(recording replay.sink).drop position] := by
  have step := takeGrowing_step part rounds
  rw [if_neg (Bool.eq_false_iff.mp stuck)] at step
  refine ⟨?_, ?_, fun _ front _ begins => ?_, fun _ => ?_, fun _ _ _ => ?_⟩
  · rw [step, List.flatMap_singleton, part.lines_eq, takeLines_append,
      if_neg (Bool.eq_false_iff.mp stuck)]
  · rw [step, List.flatten_singleton]
    exact longer.drop position
  · rwa [List.flatten_singleton]
  · rw [List.flatten_singleton]
  · rw [List.flatMap_singleton]

/-- **One more round**, whose lines are all texts, comes before the others. -/
theorem cons (part : Chunk ((recording replay.sink).drop position) chunk behind)
    (texts : (replay.takeLines (lines chunk)).1 = true)
    (longer : recording replay.sink <+: recording (replay.takeLines (lines chunk)).2.sink)
    (reads : Reads recording rounds (position + chunk.length)
      (replay.takeLines (lines chunk)).2 parts)
    (evenLonger : recording (replay.takeLines (lines chunk)).2.sink <+:
      recording (takeGrowing recording (rounds + 1) position replay).2.sink) :
    Reads recording (rounds + 1) position replay (chunk :: parts) := by
  have step := takeGrowing_step part rounds
  have cut := part.append_eq
  have begins := longer.drop position
  obtain ⟨taken, inside, plain, _, still⟩ := reads
  rw [if_pos texts] at step
  rw [← step, ← List.drop_drop] at inside
  rw [← step] at still
  rw [← List.drop_drop] at plain still
  refine ⟨?_, ?_, ?_, ?_, ?_⟩
  · rw [step, taken, List.flatMap_cons, takeLines_append, if_pos texts]
  · obtain ⟨rest, final⟩ := begins.trans (evenLonger.drop position)
    rw [← final, ← cut, List.append_assoc, List.drop_left] at inside
    rw [List.flatten_cons, ← final, ← cut, List.append_assoc]
    exact (List.prefix_append_right_inj chunk).mpr inside
  · exact fun _ front unfed first =>
      (part.prefix_of_plain unfed first).trans (List.prefix_append _ _)
  · intro twice
    obtain ⟨rest, middle⟩ := begins
    rw [← middle, ← cut, List.append_assoc, List.drop_left] at plain
    rw [← cut, List.flatten_cons]
    exact (List.prefix_append_right_inj chunk).mpr
      (plain (by omega) behind part.plain_behind (List.prefix_append _ _))
  · intro unmoved _ twice
    -- What did not change in the end did not change in between.
    have same : recording (replay.takeLines (lines chunk)).2.sink = recording replay.sink := by
      rw [unmoved] at evenLonger
      exact evenLonger.eq_of_length_le longer.length_le
    have again (more : behind ≠ []) : rounds ≠ 0 := by
      have enough := twice (part.feeds_of_behind more)
      omega
    rw [same, ← cut, List.drop_left] at still
    rw [part.lines_eq, List.flatMap_cons, still unmoved again
      fun feeds => absurd feeds part.plain_behind]

end Reads

/-- The calls of a sink only ever add to a recording, as long as the sink is sound. -/
def Growing (sound : σ → Prop) (recording : σ → List UInt8) : Prop :=
  ∀ bytes, Sink.Keeps fun sink => sound sink ∧ bytes <+: recording sink

section Growing

variable {sound : σ → Prop} {recording : σ → List UInt8} (growing : Growing sound recording)
  {replay : Replay σ} (consistent : replay.reporter.batcher.Consistent)
  (isSound : sound replay.sink)

include growing consistent isSound

theorem Growing.takeLines (lines : List (List UInt8)) :
    (replay.takeLines lines).2.reporter.batcher.Consistent ∧
      sound (replay.takeLines lines).2.sink ∧
      recording replay.sink <+: recording (replay.takeLines lines).2.sink := by
  obtain ⟨events, run⟩ := takeLines_batcher replay lines
  unfold sink
  rw [run]
  exact ⟨consistent.run events, consistent.run_keeps (growing (recording replay.sink))
    ⟨isSound, List.prefix_refl _⟩ events⟩

/-- **A recording is read in parts.** What was there comes first, what is read is there in the end,
and if that is the same the lines are those of the recording. -/
theorem Growing.reads (rounds position : Nat) :
    ∃ parts, Reads recording rounds position replay parts := by
  induction rounds generalizing position replay with
  | zero =>
    by_cases void : (recording replay.sink).drop position = []
    · exact ⟨[], .of_void void⟩
    · exact ⟨[], rfl, List.nil_prefix, fun none => absurd rfl none,
        fun none => absurd none (by decide), fun _ none _ => absurd rfl (none void)⟩
  | succ rounds ih =>
    by_cases void : (recording replay.sink).drop position = []
    · exact ⟨[], .of_void void⟩
    obtain ⟨chunk, behind, part⟩ := exists_chunk void
    obtain ⟨consistentAfter, soundAfter, longer⟩ :=
      growing.takeLines consistent isSound (lines chunk)
    cases texts : (replay.takeLines (lines chunk)).1 with
    | false => exact ⟨_, .of_stuck part texts longer⟩
    | true =>
      obtain ⟨parts, reads⟩ := ih consistentAfter soundAfter (position + chunk.length)
      obtain ⟨_, _, evenLonger⟩ :=
        growing.takeLines consistentAfter soundAfter (parts.flatMap lines)
      have step := takeGrowing_step part rounds
      rw [if_pos texts, reads.taken] at step
      rw [← step] at evenLonger
      exact ⟨chunk :: parts, .cons part texts longer reads evenLonger⟩

end Growing

/-- **A replay of a recording that may grow** takes the lines of its parts. The end of the replay may
add to it once more. -/
theorem Growing.runGrowing_eq {sound : σ → Prop} {recording : σ → List UInt8}
    (growing : Growing sound recording) {reporter : Reporter σ}
    (consistent : reporter.batcher.Consistent) (isSound : sound reporter.batcher.sink)
    (clock : Clock) :
    let start : Replay σ := { reporter, clock }
    let given := recording reporter.batcher.sink
    let ended := runGrowing reporter clock recording
    ∃ parts : List (List UInt8),
      ended = conclude (start.takeLines (parts.flatMap lines)).1
        (start.takeLines (parts.flatMap lines)).2 ∧
      sound ended.2.sink ∧ given <+: parts.flatten ∧ parts.flatten <+: recording ended.2.sink ∧
      (recording ended.2.sink = given → parts.flatMap lines = lines given) := by
  intro start given ended
  have consistentStart : start.reporter.batcher.Consistent := consistent
  have soundStart : sound start.sink := isSound
  obtain ⟨parts, taken, inside, _, whole, still⟩ :=
    growing.reads consistentStart soundStart rounds 0
  obtain ⟨consistentAfter, soundAfter, longer⟩ :=
    growing.takeLines consistentStart soundStart (parts.flatMap lines)
  have concluded : ended = conclude (start.takeLines (parts.flatMap lines)).1
      (start.takeLines (parts.flatMap lines)).2 := by
    rw [← taken]
    rfl
  rw [taken] at inside still
  refine ⟨parts, concluded, ?_⟩
  generalize start.takeLines (parts.flatMap lines) = reached at *
  have stopped : ended.2.sink = (reached.2.reporter.batcher.run [.stop]).sink := by
    rw [concluded]
    rfl
  obtain ⟨soundEnd, evenLonger⟩ := consistentAfter.run_keeps (growing (recording reached.2.sink))
    ⟨soundAfter, List.prefix_refl _⟩ [.stop]
  rw [← stopped] at soundEnd evenLonger
  rw [List.drop_zero] at inside whole still
  refine ⟨soundEnd, whole (by decide), inside.trans evenLonger, fun unmoved => ?_⟩
  rw [unmoved] at evenLonger
  exact still (evenLonger.eq_of_length_le longer.length_le) (fun _ => by decide)
    fun _ => by decide

end Replay

end MetricRelay

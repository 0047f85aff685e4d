/-
**What reaches the files of a journal.**

A journal is used in any way: opened for any streams, handed any lines, synced and closed at any
time, and let go of at the end; calls to the disk are made to fail at will. Then

* every file grows only by whole lines, which the journal took while the file was the open one, in
  their order, none twice; no other file changes;
* opening that fails leaves the open file and its buffer alone, and opening what is open does
  nothing; opening that succeeds makes the log of the stream the open file, where its path leads;
* if no call is made to fail, then after a sync, a close, a switch to another file, and after
  letting go, every file on a device that takes bytes has all lines that the journal took for it.

Main statement: `Journal.files_get_whole_lines`.
-/

import Mathlib.Data.List.Induction
import MetricRelay.Proofs.Sink.Calls

namespace MetricRelay

open Disk (nowhere only)

/-- No call to the disk was made to fail. -/
def Disk.Undisturbed (start now : Disk) : Prop :=
  ∃ used, start.faults = used ++ now.faults ∧ true ∉ used

namespace Journal

open Books

variable {start : Disk} {journal : Journal} {books : Books}

/-- A journal that was not used yet, on a disk. -/
def fresh (directory : Path) (start : Disk) : Logged Journal :=
  { sink := { directory, disk := start } }

/-- **All calls** on a journal, with the lines that it took, and the reason if it refused one. -/
theorem performAll_step {logged : Logged Journal} (right : books.Right start logged.sink)
    (known : ∀ entry ∈ logged.entries, ∀ place, entry.RefusedAt place → books.Excused start place)
    (calls : List SinkCall) :
    ∃ new added, Step start logged.sink (SinkCall.performAll calls logged).sink books new added ∧
      (∀ place, (SinkCall.performAll calls logged).linesAt place =
        logged.linesAt place ++ added place) ∧
      ∀ entry ∈ (SinkCall.performAll calls logged).entries, ∀ place, entry.RefusedAt place →
        new.Excused start place := by
  induction calls generalizing logged books with
  | nil => exact ⟨books, nowhere, (Keeps.refl right).step, fun _ => (List.append_nil _).symm, known⟩
  | cons call rest ih =>
    obtain ⟨between, early, _, _, reason⟩ := perform_step right call
    rw [← Logged.sink_perform] at early
    have alsoKnown : ∀ entry ∈ (call.perform logged).2.entries, ∀ place, entry.RefusedAt place →
        between.Excused start place := by
      intro entry member place refused
      rw [Logged.entries_perform, List.mem_append, List.mem_singleton] at member
      rcases member with old | last
      · exact early.goes.excused (known entry old place refused)
      · rw [last] at refused
        exact reason place refused
    obtain ⟨new, added, late, lines, reasons⟩ := ih early.right alsoKnown
    refine ⟨new, _, early.trans late, fun place => ?_, reasons⟩
    rw [← List.append_assoc, ← congrFun (linesAt_perform call logged) place]
    exact lines place

/-- A journal that was used in any way has books. -/
theorem run_books (directory : Path) (start : Disk) (calls : List SinkCall) :
    ∃ books : Books, Step start (fresh directory start).sink
        (SinkCall.performAll calls (fresh directory start)).sink {} books
        (SinkCall.performAll calls (fresh directory start)).linesAt ∧
      ∀ entry ∈ (SinkCall.performAll calls (fresh directory start)).entries, ∀ place,
        entry.RefusedAt place → books.Excused start place := by
  have right : Right start (fresh directory start).sink {} := new_right directory start
  obtain ⟨new, added, step, lines, reasons⟩ := performAll_step right
    (fun entry member => by cases member) calls
  have same : (SinkCall.performAll calls (fresh directory start)).linesAt = added := by
    funext place
    rw [lines]
    exact List.nil_append _
  rw [same]
  exact ⟨new, step, reasons⟩

/-- **The files of a journal** are the logs of the streams that it opened. -/
theorem run_opens (directory : Path) (start : Disk) (calls : List SinkCall) :
    (SinkCall.performAll calls (fresh directory start)).Opens directory := by
  induction calls using List.reverseRecOn with
  | nil =>
    refine ⟨rfl, fun log opened => ?_, fun place was => ?_⟩
    · cases opened
    · rcases was with opened | ⟨entry, member, _⟩
      · cases opened
      · cases member
  | append_singleton calls call ih =>
    obtain ⟨books, step, _⟩ := run_books directory start calls
    rw [SinkCall.performAll_append]
    exact ih.perform step.right call

theorem written_sublist {directory : Path} {lines : List String → List String}
    (step : Step start (fresh directory start).sink journal {} books lines) (place : List String) :
    (books.written place).Sublist (lines place) :=
  (List.sublist_append_left _ _).trans (step.kept place)

/-- **Files that are never open** stay as they are. -/
theorem content?_of_not_wasOpen (directory : Path) (start : Disk) (calls : List SinkCall)
    {place : List String}
    (never : ¬ (SinkCall.performAll calls (fresh directory start)).WasOpen place) :
    (SinkCall.performAll calls (fresh directory start)).sink.disk.content? place =
      start.content? place := by
  induction calls using List.reverseRecOn with
  | nil => rfl
  | append_singleton calls call ih =>
    obtain ⟨books, step, _⟩ := run_books directory start calls
    have last : SinkCall.performAll (calls ++ [call]) (fresh directory start) =
        (call.perform (SinkCall.performAll calls (fresh directory start))).2 :=
      SinkCall.performAll_append calls [call] (fresh directory start)
    rw [last] at never ⊢
    generalize SinkCall.performAll calls (fresh directory start) = logged at never ih step ⊢
    obtain ⟨new, _, alone, _⟩ := perform_step step.right call
    rw [← Logged.sink_perform] at alone
    have before : logged.sink.place? ≠ some place := by
      refine fun opened => never (.inr ⟨Logged.entry call logged.sink, ?_, opened⟩)
      rw [Logged.entries_perform]
      exact List.mem_append_right _ (List.mem_singleton_self _)
    refine (alone place before fun opened => never (.inl opened)).trans (ih fun was => never ?_)
    rcases was with opened | ⟨entry, member, opened⟩
    · exact absurd opened before
    · refine .inr ⟨entry, ?_, opened⟩
      rw [Logged.entries_perform]
      exact List.mem_append_left _ member

/-- If nothing was made to fail, only the full device is a reason to lose a line. -/
theorem not_excused (grows : start.Grows journal.disk books.used books.written)
    (undisturbed : start.Undisturbed journal.disk) {place : List String}
    (device : start.node? place ≠ some .full) : ¬ books.Excused start place := by
  obtain ⟨used, faults, clean⟩ := undisturbed
  rw [grows.faults] at faults
  rw [← List.append_cancel_right faults] at clean
  exact fun excused => excused.elim clean device

/-- Settled books say what is in the files. -/
theorem extend_of_settled {directory : Path} {lines : List String → List String}
    (step : Step start (fresh directory start).sink journal {} books lines)
    (settled : Settled start journal books) (undisturbed : start.Undisturbed journal.disk)
    {place : List String} (device : start.node? place ≠ some .full) :
    Lines.Extend (lines place) (start.content? place) (journal.disk.content? place) := by
  have blameless := not_excused step.right.grows undisturbed device
  have whole : books.written place ++ [] = lines place := by
    rw [← settled place blameless]
    exact step.whole place blameless
  rw [← whole, List.append_nil]
  exact step.right.grows.extend place

/-- **What reaches the files of a journal.** Let a journal be used in any way, on a disk whose calls
fail at will, and look at it early, now, and after it let go of its file:

* every file gets whole lines at its end, and they are, in order, some of those that the journal
  took while the file was the open one;
* a file that was never open is as it was, and a call changes no file but the one that is open
  before or after it;
* opening that fails leaves the open file, its buffer and all files as they are; opening what is
  open does nothing; after opening that succeeds the log of the stream is open, and it stands where
  its path leads;
* a file that is or was open stands where the path of a stream leads that was opened;
* if no call to the disk was made to fail, a file that is not the full device gets all lines that
  the journal was handed while it was open, and has them after a sync, a close, a switch to another
  file, and after letting go. -/
theorem files_get_whole_lines (directory : Path) (start : Disk) (first later : List SinkCall) :
    let early := SinkCall.performAll first (fresh directory start)
    let now := SinkCall.performAll (first ++ later) (fresh directory start)
    (∀ place, ∃ written more last : List String,
      Lines.Extend written (start.content? place) (early.sink.disk.content? place) ∧
      Lines.Extend more (early.sink.disk.content? place) (now.sink.disk.content? place) ∧
      Lines.Extend last (now.sink.disk.content? place) (now.sink.letGo.disk.content? place) ∧
      written.Sublist (early.linesAt place) ∧
      (written ++ more).Sublist (now.linesAt place) ∧
      (written ++ more ++ last).Sublist (now.linesAt place)) ∧
    (∀ place, ¬ now.WasOpen place →
      now.sink.disk.content? place = start.content? place ∧
      now.sink.letGo.disk.content? place = start.content? place) ∧
    (∀ (call : SinkCall) (place : List String), now.sink.place? ≠ some place →
      (call.perform now).2.sink.place? ≠ some place →
      (call.perform now).2.sink.disk.content? place = now.sink.disk.content? place) ∧
    (∀ stream failure after, now.sink.openStream stream = (.error failure, after) →
      after.log = now.sink.log ∧
      ∀ place, after.disk.content? place = now.sink.disk.content? place) ∧
    (∀ stream, now.sink.path?.any (logPath now.sink.directory stream).same = true →
      now.sink.openStream stream = (.ok (), now.sink)) ∧
    (∀ stream after, now.sink.openStream stream = (.ok (), after) → ∃ log, after.log = some log ∧
      (logPath directory stream).same log.path = true ∧
      after.disk.place? log.path = some log.place) ∧
    (∀ place, now.WasOpen place → ∃ stream, (.opened stream, true) ∈ now.trace ∧
      now.sink.disk.place? (logPath directory stream) = some place) ∧
    (start.Undisturbed now.sink.disk → ∀ entry ∈ now.entries, ∀ place,
      start.node? place ≠ some .full → ¬ entry.RefusedAt place) ∧
    (∀ call, now.sink.IsBarrier call → start.Undisturbed (call.perform now).2.sink.disk →
      ∀ place, start.node? place ≠ some .full →
        Lines.Extend ((call.perform now).2.linesAt place) (start.content? place)
          ((call.perform now).2.sink.disk.content? place)) ∧
    (start.Undisturbed now.sink.letGo.disk → ∀ place, start.node? place ≠ some .full →
      Lines.Extend (now.linesAt place) (start.content? place)
        (now.sink.letGo.disk.content? place)) := by
  intro early now
  have continued : now = SinkCall.performAll later early :=
    SinkCall.performAll_append first later (fresh directory start)
  obtain ⟨earlyBooks, earlyStep, earlyKnown⟩ := run_books directory start first
  obtain ⟨nowBooks, nowStep, nowKnown⟩ := run_books directory start (first ++ later)
  have opens := run_opens directory start (first ++ later)
  refine ⟨fun place => ?_, fun place never => ?_, fun call place absent absentAfter => ?_,
    fun stream failure after failed => ?_, fun stream same => ?_,
    fun stream after succeeded => ?_, opens.place,
    fun undisturbed entry member place device refused => ?_,
    fun call barrier undisturbed place device => ?_, fun undisturbed place device => ?_⟩
  · obtain ⟨books, added, step, lines, _⟩ := performAll_step earlyStep.right earlyKnown later
    rw [← continued] at step lines
    obtain ⟨leftBooks, left, _⟩ := letGo_step step.right
    obtain ⟨_, more, moreGrows, _, moreEq⟩ := step.goes
    obtain ⟨_, last, lastGrows, _, lastEq⟩ := left.goes
    refine ⟨earlyBooks.written place, more place, last place, earlyStep.right.grows.extend place,
      moreGrows.extend place, lastGrows.extend place, written_sublist earlyStep place, ?_, ?_⟩
    · rw [← moreEq, lines]
      exact written_sublist (earlyStep.trans step) place
    · rw [← moreEq, ← lastEq, lines]
      have whole := written_sublist ((earlyStep.trans step).trans left) place
      rwa [nowhere, List.append_nil] at whole
  · have same := content?_of_not_wasOpen directory start (first ++ later) never
    obtain ⟨_, _, alone⟩ := letGo_step nowStep.right
    have left := alone place (fun opened => never (.inl opened)) fun gone => by cases gone
    exact ⟨same, left.trans same⟩
  · obtain ⟨_, _, alone, _⟩ := perform_step nowStep.right call
    rw [Logged.sink_perform] at absentAfter ⊢
    exact alone place absent absentAfter
  · have opening := openStream_cases nowStep.right stream
    rw [failed] at opening
    cases opening with
    | failed _ _ _ keeps log quiet => exact ⟨log, quiet⟩
  · unfold openStream
    rw [if_pos same]
  · have opened := log_of_openStream nowStep.right succeeded
    rwa [show now.sink.directory = directory from opens.below] at opened
  · exact not_excused nowStep.right.grows undisturbed device (nowKnown entry member place refused)
  · obtain ⟨books, step, _, settled, _⟩ := perform_step nowStep.right call
    rw [← Logged.sink_perform] at step settled
    rw [linesAt_perform]
    exact extend_of_settled (nowStep.trans step) (settled barrier) undisturbed device
  · obtain ⟨books, left, _⟩ := letGo_step nowStep.right
    have extended :=
      extend_of_settled (nowStep.trans left) (settled_of_closed rfl) undisturbed device
    rwa [nowhere, List.append_nil] at extended

end Journal

end MetricRelay

/-
**What one call does to a journal.**

A call delivers at most one line, to the file that is open. The open file is the log of a stream: it
is the last one that was opened, and it stands where the path of that stream leads.

* `Journal.Performed`: what a call does to the books, and what it delivers and refuses
  (`Journal.perform_step`);
* `Journal.Stays`: the same file is open, below the same directory;
* `Logged.Opens`: every file that is or was open is the log of a stream. Every call keeps it
  (`Logged.Opens.perform`).
-/

import MetricRelay.Proofs.Sink.Books

namespace MetricRelay

open Disk (nowhere only)

/-- The line that a call delivered to the file at a place, if the call succeeded. -/
def LogEntry.lineAt? (entry : LogEntry Journal) (place : List String) : Option String :=
  if entry.succeeded = true ∧ entry.before.place? = some place then entry.call.line? else none

/-- A line was handed over while the file at a place was open, and it was not taken. -/
def LogEntry.RefusedAt (entry : LogEntry Journal) (place : List String) : Prop :=
  entry.call.line? ≠ none ∧ entry.succeeded = false ∧ entry.before.place? = some place

/-- The lines that a journal took for the file at a place, in order. -/
def Logged.linesAt (logged : Logged Journal) (place : List String) : List String :=
  logged.entries.filterMap fun entry => entry.lineAt? place

/-- They are among the lines that it took. -/
theorem Logged.linesAt_sublist (logged : Logged Journal) (place : List String) :
    (logged.linesAt place).Sublist logged.takenLines := by
  unfold Logged.linesAt Logged.takenLines Logged.handed Logged.trace
  induction logged.entries with
  | nil => exact .slnil
  | cons entry rest ih =>
    rw [List.filterMap_cons, List.map_cons, List.filterMap_cons]
    unfold LogEntry.lineAt?
    cases held : entry.call.line? with
    | none =>
      rw [ite_self]
      exact ih
    | some line =>
      cases succeeded : entry.succeeded with
      | false => exact ih
      | true =>
        by_cases here : entry.before.place? = some place
        · rw [if_pos ⟨rfl, here⟩]
          exact ih.cons_cons line
        · rw [if_neg fun both => here both.2]
          exact ih.cons line

/-- The file at a place is the open one, now or before some call. -/
def Logged.WasOpen (logged : Logged Journal) (place : List String) : Prop :=
  logged.sink.place? = some place ∨ ∃ entry ∈ logged.entries, entry.before.place? = some place

namespace Journal

open Books

variable {start : Disk} {journal : Journal} {books : Books}

/-! ### Lines -/

/-- After this call nothing is to be left in the buffer: a sync, a close, or a switch to another
file. -/
def IsBarrier (journal : Journal) : SinkCall → Prop
  | .opened stream => (journal.openStream stream).1.toBool = true ∧
    journal.path?.any (logPath journal.directory stream).same = false
  | .emitted _ => False
  | .synced | .closed => True

/-- The line that a call delivers to the file at a place. -/
def deliveredBy (journal : Journal) (call : SinkCall) (place : List String) : List String :=
  ((Logged.entry call journal).lineAt? place).toList

/-- What one call does to the books of a journal. -/
structure Performed (start : Disk) (journal : Journal) (books : Books) (call : SinkCall)
    (new : Books) : Prop where
  step : Step start journal (call.perform journal).2 books new (journal.deliveredBy call)
  alone : Local journal (call.perform journal).2
  settled : journal.IsBarrier call → Settled start (call.perform journal).2 new
  excused : ∀ place, (Logged.entry call journal).RefusedAt place → new.Excused start place

/-- A call without a line delivers and refuses nothing. -/
theorem Performed.of_silent {call : SinkCall} (silent : call.line? = none) {new : Books}
    (step : Step start journal (call.perform journal).2 books new nowhere)
    (alone : Local journal (call.perform journal).2)
    (settled : journal.IsBarrier call → Settled start (call.perform journal).2 new) :
    Performed start journal books call new := by
  have nothing : journal.deliveredBy call = nowhere := by
    funext place
    unfold deliveredBy LogEntry.lineAt?
    rw [show (Logged.entry call journal).call.line? = none from silent, ite_self]
    rfl
  refine ⟨by rw [nothing]; exact step, alone, settled, fun place refused => ?_⟩
  have voiced : call.line? ≠ none := refused.1
  exact absurd silent voiced

theorem opened_performed (right : books.Right start journal) (stream : StreamKey) :
    ∃ new, Performed start journal books (.opened stream) new := by
  have opening := openStream_cases right stream
  rcases outcome : journal.openStream stream with ⟨result, after⟩
  rw [outcome] at opening
  have performed : (SinkCall.opened stream).perform journal = (result, after) := outcome
  cases opening with
  | already same =>
    refine ⟨books, .of_silent rfl (by rw [performed]; exact (Keeps.refl right).step)
      (by rw [performed]; exact Local.refl journal) fun barrier => ?_⟩
    rw [barrier.2] at same
    cases same
  | failed failure _ new keeps log quiet =>
    refine ⟨new, .of_silent rfl (by rw [performed]; exact keeps.step)
      (by rw [performed]; exact fun place _ _ => quiet place) fun barrier => ?_⟩
    have succeeded := barrier.1
    rw [outcome] at succeeded
    cases succeeded
  | switched _ new other step alone void _ =>
    exact ⟨new, .of_silent rfl (by rw [performed]; exact step) (by rw [performed]; exact alone)
      fun _ => settled_of_held void⟩

section Emitted

variable {line : String} {result : Except Failure Unit} {after : Journal} {new : Books}

/-- A line is delivered to the open file if it is taken. -/
theorem deliveredBy_emitted (made : journal.emit line = (result, after)) (place : List String) :
    journal.deliveredBy (.emitted line) place =
      if result.toBool = true ∧ journal.place? = some place then [line] else [] := by
  have performed : (SinkCall.emitted line).perform journal = (result, after) := made
  rw [show result = ((SinkCall.emitted line).perform journal).1 by rw [performed]]
  exact apply_ite Option.toList _ _ _

theorem refusedAt_emitted (made : journal.emit line = (result, after)) {place : List String}
    (refused : (Logged.entry (.emitted line) journal).RefusedAt place) :
    result.toBool = false ∧ journal.place? = some place := by
  have performed : (SinkCall.emitted line).perform journal = (result, after) := made
  have failed : ((SinkCall.emitted line).perform journal).1.toBool = false := refused.2.1
  rw [performed] at failed
  exact ⟨failed, refused.2.2⟩

/-- A line that is refused is delivered nowhere. -/
theorem Performed.of_refused {failure : Failure}
    (made : journal.emit line = (.error failure, after))
    (step : Step start journal after books new nowhere) (alone : Local journal after)
    (reason : ∀ place, journal.place? = some place → new.Excused start place) :
    Performed start journal books (.emitted line) new := by
  have performed : (SinkCall.emitted line).perform journal = (.error failure, after) := made
  have nothing : journal.deliveredBy (.emitted line) = nowhere := by
    funext place
    rw [deliveredBy_emitted made]
    rfl
  exact ⟨by rw [nothing, performed]; exact step, by rw [performed]; exact alone, False.elim,
    fun place refused => reason place (refusedAt_emitted made refused).2⟩

/-- A line that is taken is delivered to the file that is open. -/
theorem Performed.of_taken {log : OpenLog} (opened : journal.log = some log)
    (made : journal.emit line = (.ok (), after))
    (keeps : Keeps start journal after books new (only log.place [line]))
    (alone : Local journal after) : Performed start journal books (.emitted line) new := by
  have performed : (SinkCall.emitted line).perform journal = (.ok (), after) := made
  have same : journal.deliveredBy (.emitted line) = only log.place [line] := by
    funext place
    rw [deliveredBy_emitted made, place?_of_log opened]
    unfold only
    simp [Except.toBool, eq_comm]
  refine ⟨by rw [same, performed]; exact keeps.step, by rw [performed]; exact alone, False.elim,
    fun place refused => ?_⟩
  cases (refusedAt_emitted made refused).1

end Emitted

theorem emitted_performed (right : books.Right start journal) (line : String) :
    ∃ new, Performed start journal books (.emitted line) new := by
  have emitting := emit_cases right line
  rcases outcome : journal.emit line with ⟨result, after⟩
  rw [outcome] at emitting
  cases emitting with
  | closed unopened =>
    refine ⟨books, .of_refused outcome (Keeps.refl right).step (Local.refl journal)
      fun place opened => ?_⟩
    rw [place?, unopened] at opened
    cases opened
  | taken log opened _ new keeps alone placed => exact ⟨new, .of_taken opened outcome keeps alone⟩
  | refused log opened failure _ new written reason keeps alone placed =>
    refine ⟨new, .of_refused outcome keeps.step alone fun place here => ?_⟩
    rw [place?_of_log opened] at here
    rwa [← Option.some.inj here]
  | lost log opened failure _ new stuck reason step alone placed unwritten =>
    refine ⟨new, .of_refused outcome step alone fun place here => ?_⟩
    rw [place?_of_log opened] at here
    rwa [← Option.some.inj here]

/-- **One call** on a journal. -/
theorem perform_step (right : books.Right start journal) (call : SinkCall) :
    ∃ new, Performed start journal books call new := by
  cases call with
  | opened stream => exact opened_performed right stream
  | emitted line => exact emitted_performed right line
  | synced =>
    obtain ⟨new, keeps, alone, _, settled⟩ := sync_keeps right
    exact ⟨new, .of_silent rfl keeps.step alone fun _ => settled⟩
  | closed =>
    obtain ⟨new, step, alone, closed⟩ := close_step right
    exact ⟨new, .of_silent rfl step alone fun _ => settled_of_closed closed⟩

theorem linesAt_perform (call : SinkCall) (logged : Logged Journal) :
    (call.perform logged).2.linesAt = fun place =>
      logged.linesAt place ++ logged.sink.deliveredBy call place := by
  funext place
  rw [Logged.perform_eq]
  show (logged.entries ++ [Logged.entry call logged.sink]).filterMap _ = _
  rw [List.filterMap_append]
  rfl

/-! ### Open files -/

/-- The file that is open: its path and its place. -/
def file? (journal : Journal) : Option (Path × List String) :=
  journal.log.map fun log => (log.path, log.place)

/-- The same file is open, below the same directory. -/
structure Stays (before after : Journal) : Prop where
  directory : after.directory = before.directory
  file : after.file? = before.file?

theorem flush_file (log : OpenLog) (disk : Disk) :
    (flush log disk).2.1.path = log.path ∧ (flush log disk).2.1.place = log.place := by
  unfold flush
  by_cases void : log.pending.size = 0
  · rw [if_pos void]
    exact ⟨rfl, rfl⟩
  · rw [if_neg void]
    rcases disk.append log.place log.pending with ⟨_ | _, after⟩
    · exact ⟨rfl, rfl⟩
    · exact ⟨rfl, rfl⟩

theorem emit_stays (line : String) (journal : Journal) : Stays journal (journal.emit line).2 := by
  unfold emit
  cases opened : journal.log with
  | none => exact ⟨rfl, rfl⟩
  | some log =>
    -- The buffer may be written first.
    have begun : ∃ written current disk,
        (if log.pending.size + (line ++ "\n").toUTF8.size > capacity then flush log journal.disk
          else (true, log, journal.disk)) = (written, current, disk) ∧
        current.path = log.path ∧ current.place = log.place := by
      by_cases exceeds : log.pending.size + (line ++ "\n").toUTF8.size > capacity
      · rw [if_pos exceeds]
        exact ⟨_, _, _, rfl, flush_file log journal.disk⟩
      · rw [if_neg exceeds]
        exact ⟨true, log, journal.disk, rfl, rfl, rfl⟩
    obtain ⟨written, current, disk, taken, path, place⟩ := begun
    have file : some (current.path, current.place) = journal.file? := by
      unfold file?
      rw [opened, path, place, Option.map_some]
    have fileToo : some (log.path, log.place) = journal.file? := by
      rw [← file, path, place]
    simp only [taken]
    cases written with
    | false => exact ⟨rfl, fileToo⟩
    | true =>
      simp only [Bool.not_true, Bool.false_eq_true, if_false]
      by_cases small : (line ++ "\n").toUTF8.size < capacity
      · rw [if_pos small]
        exact ⟨rfl, file⟩
      · rw [if_neg small]
        rcases disk.append current.place (line ++ "\n").toUTF8 with ⟨_ | _, after⟩
        · exact ⟨rfl, fileToo⟩
        · exact ⟨rfl, file⟩

theorem sync_stays (journal : Journal) : Stays journal journal.sync.2 := by
  unfold sync
  cases opened : journal.log with
  | none => exact ⟨rfl, rfl⟩
  | some log =>
    simp only
    obtain ⟨path, place⟩ := flush_file log journal.disk
    rcases outcome : flush log journal.disk with ⟨written, current, disk⟩
    rw [outcome] at path place
    have file : some (current.path, current.place) = journal.file? := by
      unfold file?
      rw [opened, path, place, Option.map_some]
    cases written with
    | false => exact ⟨rfl, file⟩
    | true =>
      simp only
      rcases disk.settle current.place with ⟨_ | _, after⟩
      · exact ⟨rfl, file⟩
      · exact ⟨rfl, file⟩

theorem openStream_directory (stream : StreamKey) (journal : Journal) :
    (journal.openStream stream).2.directory = journal.directory := by
  rw [openStream_eq]
  simp only
  by_cases same : journal.path?.any (logPath journal.directory stream).same = true
  · rw [if_pos same]
  · rw [if_neg same]
    rcases journal.prepared (logPath journal.directory stream) with ⟨_ | _, disk⟩
    · rfl
    · simp only
      rcases disk.openAppend (logPath journal.directory stream) with ⟨_ | place, after⟩ <;> rfl

theorem perform_directory (call : SinkCall) (journal : Journal) :
    (call.perform journal).2.directory = journal.directory := by
  cases call with
  | opened stream => exact openStream_directory stream journal
  | emitted line => exact (emit_stays line journal).directory
  | synced => exact (sync_stays journal).directory
  | closed =>
    show (close journal).2.directory = journal.directory
    unfold close
    split
    · rfl
    · exact (sync_stays journal).directory

theorem Stays.path_eq {after : Journal} (stays : Stays journal after) {log : OpenLog}
    (opened : after.log = some log) :
    ∃ before, journal.log = some before ∧ log.path = before.path := by
  have file := stays.file
  unfold file? at file
  rw [opened, Option.map_some, eq_comm] at file
  obtain ⟨before, known, same⟩ := Option.map_eq_some_iff.mp file
  exact ⟨before, known, (congrArg Prod.fst same).symm⟩

/-- **What is open after a call** was open before, or it is the log of the stream that the call has
opened. -/
theorem path_of_perform (right : books.Right start journal) (call : SinkCall) {log : OpenLog}
    (opened : (call.perform journal).2.log = some log) :
    (∃ before, journal.log = some before ∧ log.path = before.path) ∨
      ∃ stream, call = .opened stream ∧ (call.perform journal).1.toBool = true ∧
        log.path = logPath journal.directory stream := by
  cases call with
  | emitted line => exact .inl ((emit_stays line journal).path_eq opened)
  | synced => exact .inl ((sync_stays journal).path_eq opened)
  | closed =>
    obtain ⟨_, _, _, gone⟩ := close_step right
    have closed : journal.close.2.log = some log := opened
    rw [gone] at closed
    cases closed
  | opened stream =>
    have opening := openStream_cases right stream
    rcases outcome : journal.openStream stream with ⟨result, after⟩
    have performed : (SinkCall.opened stream).perform journal = (result, after) := outcome
    rw [performed] at opened ⊢
    rw [outcome] at opening
    cases opening with
    | already same => exact .inl ⟨log, opened, rfl⟩
    | failed failure _ new keeps same quiet => exact .inl ⟨log, same.symm.trans opened, rfl⟩
    | switched _ new other step alone void known =>
      have same : log = _ := Option.some.inj (opened.symm.trans known)
      exact .inr ⟨stream, rfl, rfl, by rw [same]⟩

/-- **After a stream was opened** its log is the open file, and it stands where its path leads. -/
theorem log_of_openStream (right : books.Right start journal) {stream : StreamKey}
    {after : Journal} (succeeded : journal.openStream stream = (.ok (), after)) :
    ∃ log, after.log = some log ∧ (logPath journal.directory stream).same log.path = true ∧
      after.disk.place? log.path = some log.place := by
  have opening := openStream_cases right stream
  rw [succeeded] at opening
  cases opening with
  | already same =>
    unfold path? at same
    rw [Option.any_map, Option.any_eq_true] at same
    obtain ⟨log, opened, same⟩ := same
    exact ⟨log, opened, same, right.located log opened⟩
  | switched _ new other step alone void opened =>
    exact ⟨_, opened, beq_self_eq_true _, step.right.located _ opened⟩

end Journal

/-- A journal below a directory, and the streams that it opened: the open file has the path of one
of them, and every file that is or was open stands where the path of one of them leads. -/
structure Logged.Opens (directory : Path) (logged : Logged Journal) : Prop where
  below : logged.sink.directory = directory
  path : ∀ log, logged.sink.log = some log → ∃ stream, (.opened stream, true) ∈ logged.trace ∧
    log.path = Journal.logPath directory stream
  place : ∀ place, logged.WasOpen place → ∃ stream, (.opened stream, true) ∈ logged.trace ∧
    logged.sink.disk.place? (Journal.logPath directory stream) = some place

/-- **Every call** opens logs of streams only. -/
theorem Logged.Opens.perform {start : Disk} {directory : Path} {logged : Logged Journal}
    {books : Books} (right : books.Right start logged.sink) (opens : logged.Opens directory)
    (call : SinkCall) : (call.perform logged).2.Opens directory := by
  obtain ⟨new, performed⟩ := Journal.perform_step right call
  have path : ∀ log, (call.perform logged).2.sink.log = some log →
      ∃ stream, (.opened stream, true) ∈ (call.perform logged).2.trace ∧
        log.path = Journal.logPath directory stream := by
    intro log opened
    rw [Logged.sink_perform] at opened
    rw [Logged.trace_perform]
    rcases Journal.path_of_perform right call opened with
      ⟨before, known, same⟩ | ⟨stream, rfl, succeeded, same⟩
    · obtain ⟨stream, member, known⟩ := opens.path before known
      exact ⟨stream, List.mem_append_left _ member, same.trans known⟩
    · have result : ((SinkCall.opened stream).perform logged).1.toBool = true := by
        rw [Logged.perform_eq]
        exact succeeded
      rw [result]
      exact ⟨stream, List.mem_append_right _ (List.mem_singleton_self _),
        same.trans (by rw [opens.below])⟩
  refine ⟨?_, path, fun place was => ?_⟩
  · rw [Logged.sink_perform, Journal.perform_directory]
    exact opens.below
  · -- A file that was open before still stands where its path leads.
    have stays (was : logged.WasOpen place) :
        ∃ stream, (.opened stream, true) ∈ (call.perform logged).2.trace ∧
          (call.perform logged).2.sink.disk.place? (Journal.logPath directory stream) =
            some place := by
      obtain ⟨stream, member, leads⟩ := opens.place place was
      rw [Logged.trace_perform, Logged.sink_perform]
      exact ⟨stream, List.mem_append_left _ member, performed.step.goes.place? leads⟩
    rcases was with now | ⟨entry, member, was⟩
    · obtain ⟨log, opened, rfl⟩ := Option.map_eq_some_iff.mp now
      obtain ⟨stream, member, same⟩ := path log opened
      refine ⟨stream, member, ?_⟩
      rw [← same, Logged.sink_perform]
      rw [Logged.sink_perform] at opened
      exact performed.step.right.located log opened
    · rw [Logged.entries_perform, List.mem_append, List.mem_singleton] at member
      rcases member with old | rfl
      · exact stays (.inr ⟨entry, old, was⟩)
      · exact stays (.inl was)

end MetricRelay

/-
**An account of a journal, line by line.**

A journal deals in bytes: those on the disk, and those in its buffer. `Books` say of which lines
they are: which were written at each place, and which are held. They are right (`Books.Right`) if
the disk grew by the lines that were written and the buffer has the bytes of those that are held.

For each operation of a journal one lemma says how the books go on (`Books.Step`):

* no line comes in but one that is accepted, and it comes in last;
* a line leaves the books only for a reason: a call that was made to fail, or a device that takes no
  bytes;
* no file changes but the one that is open (`Journal.Local`).
-/

import MetricRelay.Proofs.Disk.Tree
import MetricRelay.Proofs.Sink.Logged
import MetricRelay.Sink.Journal

namespace MetricRelay

open Disk (nowhere only)

namespace Journal

/-- The place of the open file. -/
def place? (journal : Journal) : Option (List String) :=
  journal.log.map OpenLog.place

theorem place?_of_log {journal : Journal} {log : OpenLog} (opened : journal.log = some log) :
    journal.place? = some log.place := by
  rw [place?, opened, Option.map_some]

theorem place?_ne_of_log {journal : Journal} {log : OpenLog} (opened : journal.log = some log)
    {place : List String} (other : place ≠ log.place) : journal.place? ≠ some place := by
  rw [place?_of_log opened]
  exact fun equal => other (Option.some.inj equal).symm

/-- Only the file that is open before or after changes. -/
def Local (before after : Journal) : Prop :=
  ∀ place, before.place? ≠ some place → after.place? ≠ some place →
    after.disk.content? place = before.disk.content? place

theorem Local.refl (journal : Journal) : Local journal journal :=
  fun _ _ _ => rfl

/-- Local changes compose, unless another file is open only in between. -/
theorem Local.trans {before middle after : Journal} (early : Local before middle)
    (late : Local middle after)
    (known : middle.place? = before.place? ∨ middle.place? = after.place?) :
    Local before after := by
  intro place absentBefore absentAfter
  have absent : middle.place? ≠ some place := by
    rcases known with same | same
    · rw [same]
      exact absentBefore
    · rw [same]
      exact absentAfter
  rw [late place absent absentAfter, early place absentBefore absent]

end Journal

/-- The outcomes that were asked for, the lines that were written at each place, and the lines that
are still in the buffer. -/
structure Books where
  used : List Bool := []
  written : List String → List String := nowhere
  held : List String := []

namespace Books

/-- The lines that are held for a place. -/
def heldAt (books : Books) (journal : Journal) (place : List String) : List String :=
  if journal.place? = some place then books.held else []

/-- All lines of a place. -/
def total (books : Books) (journal : Journal) (place : List String) : List String :=
  books.written place ++ books.heldAt journal place

/-- The books are those of a journal that began with this disk. -/
structure Right (start : Disk) (journal : Journal) (books : Books) : Prop where
  grows : start.Grows journal.disk books.used books.written
  closed : journal.log = none → books.held = []
  opened : ∀ log, journal.log = some log →
    log.pending = Lines.bytes books.held ∧ Node.IsOpen (journal.disk.node? log.place)
  /-- The open file stands where its path leads. -/
  located : ∀ log, journal.log = some log → journal.disk.place? log.path = some log.place

/-- A line can be lost: a call was made to fail, or the place is the device that takes no bytes. -/
def Excused (start : Disk) (books : Books) (place : List String) : Prop :=
  true ∈ books.used ∨ start.node? place = some .full

/-- The disk grows as the books tell. -/
def GoesOn (before after : Journal) (old new : Books) : Prop :=
  ∃ used more, before.disk.Grows after.disk used more ∧ new.used = old.used ++ used ∧
    ∀ place, new.written place = old.written place ++ more place

/-- How the books go on when lines are added and none is lost. -/
structure Keeps (start : Disk) (before after : Journal) (old new : Books)
    (added : List String → List String) : Prop where
  right : new.Right start after
  goes : GoesOn before after old new
  whole : ∀ place, new.total after place = old.total before place ++ added place

/-- How the books go on when lines are added and some may be lost, for a reason. -/
structure Step (start : Disk) (before after : Journal) (old new : Books)
    (added : List String → List String) : Prop where
  right : new.Right start after
  goes : GoesOn before after old new
  kept : ∀ place, (new.total after place).Sublist (old.total before place ++ added place)
  whole : ∀ place, ¬ new.Excused start place →
    new.total after place = old.total before place ++ added place

variable {start : Disk} {before middle after journal : Journal} {old between new books : Books}
  {first later added : List String → List String}

theorem GoesOn.of_disk (disk : after.disk = before.disk) (used : new.used = old.used)
    (written : new.written = old.written) : GoesOn before after old new :=
  ⟨[], nowhere, by rw [disk]; exact .refl before.disk, by rw [used, List.append_nil],
    fun _ => by rw [written, nowhere, List.append_nil]⟩

theorem GoesOn.trans (early : GoesOn before middle old between)
    (late : GoesOn middle after between new) : GoesOn before after old new := by
  obtain ⟨used, more, grows, usedEq, writtenEq⟩ := early
  obtain ⟨usedLater, moreLater, growsLater, usedLaterEq, writtenLaterEq⟩ := late
  refine ⟨used ++ usedLater, fun place => more place ++ moreLater place, grows.trans growsLater, ?_,
    fun place => ?_⟩
  · rw [usedLaterEq, usedEq, List.append_assoc]
  · rw [writtenLaterEq, writtenEq, List.append_assoc]

/-- A file that is open stays a file. -/
theorem GoesOn.isOpen (goes : GoesOn before after old new) {place : List String}
    (opened : Node.IsOpen (before.disk.node? place)) : Node.IsOpen (after.disk.node? place) := by
  obtain ⟨used, more, grows, _⟩ := goes
  exact (grows.nodes place).isOpen opened

/-- A path leads where it led. -/
theorem GoesOn.place? (goes : GoesOn before after old new) {path : Path} {place : List String}
    (leads : before.disk.place? path = some place) : after.disk.place? path = some place := by
  obtain ⟨used, more, grows, _⟩ := goes
  exact grows.place? leads

theorem GoesOn.excused (goes : GoesOn before after old new) {place : List String}
    (excused : old.Excused start place) : new.Excused start place := by
  obtain ⟨used, more, _, usedEq, _⟩ := goes
  refine excused.imp_left fun failed => ?_
  rw [usedEq]
  exact List.mem_append_left used failed

theorem Keeps.step (keeps : Keeps start before after old new added) :
    Step start before after old new added where
  right := keeps.right
  goes := keeps.goes
  kept place := keeps.whole place ▸ List.Sublist.refl (new.total after place)
  whole place _ := keeps.whole place

theorem Keeps.refl (right : books.Right start journal) :
    Keeps start journal journal books books nowhere where
  right := right
  goes := .of_disk rfl rfl rfl
  whole _ := (List.append_nil _).symm

/-- Steps without loss compose; the first one adds nothing. -/
theorem Keeps.trans (early : Keeps start before middle old between nowhere)
    (late : Keeps start middle after between new added) :
    Keeps start before after old new added where
  right := late.right
  goes := early.goes.trans late.goes
  whole _ := by rw [late.whole, early.whole, nowhere, List.append_nil]

theorem Step.trans (early : Step start before middle old between first)
    (late : Step start middle after between new later) :
    Step start before after old new fun place => first place ++ later place where
  right := late.right
  goes := early.goes.trans late.goes
  kept place := by
    rw [← List.append_assoc]
    exact (late.kept place).trans ((early.kept place).append_right (later place))
  whole place blameless := by
    have blamelessBefore : ¬ between.Excused start place := fun excused =>
      blameless (late.goes.excused excused)
    rw [late.whole place blameless, early.whole place blamelessBefore, List.append_assoc]

/-- The books of a journal that was not used yet are empty. -/
theorem new_right (directory : Path) (start : Disk) : Right start { directory, disk := start } {} where
  grows := .refl start
  closed _ := rfl
  opened log known := by cases known
  located log known := by cases known

theorem heldAt_self {place : List String} (here : journal.place? = some place) :
    books.heldAt journal place = books.held := by
  unfold heldAt
  rw [if_pos here]

/-- Other files have no lines in the buffer. -/
theorem heldAt_of_ne {place : List String} (other : journal.place? ≠ some place) :
    books.heldAt journal place = [] := by
  unfold heldAt
  rw [if_neg other]

/-- The lines in the buffer are forgotten, for a reason. -/
theorem Right.discard {log : OpenLog} (right : books.Right start journal)
    (opened : journal.log = some log) (reason : books.Excused start log.place ∨ books.held = [])
    (after : Journal) (disk : after.disk = journal.disk)
    (emptied : after.log = none ∨ after.log = some { log with pending := .empty }) :
    Step start journal after books { books with held := [] } nowhere where
  right := by
    have same (other : OpenLog) (known : after.log = some other) :
        other = { log with pending := .empty } := by
      rcases emptied with gone | emptied
      · rw [gone] at known
        cases known
      · rw [emptied] at known
        exact (Option.some.inj known).symm
    refine ⟨by rw [disk]; exact right.grows, fun _ => rfl, fun other known => ?_,
      fun other known => ?_⟩
    · rw [same other known, disk]
      exact ⟨rfl, (right.opened log opened).2⟩
    · rw [same other known, disk]
      exact right.located log opened
  goes := .of_disk disk rfl rfl
  kept place := by
    unfold total heldAt nowhere
    simp
  whole place blameless := by
    unfold total nowhere
    rw [List.append_nil]
    have none_left : heldAt { books with held := [] } after place = [] := by
      unfold heldAt
      exact ite_self []
    rw [none_left]
    by_cases here : place = log.place
    · rcases reason with excused | void
      · rw [← here] at excused
        exact absurd excused blameless
      · rw [here, heldAt_self (Journal.place?_of_log opened), void]
    · rw [heldAt_of_ne (Journal.place?_ne_of_log opened here)]

/-- The disk grows, and no line is written. -/
theorem Right.grow (right : books.Right start journal) {disk : Disk} {used : List Bool}
    (grows : journal.disk.Grows disk used nowhere) :
    Keeps start journal { journal with disk } books { books with used := books.used ++ used }
      nowhere where
  right := by
    refine ⟨?_, right.closed, fun log known => ?_, fun log known =>
      grows.place? (right.located log known)⟩
    · have whole := right.grows.trans grows
      simp only [nowhere, List.append_nil] at whole
      exact whole
    · obtain ⟨pending, writable⟩ := right.opened log known
      exact ⟨pending, (grows.nodes log.place).isOpen writable⟩
  goes := ⟨used, nowhere, grows, rfl, fun _ => (List.append_nil _).symm⟩
  whole _ := (List.append_nil _).symm

/-- The reason why nothing could be written. -/
theorem Right.excused (right : books.Right start journal) {used : List Bool} {place : List String}
    (reason : true ∈ used ∨ journal.disk.node? place = some .full) :
    Excused start { books with used := books.used ++ used } place := by
  rcases reason with failed | full
  · exact .inl (List.mem_append_right _ failed)
  · have grown := right.grows.nodes place
    rw [full] at grown
    exact .inr grown.eq_full

/-- The lines in the buffer are written, and perhaps some lines more. -/
theorem Right.write {log : OpenLog} (right : books.Right start journal)
    (opened : journal.log = some log) {disk : Disk} {used : List Bool} (lines : List String)
    (grows : journal.disk.Grows disk used (only log.place (books.held ++ lines))) :
    Keeps start journal { journal with disk, log := some { log with pending := .empty } } books
      { used := books.used ++ used
        written := fun place => books.written place ++ only log.place (books.held ++ lines) place }
      (only log.place lines) := by
  have same (place : List String) :
      books.written place ++ only log.place (books.held ++ lines) place =
        books.total journal place ++ only log.place lines place := by
    unfold total only
    by_cases here : place = log.place
    · rw [here, if_pos rfl, if_pos rfl, heldAt_self (Journal.place?_of_log opened),
        List.append_assoc]
    · rw [if_neg here, if_neg here, heldAt_of_ne (Journal.place?_ne_of_log opened here),
        List.append_nil, List.append_nil]
  have whole (place : List String) : total
      { used := books.used ++ used
        written := fun place => books.written place ++ only log.place (books.held ++ lines) place }
      { journal with disk, log := some { log with pending := .empty } } place =
        books.total journal place ++ only log.place lines place := by
    rw [← same place]
    unfold total heldAt
    rw [ite_self, List.append_nil]
  refine ⟨⟨right.grows.trans grows, fun _ => rfl, fun other known => ?_, fun other known => ?_⟩,
    ⟨used, _, grows, rfl, fun _ => rfl⟩, whole⟩
  · cases known
    exact ⟨rfl, (grows.nodes log.place).isOpen (right.opened log opened).2⟩
  · cases known
    exact grows.place? (right.located log opened)

/-- One more line is held. -/
theorem Right.hold {log : OpenLog} (right : books.Right start journal)
    (opened : journal.log = some log) (line : String) :
    Keeps start journal
      { journal with log := some { log with pending := log.pending ++ (line ++ "\n").toUTF8 } }
      books { books with held := books.held ++ [line] } (only log.place [line]) := by
  obtain ⟨pending, writable⟩ := right.opened log opened
  have whole (place : List String) : total { books with held := books.held ++ [line] }
      { journal with log := some { log with pending := log.pending ++ (line ++ "\n").toUTF8 } }
      place = books.total journal place ++ only log.place [line] place := by
    unfold total only
    rw [List.append_assoc]
    congr 1
    by_cases here : place = log.place
    · rw [here, if_pos rfl, heldAt_self (Journal.place?_of_log opened)]
      exact heldAt_self rfl
    · rw [if_neg here, heldAt_of_ne (Journal.place?_ne_of_log opened here), List.append_nil]
      refine heldAt_of_ne fun equal => here ?_
      exact (Option.some.inj equal).symm
  refine ⟨⟨right.grows, ?_, fun other known => ?_, fun other known => ?_⟩, .of_disk rfl rfl rfl,
    whole⟩
  · intro gone
    cases gone
  · cases known
    refine ⟨?_, writable⟩
    rw [Lines.bytes_append, Lines.bytes_singleton, pending]
  · cases known
    exact right.located log opened

end Books

namespace Journal

open Books

variable {start : Disk} {journal : Journal} {log : OpenLog} {books : Books}

/-- What can happen when the buffer of a journal is written. -/
inductive Flushing (start : Disk) (journal : Journal) (log : OpenLog) (books : Books) :
    Bool × OpenLog × Disk → Prop where
  | done (disk : Disk) (new : Books) (void : new.held = [])
      (keeps : Keeps start journal { journal with disk, log := some { log with pending := .empty } }
        books new nowhere)
      (alone : Local journal { journal with disk, log := some { log with pending := .empty } }) :
      Flushing start journal log books (true, { log with pending := .empty }, disk)
  /-- Nothing is written, and nothing is lost yet. -/
  | stuck (disk : Disk) (new : Books) (reason : new.Excused start log.place)
      (unwritten : new.written = books.written)
      (keeps : Keeps start journal { journal with disk, log := some log } books new nowhere)
      (quiet : ∀ place, disk.content? place = journal.disk.content? place) :
      Flushing start journal log books (false, log, disk)

theorem flush_cases (opened : journal.log = some log) (right : books.Right start journal) :
    Flushing start journal log books (flush log journal.disk) := by
  obtain ⟨pending, writable⟩ := right.opened log opened
  unfold flush
  by_cases void : log.pending.size = 0
  · rw [if_pos void]
    have emptied : { log with pending := .empty } = log := by
      rw [← ByteArray.size_eq_zero_iff.mp void]
    have same : { journal with log := some log } = journal := by
      rw [← opened]
    have unheld : books.held = [] := by
      rw [pending] at void
      exact Lines.eq_nil_of_size_bytes void
    have done : Flushing start journal log books
        (true, { log with pending := .empty }, journal.disk) := by
      refine .done journal.disk books unheld ?_ ?_
      · rw [emptied, same]
        exact Keeps.refl right
      · rw [emptied, same]
        exact Local.refl journal
    rwa [emptied] at done
  · rw [if_neg void]
    rcases outcome : journal.disk.append log.place log.pending with ⟨written, disk⟩
    have append := Disk.append_cases journal.disk writable log.pending
    rw [outcome] at append
    cases append with
    | failed _ used quiet reason =>
      have keeps := right.grow quiet.grows
      rw [opened] at keeps
      exact .stuck disk _ (right.excused reason) rfl keeps quiet.contents
    | written _ used others grows =>
      have keeps := right.write opened []
        (grows (books.held ++ []) (by rw [List.append_nil, pending]))
      rw [Disk.only_nil] at keeps
      refine .done disk _ rfl keeps fun place before after => others place ?_
      rintro rfl
      exact before (place?_of_log opened)

/-- What can happen to a line that is put behind the lines of the buffer. -/
inductive Placing (start : Disk) (journal : Journal) (place : List String) (books : Books)
    (line : String) : Attempt Journal → Prop where
  | taken (after : Journal) (new : Books)
      (keeps : Keeps start journal after books new (only place [line]))
      (alone : Local journal after) (placed : after.place? = some place) :
      Placing start journal place books line (.ok (), after)
  /-- It is lost, and only it. -/
  | refused (failure : Failure) (after : Journal) (new : Books) (reason : new.Excused start place)
      (keeps : Keeps start journal after books new nowhere)
      (alone : Local journal after) (placed : after.place? = some place) :
      Placing start journal place books line (.error failure, after)

/-- A line fits into the buffer, or the buffer is empty. -/
theorem place_cases (opened : journal.log = some log) (right : books.Right start journal)
    (line : String) (fits : (line ++ "\n").toUTF8.size < capacity ∨ books.held = []) :
    Placing start journal log.place books line
      (if (line ++ "\n").toUTF8.size < capacity then
        (.ok (), { journal with
          log := some { log with pending := log.pending ++ (line ++ "\n").toUTF8 } })
      else
        match journal.disk.append log.place (line ++ "\n").toUTF8 with
        | (true, disk) => (.ok (), { journal with disk, log := some log })
        | (false, disk) =>
          (failed log.path, { journal with disk, log := some { log with pending := .empty } })) := by
  by_cases small : (line ++ "\n").toUTF8.size < capacity
  · rw [if_pos small]
    exact .taken _ _ (right.hold opened line) (fun _ _ _ => rfl) rfl
  · rw [if_neg small]
    have unheld : books.held = [] := fits.resolve_left small
    obtain ⟨pending, writable⟩ := right.opened log opened
    have emptied : { log with pending := .empty } = log := by
      rw [unheld] at pending
      rw [← Lines.bytes_nil, ← pending]
    have append := Disk.append_cases journal.disk writable (line ++ "\n").toUTF8
    rcases outcome : journal.disk.append log.place (line ++ "\n").toUTF8 with ⟨written, disk⟩
    rw [outcome] at append
    cases append with
    | failed _ used quiet reason =>
      simp only [emptied]
      have keeps := right.grow quiet.grows
      rw [opened] at keeps
      exact .refused _ _ _ (right.excused reason) keeps (fun place _ _ => quiet.contents place) rfl
    | written _ used others grows =>
      have whole : (line ++ "\n").toUTF8 = Lines.bytes (books.held ++ [line]) := by
        rw [unheld, List.nil_append, Lines.bytes_singleton]
      have keeps := right.write opened [line] (grows _ whole)
      rw [emptied] at keeps
      refine .taken _ _ keeps (fun place before _ => others place ?_) rfl
      rintro rfl
      exact before (place?_of_log opened)

/-- What can happen to a line that is emitted. -/
inductive Emitting (start : Disk) (journal : Journal) (books : Books) (line : String) :
    Attempt Journal → Prop where
  | closed (unopened : journal.log = none) :
      Emitting start journal books line (.error (.sinkClosed name), journal)
  | taken (log : OpenLog) (opened : journal.log = some log) (after : Journal) (new : Books)
      (keeps : Keeps start journal after books new (only log.place [line]))
      (alone : Local journal after) (place : after.place? = some log.place) :
      Emitting start journal books line (.ok (), after)
  /-- Only the line is lost. -/
  | refused (log : OpenLog) (opened : journal.log = some log) (failure : Failure)
      (after : Journal) (new : Books) (written : (flush log journal.disk).1 = true)
      (reason : new.Excused start log.place)
      (keeps : Keeps start journal after books new nowhere)
      (alone : Local journal after) (place : after.place? = some log.place) :
      Emitting start journal books line (.error failure, after)
  /-- The buffer could not be written, and its lines are lost with the line. -/
  | lost (log : OpenLog) (opened : journal.log = some log) (failure : Failure)
      (after : Journal) (new : Books) (stuck : (flush log journal.disk).1 = false)
      (reason : new.Excused start log.place)
      (step : Step start journal after books new nowhere)
      (alone : Local journal after) (place : after.place? = some log.place)
      (unwritten : ∀ place, new.total after place = books.written place) :
      Emitting start journal books line (.error failure, after)

/-- What becomes of a line is decided when the buffer has room for it. -/
theorem Placing.emitting {line : String} {current : Journal} {between : Books}
    {result : Attempt Journal} (opened : journal.log = some log)
    (written : (flush log journal.disk).1 = true ∨ ∃ after, result = (.ok (), after))
    (early : Keeps start journal current books between nowhere) (alone : Local journal current)
    (place : current.place? = some log.place)
    (placing : Placing start current log.place between line result) :
    Emitting start journal books line result := by
  have same : current.place? = journal.place? := place.trans (place?_of_log opened).symm
  cases placing with
  | taken after new keeps later placed =>
    exact .taken log opened after new (early.trans keeps) (alone.trans later (.inl same)) placed
  | refused failure after new reason keeps later placed =>
    refine .refused log opened failure after new ?_ reason (early.trans keeps)
      (alone.trans later (.inl same)) placed
    rcases written with written | ⟨_, impossible⟩
    · exact written
    · cases impossible

theorem emit_cases (right : books.Right start journal) (line : String) :
    Emitting start journal books line (journal.emit line) := by
  unfold emit
  cases opened : journal.log with
  | none => exact .closed opened
  | some log =>
    simp only
    by_cases exceeds : log.pending.size + (line ++ "\n").toUTF8.size > capacity
    · simp only [if_pos exceeds]
      have flushing := flush_cases opened right
      rcases outcome : flush log journal.disk with ⟨written, emptied, disk⟩
      rw [outcome] at flushing
      cases flushing with
      | done _ new void keeps alone =>
        simp only [Bool.not_true, Bool.false_eq_true, if_false]
        exact (place_cases rfl keeps.right line (.inr void)).emitting opened
          (.inl (by rw [outcome])) keeps alone rfl
      | stuck _ new reason unwritten keeps quiet =>
        have left := keeps.right.discard rfl (.inl reason)
          { journal with disk, log := some { log with pending := .empty } } rfl (.inr rfl)
        refine .lost log opened _ _ { new with held := [] } (by rw [outcome]) reason
          (keeps.step.trans left) (fun place _ _ => quiet place) rfl fun place => ?_
        unfold total heldAt
        rw [ite_self, List.append_nil]
        exact congrFun unwritten place
    · simp only [if_neg exceeds, Bool.not_true, Bool.false_eq_true, if_false]
      by_cases small : (line ++ "\n").toUTF8.size < capacity
      · have placing := place_cases opened right line (.inl small)
        rw [if_pos small] at placing ⊢
        exact placing.emitting opened (.inr ⟨_, rfl⟩) (Keeps.refl right) (Local.refl journal)
          (place?_of_log opened)
      · have void : log.pending.size = 0 := by omega
        have unheld : books.held = [] := by
          rw [(right.opened log opened).1] at void
          exact Lines.eq_nil_of_size_bytes void
        have written : (flush log journal.disk).1 = true := by
          unfold flush
          rw [if_pos void]
        exact (place_cases opened right line (.inr unheld)).emitting opened (.inl written)
          (Keeps.refl right) (Local.refl journal) (place?_of_log opened)

/-- Nothing more is held for a file, unless there is a reason. -/
def Settled (start : Disk) (journal : Journal) (books : Books) : Prop :=
  ∀ place, ¬ books.Excused start place → books.heldAt journal place = []

theorem settled_of_closed (closed : journal.log = none) : Settled start journal books := by
  intro place _
  refine heldAt_of_ne ?_
  unfold place?
  rw [closed]
  exact fun equal => by cases equal

theorem settled_of_held (void : books.held = []) : Settled start journal books := by
  intro place _
  unfold heldAt
  rw [void, ite_self]

/-- **Letting go of a file** loses lines only for a reason. -/
theorem letGo_step (right : books.Right start journal) :
    ∃ new, Step start journal journal.letGo books new nowhere ∧ Local journal journal.letGo := by
  unfold letGo release
  cases opened : journal.log with
  | none =>
    have same : { journal with log := none } = journal := by rw [← opened]
    simp only [same]
    exact ⟨books, (Keeps.refl right).step, Local.refl journal⟩
  | some log =>
    simp only
    have flushing := flush_cases opened right
    rcases outcome : flush log journal.disk with ⟨written, emptied, disk⟩
    rw [outcome] at flushing
    cases flushing with
    | done _ new void keeps alone =>
      refine ⟨_, keeps.step.trans (keeps.right.discard rfl (.inr void)
        { journal with disk, log := none } rfl (.inl rfl)),
        alone.trans (fun _ _ _ => rfl) (.inl ?_)⟩
      exact (place?_of_log opened).symm
    | stuck _ new reason unwritten keeps quiet =>
      exact ⟨_, keeps.step.trans (keeps.right.discard rfl (.inl reason)
        { journal with disk, log := none } rfl (.inl rfl)), fun place _ _ => quiet place⟩

/-- **Making a file durable** loses nothing, and leaves nothing in the buffer but for a reason. -/
theorem sync_keeps (right : books.Right start journal) :
    ∃ new, Keeps start journal journal.sync.2 books new nowhere ∧ Local journal journal.sync.2 ∧
      journal.sync.2.place? = journal.place? ∧ Settled start journal.sync.2 new := by
  unfold sync
  cases opened : journal.log with
  | none => exact ⟨books, Keeps.refl right, Local.refl journal, rfl, settled_of_closed opened⟩
  | some log =>
    simp only
    have flushing := flush_cases opened right
    rcases outcome : flush log journal.disk with ⟨written, emptied, disk⟩
    rw [outcome] at flushing
    cases flushing with
    | done _ new void keeps alone =>
      obtain ⟨used, quiet⟩ := Disk.settle_quiet disk log.place
      have settling := keeps.right.grow quiet.grows
      simp only
      rcases settled : disk.settle log.place with ⟨_ | _, after⟩
      · rw [settled] at settling quiet
        exact ⟨_, keeps.trans settling, alone.trans (fun place _ _ => quiet.contents place)
          (.inr rfl), (place?_of_log opened).symm, settled_of_held void⟩
      · rw [settled] at settling quiet
        exact ⟨_, keeps.trans settling, alone.trans (fun place _ _ => quiet.contents place)
          (.inr rfl), (place?_of_log opened).symm, settled_of_held void⟩
    | stuck _ new reason unwritten keeps quiet =>
      refine ⟨_, keeps, fun place _ _ => quiet place, (place?_of_log opened).symm, ?_⟩
      intro place blameless
      refine heldAt_of_ne (place?_ne_of_log rfl ?_)
      rintro rfl
      exact blameless reason

/-- **Closing** lets go of the file. -/
theorem close_step (right : books.Right start journal) :
    ∃ new, Step start journal journal.close.2 books new nowhere ∧ Local journal journal.close.2 ∧
      journal.close.2.log = none := by
  unfold close
  cases opened : journal.log with
  | none => exact ⟨books, (Keeps.refl right).step, Local.refl journal, opened⟩
  | some log =>
    obtain ⟨between, keeps, alone, place, _⟩ := sync_keeps right
    obtain ⟨new, step, later⟩ := letGo_step keeps.right
    exact ⟨new, keeps.step.trans step, alone.trans later (.inl place), rfl⟩

/-- What can happen when a journal is opened for a stream. -/
inductive Opening (start : Disk) (journal : Journal) (books : Books) (stream : StreamKey) :
    Attempt Journal → Prop where
  | already (same : journal.path?.any (logPath journal.directory stream).same = true) :
      Opening start journal books stream (.ok (), journal)
  /-- The file that is open stays open, and its buffer stays as it is. -/
  | failed (failure : Failure) (after : Journal) (new : Books)
      (keeps : Keeps start journal after books new nowhere) (log : after.log = journal.log)
      (quiet : ∀ place, after.disk.content? place = journal.disk.content? place) :
      Opening start journal books stream (.error failure, after)
  /-- The file that was open is let go of. -/
  | switched (after : Journal) (new : Books)
      (other : journal.path?.any (logPath journal.directory stream).same = false)
      (step : Step start journal after books new nowhere) (alone : Local journal after)
      (void : new.held = []) {place : List String}
      (opened : after.log = some ⟨logPath journal.directory stream, place, .empty⟩) :
      Opening start journal books stream (.ok (), after)

/-- A file is opened, with nothing in the buffer. -/
theorem adopt_keeps (right : books.Right start journal) (closed : journal.log = none) {path : Path}
    {place : List String} (writable : Node.IsOpen (journal.disk.node? place))
    (located : journal.disk.place? path = some place) :
    Keeps start journal { journal with log := some ⟨path, place, .empty⟩ } books books nowhere := by
  have void : books.held = [] := right.closed closed
  refine ⟨⟨right.grows, fun _ => void, fun log known => ?_, fun log known => ?_⟩,
    .of_disk rfl rfl rfl, fun place => ?_⟩
  · cases known
    rw [void]
    exact ⟨rfl, writable⟩
  · cases known
    exact located
  · unfold total heldAt nowhere
    rw [void, ite_self, ite_self, List.append_nil, List.append_nil]

/-- The directories of a path are there, or could not be created. -/
def prepared (journal : Journal) (path : Path) : Bool × Disk :=
  match path.parent? with
  | none => (true, journal.disk)
  | some parent => journal.disk.createDirectories parent

theorem prepared_quiet (journal : Journal) (path : Path) :
    ∃ used, journal.disk.Quiet (journal.prepared path).2 used := by
  unfold prepared
  cases path.parent? with
  | none => exact ⟨[], Disk.Quiet.refl journal.disk⟩
  | some parent => exact Disk.createDirectories_quiet journal.disk parent

/-- Opening a stream: its directories, its file, and the file before it. -/
theorem openStream_eq (stream : StreamKey) (journal : Journal) :
    journal.openStream stream =
      let path := logPath journal.directory stream
      if journal.path?.any path.same then (.ok (), journal)
      else
        match journal.prepared path with
        | (false, disk) => (failed (path.parent?.getD path), { journal with disk })
        | (true, disk) =>
          match disk.openAppend path with
          | (none, disk) => (failed path, { journal with disk })
          | (some place, disk) =>
            (.ok (), { letGo { journal with disk } with log := some ⟨path, place, .empty⟩ }) := by
  unfold openStream prepared
  simp only
  by_cases same : journal.path?.any (logPath journal.directory stream).same = true
  · rw [if_pos same, if_pos same]
  · rw [if_neg same, if_neg same]
    cases (logPath journal.directory stream).parent? with
    | none => rfl
    | some parent =>
      simp only
      rcases journal.disk.createDirectories parent with ⟨_ | _, disk⟩
      · rfl
      · rfl

theorem openStream_cases (right : books.Right start journal) (stream : StreamKey) :
    Opening start journal books stream (journal.openStream stream) := by
  rw [openStream_eq]
  simp only
  by_cases same : journal.path?.any (logPath journal.directory stream).same = true
  · rw [if_pos same]
    exact .already same
  · rw [if_neg same]
    obtain ⟨used, quiet⟩ := journal.prepared_quiet (logPath journal.directory stream)
    have preparing := right.grow quiet.grows
    rcases outcome : journal.prepared (logPath journal.directory stream) with ⟨_ | _, disk⟩
    · rw [outcome] at quiet preparing
      exact .failed _ _ _ preparing rfl quiet.contents
    · rw [outcome] at quiet preparing
      have opening := disk.openAppend_cases (logPath journal.directory stream)
      simp only
      rcases result : disk.openAppend (logPath journal.directory stream) with ⟨_ | place, opened⟩
      · rw [result] at opening
        cases opening with
        | failed _ more asked =>
          exact .failed _ _ _ (preparing.trans (preparing.right.grow asked.grows)) rfl fun place =>
            (asked.contents place).trans (quiet.contents place)
      · rw [result] at opening
        cases opening with
        | opened _ _ more grows others writable =>
          have begun := preparing.trans (preparing.right.grow grows)
          obtain ⟨new, left, alone⟩ := letGo_step begun.right
          have adopted := adopt_keeps left.right rfl (left.goes.isOpen writable)
            (left.goes.place? (Disk.openAppend_place? result))
          refine .switched _ new (Bool.eq_false_iff.mpr same)
            ((begun.step.trans left).trans adopted.step) ?_ (left.right.closed rfl) rfl
          intro absent before after
          rw [← quiet.contents absent,
            ← others absent fun equal => after (congrArg some equal.symm)]
          exact alone absent before fun equal => by cases equal

end Journal

end MetricRelay

/-
**A journal on a disk where nothing fails.**

On a healthy disk no operation is made to fail, and nothing is the device that takes no bytes
(`Disk.Healthy`). Once a journal has opened the file of a stream there, all of its calls succeed, and
the lines that it took are in the file and in the buffer, in order (`Journal.Holds`):

* the first open finds nothing written (`Untouched.open`);
* a line is taken, and at most one more is in the buffer (`Holds.emit`);
* after a request for durability nothing is in the buffer (`Holds.sync`);
* at the end the file has all lines (`Holds.close`).

No other file changes, and the file is found where the path of the stream leads.
-/

import MetricRelay.Proofs.Sink.Calls

namespace MetricRelay

open Disk (nowhere only)

/-- A disk on which no operation fails for another reason than where it is asked for: none is made
to fail, and nothing is the device that takes no bytes. -/
structure Disk.Healthy (disk : Disk) : Prop where
  calm : true ∉ disk.faults
  roomy : ∀ place, disk.node? place ≠ some .full

/-- A new disk is healthy. -/
theorem Disk.new_healthy : ({} : Disk).Healthy := by
  refine ⟨List.not_mem_nil, fun place device => ?_⟩
  unfold node? at device
  by_cases root : place = []
  · rw [if_pos root] at device
    cases device
  · rw [if_neg root, List.lookup_cons] at device
    cases same : place == ["work"] with
    | true =>
      rw [same] at device
      cases device
    | false =>
      rw [same] at device
      cases device

theorem Disk.settle_of_file {disk : Disk} (calm : true ∉ disk.faults) {place : List String}
    {content : ByteArray} (file : disk.node? place = some (.file content)) :
    (disk.settle place).1 = true := by
  unfold settle nextFault
  cases known : disk.faults with
  | nil => simp only [file]
  | cons fault rest =>
    cases fault with
    | true => exact absurd (known ▸ List.mem_cons_self) calm
    | false =>
      have same : node? { disk with faults := rest } place = some (.file content) := file
      simp only [same]

namespace Books

variable {start : Disk} {journal : Journal} {books : Books}

/-- On a healthy disk there is no reason to lose a line. -/
theorem Right.blameless (right : books.Right start journal) (healthy : start.Healthy)
    (place : List String) : ¬ books.Excused start place := by
  rintro (failed | device)
  · refine healthy.calm ?_
    rw [right.grows.faults]
    exact List.mem_append_left _ failed
  · exact healthy.roomy place device

theorem Right.calm (right : books.Right start journal) (healthy : start.Healthy) :
    true ∉ journal.disk.faults := by
  intro failing
  refine healthy.calm ?_
  rw [right.grows.faults]
  exact List.mem_append_right _ failing

/-- On a healthy disk what is open is a file. -/
theorem Right.file (right : books.Right start journal) (healthy : start.Healthy) {log : OpenLog}
    (opened : journal.log = some log) :
    ∃ content, journal.disk.node? log.place = some (.file content) := by
  have writable := (right.opened log opened).2
  have grown := right.grows.nodes log.place
  cases standing : journal.disk.node? log.place with
  | none =>
    rw [standing] at writable
    cases writable
  | some node =>
    rw [standing] at writable grown
    cases writable with
    | file content => exact ⟨content, rfl⟩
    | full => exact absurd grown.eq_full (healthy.roomy log.place)

end Books

namespace Journal

open Books

/-! ### Where the lines are -/

/-- On a healthy disk a file that is open can be made durable. -/
theorem sync_of_healthy {start : Disk} {journal : Journal} {books : Books}
    (healthy : start.Healthy) (right : books.Right start journal) {log : OpenLog}
    (opened : journal.log = some log) : journal.sync.1 = .ok () := by
  unfold sync
  rw [opened]
  have flushing := flush_cases opened right
  rcases outcome : flush log journal.disk with ⟨written, emptied, disk⟩
  rw [outcome] at flushing
  cases flushing with
  | done _ new void keeps alone =>
    obtain ⟨content, file⟩ := keeps.right.file healthy rfl
    have settled := Disk.settle_of_file (keeps.right.calm healthy) file
    simp only [outcome]
    rcases result : disk.settle log.place with ⟨durable, after⟩
    have durable_eq : durable = true := by
      rw [← settled]
      exact congrArg Prod.fst result.symm
    rw [durable_eq]
  | stuck _ new reason unwritten keeps quiet =>
    exact absurd reason (keeps.right.blameless healthy log.place)

/-- The file of a path is open. It and the buffer have these lines, in order, and no other file
changed. -/
structure Holds (start : Disk) (journal : Journal) (path : Path) (place : List String)
    (books : Books) (lines : List String) : Prop where
  opened : ∃ pending, journal.log = some ⟨path, place, pending⟩
  right : books.Right start journal
  lines : books.written place ++ books.held = lines
  others : ∀ other, other ≠ place → journal.disk.content? other = start.content? other

namespace Holds

variable {start : Disk} {journal after : Journal} {path : Path} {place : List String}
  {books new : Books} {lines added : List String}

theorem place?_eq (holds : Holds start journal path place books lines) :
    journal.place? = some place := by
  obtain ⟨pending, opened⟩ := holds.opened
  exact place?_of_log opened

/-- The open file stands where its path leads. -/
theorem located (holds : Holds start journal path place books lines) :
    journal.disk.place? path = some place := by
  obtain ⟨pending, opened⟩ := holds.opened
  exact holds.right.located _ opened

/-- The file has the lines but for those in the buffer, which are the last ones. -/
theorem extend (holds : Holds start journal path place books lines) :
    Lines.Extend (lines.take (lines.length - books.held.length)) (start.content? place)
      (journal.disk.content? place) := by
  have early : lines.take (lines.length - books.held.length) = books.written place := by
    rw [← holds.lines, List.length_append, Nat.add_sub_cancel, List.take_left']
    rfl
  rw [early]
  exact holds.right.grows.extend place

/-- **A call that loses no line.** -/
theorem keep (holds : Holds start journal path place books lines)
    (keeps : Keeps start journal after books new (only place added)) (alone : Local journal after)
    (same : after.file? = journal.file?) :
    Holds start after path place new (lines ++ added) ∧
      new.held.length ≤ books.held.length + added.length := by
  obtain ⟨pending, opened⟩ := holds.opened
  unfold file? at same
  rw [opened, Option.map_some] at same
  obtain ⟨log, openedAfter, file⟩ := Option.map_eq_some_iff.mp same
  cases file
  have here : after.place? = some log.place := place?_of_log openedAfter
  have whole := keeps.whole log.place
  unfold total at whole
  rw [heldAt_self holds.place?_eq, heldAt_self here, holds.lines, only, if_pos rfl] at whole
  refine ⟨⟨⟨log.pending, openedAfter⟩, keeps.right, whole, fun other different => ?_⟩, ?_⟩
  · rw [alone other]
    · exact holds.others other different
    · exact place?_ne_of_log opened different
    · exact place?_ne_of_log openedAfter different
  · -- What was written stays written, so at most the new lines can be held besides the old ones.
    obtain ⟨used, more, _, _, written⟩ := keeps.goes
    rw [written, List.append_assoc, ← holds.lines, List.append_assoc] at whole
    have lengths := congrArg List.length (List.append_cancel_left whole)
    rw [List.length_append, List.length_append] at lengths
    omega

/-- **A line is taken.** -/
theorem emit (healthy : start.Healthy) (holds : Holds start journal path place books lines)
    (line : String) : ∃ after new, journal.emit line = (.ok (), after) ∧
      Holds start after path place new (lines ++ [line]) ∧
      new.held.length ≤ books.held.length + 1 := by
  obtain ⟨pending, opened⟩ := holds.opened
  have same := (emit_stays line journal).file
  have emitting := emit_cases holds.right line
  rcases outcome : journal.emit line with ⟨result, after⟩
  rw [outcome] at same emitting
  cases emitting with
  | closed unopened =>
    rw [opened] at unopened
    cases unopened
  | taken log known _ new keeps alone placed =>
    rw [opened] at known
    cases known
    exact ⟨after, new, rfl, holds.keep keeps alone same⟩
  | refused log _ _ _ new _ reason keeps =>
    exact absurd reason (keeps.right.blameless healthy log.place)
  | lost log _ _ _ new _ reason step =>
    exact absurd reason (step.right.blameless healthy log.place)

/-- **A request for durability succeeds,** and leaves nothing in the buffer. -/
theorem sync (healthy : start.Healthy) (holds : Holds start journal path place books lines) :
    ∃ after new, journal.sync = (.ok (), after) ∧ Holds start after path place new lines ∧
      new.held = [] := by
  obtain ⟨pending, opened⟩ := holds.opened
  have same := (sync_stays journal).file
  have succeeded := sync_of_healthy healthy holds.right opened
  obtain ⟨new, keeps, alone, placed, settled⟩ := sync_keeps holds.right
  rcases outcome : journal.sync with ⟨result, after⟩
  rw [outcome] at same succeeded keeps alone placed settled
  rw [← Disk.only_nil place] at keeps
  obtain ⟨kept, _⟩ := holds.keep keeps alone same
  rw [List.append_nil] at kept
  refine ⟨after, new, by rw [show result = .ok () from succeeded], kept, ?_⟩
  rw [← heldAt_self kept.place?_eq]
  exact settled place (kept.right.blameless healthy place)

/-- **At the end the file has all lines.** -/
theorem close (healthy : start.Healthy) (holds : Holds start journal path place books lines) :
    ∃ after, journal.close = (.ok (), after) ∧
      Lines.Extend lines (start.content? place) (after.disk.content? place) ∧
      (∀ other, other ≠ place → after.disk.content? other = start.content? other) ∧
      after.disk.place? path = some place := by
  obtain ⟨pending, opened⟩ := holds.opened
  obtain ⟨settled, new, synced, kept, void⟩ := holds.sync healthy
  obtain ⟨pendingAfter, openedAfter⟩ := kept.opened
  -- There is nothing to write when the file is let go of.
  have empty : pendingAfter = .empty := by
    have bytes := (kept.right.opened _ openedAfter).1
    rwa [void, Lines.bytes_nil] at bytes
  have released : settled.letGo = { settled with log := none } := by
    unfold letGo release flush
    rw [openedAfter, empty]
    rfl
  have extended := kept.extend
  rw [void, List.length_nil, Nat.sub_zero, List.take_length] at extended
  refine ⟨{ settled with log := none }, ?_, extended, kept.others, kept.located⟩
  unfold Journal.close
  rw [opened, synced]
  exact congrArg (Prod.mk (Except.ok ())) released

end Holds

/-! ### The first file -/

/-- A journal below a directory that has not opened a file yet. -/
structure Untouched (start : Disk) (directory : Path) (journal : Journal) (books : Books) :
    Prop where
  below : journal.directory = directory
  closed : journal.log = none
  right : books.Right start journal
  unwritten : ∀ place, books.written place = []
  contents : ∀ place, journal.disk.content? place = start.content? place

/-- **Opening a first file** succeeds and nothing is in it yet, or changes nothing. -/
theorem Untouched.open {start : Disk} {directory : Path} {journal : Journal} {books : Books}
    (healthy : start.Healthy) (untouched : Untouched start directory journal books)
    (stream : StreamKey) :
    (∃ after new place, journal.openStream stream = (.ok (), after) ∧
      Holds start after (logPath directory stream) place new [] ∧ new.held = []) ∨
    ∃ failure after new, journal.openStream stream = (.error failure, after) ∧
      Untouched start directory after new := by
  have unplaced (place : List String) : journal.place? ≠ some place := by
    unfold place?
    rw [untouched.closed]
    simp
  have below := openStream_directory stream journal
  have opening := openStream_cases untouched.right stream
  rcases outcome : journal.openStream stream with ⟨result, after⟩
  rw [outcome] at opening below
  cases opening with
  | already same =>
    unfold path? at same
    rw [untouched.closed] at same
    cases same
  | failed failure _ new keeps log quiet =>
    refine .inr ⟨failure, after, new, rfl, below.trans untouched.below,
      log.trans untouched.closed, keeps.right, fun place => ?_, fun place => ?_⟩
    · -- Nothing was in the books, so nothing is.
      have whole := keeps.whole place
      unfold total at whole
      rw [untouched.unwritten, heldAt_of_ne (unplaced place)] at whole
      exact (List.append_eq_nil_iff.mp whole).1
    · rw [quiet, untouched.contents]
  | @switched _ new other step alone void place opened =>
    rw [untouched.below] at opened
    refine .inl ⟨after, new, place, rfl, ⟨⟨_, opened⟩, step.right, ?_, fun other different => ?_⟩,
      void⟩
    · have whole := step.whole place (step.right.blameless healthy place)
      unfold total at whole
      rw [untouched.unwritten, heldAt_of_ne (unplaced place),
        heldAt_self (place?_of_log opened)] at whole
      exact whole
    · rw [alone other (unplaced other) (place?_ne_of_log opened different)]
      exact untouched.contents other

theorem untouched_of_new (directory : Path) (start : Disk) :
    Untouched start directory { directory, disk := start } {} where
  below := rfl
  closed := rfl
  right := new_right directory start
  unwritten _ := rfl
  contents _ := rfl

end Journal

end MetricRelay

/-
**What becomes of the lines that a journal took.**

A line that a journal took is in its file, or still in the buffer, or it was thrown away. Lines are
thrown away by nothing but a line that fails: when the buffer has to be written first and that
fails, all lines in the buffer go with it (`Logged.lost`). A failed sync costs nothing.

* `Journal.Accounts`: the books of a journal that opens at most one file, with the lines that it
  took and those that were thrown away;
* opening, emitting and syncing keep them (`Accounts.open`, `Accounts.emit`, `Accounts.sync`);
* `Accounts.balance`: what they say of the open file.
-/

import MetricRelay.Proofs.Disk.LineCount
import MetricRelay.Proofs.Sink.Books

namespace MetricRelay

open Disk (nowhere only)

/-- The lines that a call throws away besides its own: those in the buffer, if the call fails
because the buffer cannot be written. -/
def LogEntry.lost (entry : LogEntry Journal) : Nat :=
  match entry.call, entry.before.log with
  | .emitted _, some log =>
    if entry.succeeded || (Journal.flush log entry.before.disk).1 then 0
    else Lines.count log.pending
  | _, _ => 0

namespace Logged

/-- The lines that all calls threw away besides their own. -/
def lost (logged : Logged Journal) : Nat :=
  logged.entries.foldl (fun count entry => count + entry.lost) 0

theorem lost_perform (call : SinkCall) (logged : Logged Journal) :
    (call.perform logged).2.lost = logged.lost + (entry call logged.sink).lost := by
  unfold lost
  rw [entries_perform, List.foldl_append]
  rfl

/-- A call adds its line to those that were taken, if it has one and succeeds. -/
theorem takenCount_perform {σ : Type} [Sink σ] (call : SinkCall) (logged : Logged σ) :
    (call.perform logged).2.takenCount = logged.takenCount +
      call.line?.toList.countP fun _ => (call.perform logged.sink).1.toBool := by
  have handed : (call.perform logged).2.handed = logged.handed ++
      (call.line?.map fun line => (line, (call.perform logged).1.toBool)).toList :=
    handed_of_perform call rfl
  have result : (call.perform logged).1 = (call.perform logged.sink).1 := by
    rw [perform_eq]
    rfl
  unfold takenCount
  rw [handed, List.countP_append, result]
  cases call.line? <;> rfl

/-- Nothing is thrown away while all lines are taken. -/
theorem lost_eq_zero {logged : Logged Journal}
    (taken : ∀ entry ∈ logged.entries, entry.call.line? ≠ none → entry.succeeded = true) :
    logged.lost = 0 := by
  have none_lost : ∀ entry ∈ logged.entries, entry.lost = 0 := by
    intro entry member
    unfold LogEntry.lost
    cases call : entry.call with
    | opened | synced | closed => rfl
    | emitted line =>
      have succeeded := taken entry member (by rw [call]; exact Option.some_ne_none line)
      cases entry.before.log with
      | none => rfl
      | some log => simp [succeeded]
  unfold lost
  generalize logged.entries = entries at none_lost
  induction entries with
  | nil => rfl
  | cons entry rest ih =>
    rw [List.forall_mem_cons] at none_lost
    rw [List.foldl_cons, none_lost.1]
    exact ih none_lost.2

end Logged

namespace Journal

open Books

variable {start : Disk} {logged : Logged Journal} {books new : Books}

/-- The lines of the open file, of lines that are given for each place. -/
def atOpen (journal : Journal) (lines : List String → List String) : List String :=
  (journal.place?.map lines).getD []

theorem atOpen_of_log {journal : Journal} {log : OpenLog} (opened : journal.log = some log)
    (lines : List String → List String) : journal.atOpen lines = lines log.place := by
  unfold atOpen
  rw [place?_of_log opened]
  rfl

theorem atOpen_of_closed {journal : Journal} (closed : journal.log = none)
    (lines : List String → List String) : journal.atOpen lines = [] := by
  unfold atOpen place?
  rw [closed]
  rfl

theorem atOpen_nowhere (journal : Journal) : journal.atOpen nowhere = [] := by
  unfold atOpen
  cases journal.place? <;> rfl

theorem lost_emitted (line : String) (journal : Journal) :
    (Logged.entry (.emitted line) journal).lost =
      match journal.log with
      | some log =>
        if (journal.emit line).1.toBool || (flush log journal.disk).1 then 0
        else Lines.count log.pending
      | none => 0 := by
  unfold LogEntry.lost Logged.entry
  cases journal.log <;> rfl

/-- The books of a journal that opened at most one file, and of the lines that it took: they are in
the books of that file, or they were thrown away. -/
structure Accounts (start : Disk) (logged : Logged Journal) (books : Books) : Prop where
  right : books.Right start logged.sink
  unwritten : ∀ place, logged.sink.place? ≠ some place → books.written place = []
  others : ∀ place, logged.sink.place? ≠ some place →
    logged.sink.disk.content? place = start.content? place
  plain : ∀ line ∈ logged.sink.atOpen (books.total logged.sink), IsPlain line.toList
  taken : logged.takenCount =
    (logged.sink.atOpen (books.total logged.sink)).length + logged.lost
  unopened : logged.sink.log = none → logged.lost = 0

/-- What is written for files that are not open does not change. -/
theorem written_of_keeps {before after : Journal} {added : List String → List String}
    (keeps : Keeps start before after books new added) (placed : after.place? = before.place?)
    (elsewhere : ∀ place, before.place? ≠ some place → added place = [])
    {place : List String} (other : before.place? ≠ some place) :
    new.written place = books.written place := by
  have whole := keeps.whole place
  have otherAfter : after.place? ≠ some place := by
    rw [placed]
    exact other
  unfold total at whole
  rwa [heldAt_of_ne other, heldAt_of_ne otherAfter, elsewhere place other, List.append_nil,
    List.append_nil, List.append_nil] at whole

/-- **A call that loses no line** keeps the accounts: what was added was taken. -/
theorem Accounts.keep (accounts : Accounts start logged books) (call : SinkCall)
    (added : List String → List String)
    (keeps : Keeps start logged.sink (call.perform logged.sink).2 books new added)
    (alone : Local logged.sink (call.perform logged.sink).2)
    (placed : (call.perform logged.sink).2.place? = logged.sink.place?)
    (elsewhere : ∀ place, logged.sink.place? ≠ some place → added place = [])
    (plain : ∀ line ∈ logged.sink.atOpen added, IsPlain line.toList)
    (taken : (call.perform logged).2.takenCount =
      logged.takenCount + (logged.sink.atOpen added).length)
    (lost : (Logged.entry call logged.sink).lost = 0) :
    Accounts start (call.perform logged).2 new := by
  have sink := Logged.sink_perform call logged
  have lines : (call.perform logged.sink).2.atOpen (new.total (call.perform logged.sink).2) =
      logged.sink.atOpen (books.total logged.sink) ++ logged.sink.atOpen added := by
    unfold atOpen
    rw [placed]
    cases logged.sink.place? with
    | none => rfl
    | some place => exact keeps.whole place
  have unchanged : (call.perform logged).2.lost = logged.lost := by
    rw [Logged.lost_perform, lost, Nat.add_zero]
  refine ⟨?_, ?_, ?_, ?_, ?_, ?_⟩
  · rw [sink]
    exact keeps.right
  · intro place other
    rw [sink, placed] at other
    rw [written_of_keeps keeps placed elsewhere other]
    exact accounts.unwritten place other
  · intro place other
    rw [sink] at other ⊢
    have before : logged.sink.place? ≠ some place := placed ▸ other
    rw [alone place before other]
    exact accounts.others place before
  · rw [sink, lines]
    intro line member
    rcases List.mem_append.mp member with old | last
    · exact accounts.plain line old
    · exact plain line last
  · rw [sink, lines, List.length_append, taken, accounts.taken, unchanged]
    omega
  · intro closed
    rw [unchanged]
    refine accounts.unopened ?_
    rw [sink] at closed
    unfold place? at placed
    rw [closed, Option.map_none] at placed
    exact Option.map_eq_none_iff.mp placed.symm

/-- A call without a line, which keeps all lines. -/
theorem Accounts.quiet (accounts : Accounts start logged books) {call : SinkCall}
    (silent : call.line? = none)
    (keeps : Keeps start logged.sink (call.perform logged.sink).2 books new nowhere)
    (alone : Local logged.sink (call.perform logged.sink).2)
    (placed : (call.perform logged.sink).2.place? = logged.sink.place?) :
    Accounts start (call.perform logged).2 new := by
  refine accounts.keep call nowhere keeps alone placed (fun _ _ => rfl) ?_ ?_ ?_
  · rw [atOpen_nowhere]
    exact List.forall_mem_nil _
  · rw [Logged.takenCount_perform, silent, atOpen_nowhere]
    rfl
  · cases call with
    | emitted line => cases silent
    | opened | synced | closed => rfl

/-- **Syncing keeps the accounts,** whether it succeeds or fails. -/
theorem Accounts.sync (accounts : Accounts start logged books) :
    ∃ new, Accounts start (SinkCall.synced.perform logged).2 new := by
  obtain ⟨new, keeps, alone, placed, _⟩ := sync_keeps accounts.right
  exact ⟨new, accounts.quiet rfl keeps alone placed⟩

/-- **Opening the first file keeps the accounts.** If it fails, no file is open. -/
theorem Accounts.open (accounts : Accounts start logged books) (closed : logged.sink.log = none)
    (stream : StreamKey) :
    (∃ new, Accounts start ((SinkCall.opened stream).perform logged).2 new) ∧
      (((SinkCall.opened stream).perform logged.sink).1.toBool = false →
        ((SinkCall.opened stream).perform logged.sink).2.log = none) := by
  have opening := openStream_cases accounts.right stream
  rcases outcome : logged.sink.openStream stream with ⟨result, after⟩
  rw [outcome] at opening
  have performed : (SinkCall.opened stream).perform logged.sink = (result, after) := outcome
  have unplaced : logged.sink.place? = none := by
    unfold place?
    rw [closed]
    rfl
  rw [performed]
  cases opening with
  | already same =>
    unfold path? at same
    rw [closed] at same
    cases same
  | failed failure _ new keeps log quiet =>
    refine ⟨⟨new, accounts.quiet rfl (by rw [performed]; exact keeps) ?_ ?_⟩, fun _ => ?_⟩
    · rw [performed]
      exact fun place _ _ => quiet place
    · rw [performed]
      unfold place?
      rw [log]
    · exact log.trans closed
  | switched _ new other step alone void =>
    have sink := Logged.sink_perform (.opened stream) logged
    rw [performed] at sink
    -- Nothing was in the books, so nothing is.
    have empty (place : List String) : new.total after place = [] := by
      have kept := step.kept place
      have before : logged.sink.place? ≠ some place := by
        rw [unplaced]
        exact fun equal => by cases equal
      unfold total at kept
      rw [heldAt_of_ne before, accounts.unwritten place before] at kept
      exact List.sublist_nil.mp kept
    have lines : after.atOpen (new.total after) = [] := by
      unfold atOpen
      cases after.place? with
      | none => rfl
      | some place => exact empty place
    have unlost : ((SinkCall.opened stream).perform logged).2.lost = 0 := by
      rw [Logged.lost_perform, accounts.unopened closed]
      rfl
    have untaken : ((SinkCall.opened stream).perform logged).2.takenCount = 0 := by
      rw [Logged.takenCount_perform, accounts.taken, atOpen_of_closed closed,
        accounts.unopened closed]
      rfl
    refine ⟨⟨new, ?_, ?_, ?_, ?_, ?_, fun _ => unlost⟩, fun failed => ?_⟩
    · rw [sink]
      exact step.right
    · intro place _
      exact (List.append_eq_nil_iff.mp (empty place)).1
    · intro place other
      rw [sink] at other ⊢
      have before : logged.sink.place? ≠ some place := by
        rw [unplaced]
        exact fun equal => by cases equal
      rw [alone place before other]
      exact accounts.others place before
    · rw [sink, lines]
      exact List.forall_mem_nil _
    · rw [sink, lines, untaken, unlost]
      rfl
    · cases failed

/-- A line that is refused, while all lines before it are kept. -/
theorem Accounts.refuse (accounts : Accounts start logged books) {line : String}
    {failure : Failure} {after : Journal} (made : logged.sink.emit line = (.error failure, after))
    (keeps : Keeps start logged.sink after books new nowhere) (alone : Local logged.sink after)
    (placed : after.place? = logged.sink.place?)
    (written : ∀ log, logged.sink.log = some log → (flush log logged.sink.disk).1 = true) :
    Accounts start ((SinkCall.emitted line).perform logged).2 new := by
  have performed : (SinkCall.emitted line).perform logged.sink = (.error failure, after) := made
  refine accounts.keep (.emitted line) nowhere ?_ ?_ ?_ (fun _ _ => rfl) ?_ ?_ ?_
  · rw [performed]
    exact keeps
  · rw [performed]
    exact alone
  · rw [performed]
    exact placed
  · rw [atOpen_nowhere]
    exact List.forall_mem_nil _
  · rw [Logged.takenCount_perform, performed, atOpen_nowhere]
    rfl
  · rw [lost_emitted]
    cases opened : logged.sink.log with
    | none => rfl
    | some log => simp [written log opened]

/-- A line that is taken. -/
theorem Accounts.take (accounts : Accounts start logged books) {line : String}
    (plain : IsPlain line.toList) {after : Journal} {log : OpenLog}
    (opened : logged.sink.log = some log) (made : logged.sink.emit line = (.ok (), after))
    (keeps : Keeps start logged.sink after books new (only log.place [line]))
    (alone : Local logged.sink after) (placed : after.place? = some log.place) :
    Accounts start ((SinkCall.emitted line).perform logged).2 new := by
  have performed : (SinkCall.emitted line).perform logged.sink = (.ok (), after) := made
  have added : logged.sink.atOpen (only log.place [line]) = [line] := by
    rw [atOpen_of_log opened]
    exact if_pos rfl
  refine accounts.keep (.emitted line) (only log.place [line]) ?_ ?_ ?_ ?_ ?_ ?_ ?_
  · rw [performed]
    exact keeps
  · rw [performed]
    exact alone
  · rw [performed, place?_of_log opened]
    exact placed
  · intro place other
    refine if_neg fun same => other ?_
    rw [place?_of_log opened, same]
  · rw [added]
    exact List.forall_mem_singleton.mpr plain
  · rw [Logged.takenCount_perform, performed, added]
    rfl
  · rw [lost_emitted, opened, made]
    rfl

/-- A line that is refused because the buffer could not be written: what was held is thrown away. -/
theorem Accounts.discard (accounts : Accounts start logged books) {line : String}
    {failure : Failure} {after : Journal} {log : OpenLog} (opened : logged.sink.log = some log)
    (made : logged.sink.emit line = (.error failure, after))
    (stuck : (flush log logged.sink.disk).1 = false) (right : new.Right start after)
    (alone : Local logged.sink after) (placed : after.place? = some log.place)
    (unwritten : ∀ place, new.total after place = books.written place) :
    Accounts start ((SinkCall.emitted line).perform logged).2 new := by
  have performed : (SinkCall.emitted line).perform logged.sink = (.error failure, after) := made
  have sink := Logged.sink_perform (.emitted line) logged
  rw [performed] at sink
  have before : logged.sink.atOpen (books.total logged.sink) =
      books.written log.place ++ books.held := by
    rw [atOpen_of_log opened]
    unfold total
    rw [heldAt_self (place?_of_log opened)]
  have lines : after.atOpen (new.total after) = books.written log.place := by
    unfold atOpen
    rw [placed]
    exact unwritten log.place
  have plain := accounts.plain
  rw [before] at plain
  have held : Lines.count log.pending = books.held.length := by
    rw [(accounts.right.opened log opened).1]
    exact Lines.count_bytes fun line member => plain line (List.mem_append_right _ member)
  have thrown : ((SinkCall.emitted line).perform logged).2.lost =
      logged.lost + books.held.length := by
    rw [Logged.lost_perform, lost_emitted, opened, made, ← held]
    simp [stuck, Except.toBool]
  have untaken : ((SinkCall.emitted line).perform logged).2.takenCount = logged.takenCount := by
    rw [Logged.takenCount_perform, performed]
    rfl
  have other {place : List String} (elsewhere : after.place? ≠ some place) :
      logged.sink.place? ≠ some place := by
    rw [place?_of_log opened, ← placed]
    exact elsewhere
  refine ⟨?_, ?_, ?_, ?_, ?_, ?_⟩
  · rw [sink]
    exact right
  · intro place elsewhere
    rw [sink] at elsewhere
    have nothing : new.total after place = [] :=
      (unwritten place).trans (accounts.unwritten place (other elsewhere))
    exact (List.append_eq_nil_iff.mp nothing).1
  · intro place elsewhere
    rw [sink] at elsewhere ⊢
    rw [alone place (other elsewhere) elsewhere]
    exact accounts.others place (other elsewhere)
  · rw [sink, lines]
    exact fun line member => plain line (List.mem_append_left _ member)
  · rw [sink, lines, untaken, thrown, accounts.taken, before, List.length_append]
    omega
  · intro closed
    rw [sink] at closed
    rw [place?, closed] at placed
    cases placed

/-- **Emitting a line keeps the accounts.** If the buffer could not be written, its lines are thrown
away. -/
theorem Accounts.emit (accounts : Accounts start logged books) {line : String}
    (plain : IsPlain line.toList) :
    ∃ new, Accounts start ((SinkCall.emitted line).perform logged).2 new := by
  have emitting := emit_cases accounts.right line
  rcases made : logged.sink.emit line with ⟨result, after⟩
  rw [made] at emitting
  cases emitting with
  | closed unopened =>
    refine ⟨books, accounts.refuse made (Keeps.refl accounts.right) (Local.refl _) rfl ?_⟩
    intro log opened
    rw [unopened] at opened
    cases opened
  | taken log opened _ new keeps alone placed =>
    exact ⟨new, accounts.take plain opened made keeps alone placed⟩
  | refused log opened failure _ new written reason keeps alone placed =>
    refine ⟨new, accounts.refuse made keeps alone (placed.trans (place?_of_log opened).symm) ?_⟩
    intro other same
    rw [opened] at same
    cases same
    exact written
  | lost log opened failure _ new stuck reason step alone placed unwritten =>
    exact ⟨new, accounts.discard opened made stuck step.right alone placed unwritten⟩

/-- What the accounts say of the open file: its lines, those in the buffer and those that were
thrown away are as many as were taken. -/
theorem Accounts.balance (accounts : Accounts start logged books) {log : OpenLog}
    (opened : logged.sink.log = some log) :
    logged.takenCount + Lines.countIn (start.content? log.place) =
      Lines.countIn (logged.sink.disk.content? log.place) + Lines.count log.pending +
        logged.lost := by
  have plain := accounts.plain
  have taken := accounts.taken
  rw [atOpen_of_log opened, total, heldAt_self (place?_of_log opened)] at plain taken
  have written := Lines.countIn_of_extend (accounts.right.grows.extend log.place)
    fun line member => plain line (List.mem_append_left _ member)
  have held : Lines.count log.pending = books.held.length := by
    rw [(accounts.right.opened log opened).1]
    exact Lines.count_bytes fun line member => plain line (List.mem_append_right _ member)
  rw [List.length_append] at taken
  omega

theorem Accounts.takenCount_of_closed (accounts : Accounts start logged books)
    (closed : logged.sink.log = none) : logged.takenCount = 0 := by
  rw [accounts.taken, accounts.unopened closed, atOpen_of_closed closed]
  rfl

end Journal

end MetricRelay

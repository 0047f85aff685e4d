/-
**Where the rows of a batcher over a journal are.**

The rows that a batcher counts as emitted are those that its journal took, so the accounts of the
journal say where they are, as long as the batcher is not stopped. A row that was counted can be
thrown away later, by a row that does not fit into the buffer while the buffer cannot be written.

* `Batcher.Accounted`: the journal of a batcher has accounts. Every step but a stop keeps it;
* `Batcher.take_of_stuck`: how a row costs those in the buffer.

Main statement: `Batcher.rows_are_written_pending_or_lost`.
-/

import MetricRelay.Proofs.Batch.Grouping
import MetricRelay.Proofs.Batch.Image
import MetricRelay.Proofs.Sink.Accounts

namespace MetricRelay

namespace Batcher

open Journal

variable {start : Disk} {batcher : Batcher (Logged Journal)}

/-- The journal of a batcher has accounts, and it is closed before the first sample. -/
structure Accounted (start : Disk) (batcher : Batcher (Logged Journal)) : Prop where
  books : ∃ books, Accounts start batcher.sink books
  unopened : batcher.phase = .idle → batcher.sink.sink.log = none

/-- **Closing a batch keeps the accounts.** -/
theorem Closing.accounts {stream : StreamKey} {timestamp : Int}
    {result : Bool × Batcher (Logged Journal)}
    (closing : Closing batcher stream timestamp result)
    (accounted : ∃ books, Accounts start batcher.sink books) :
    ∃ books, Accounts start result.2.sink books := by
  obtain ⟨books, accounts⟩ := accounted
  have emitted {line : String} (plain : IsPlain line.toList) {outcome : Except Failure Unit}
      {sink : Logged Journal} (emit : Sink.emit line batcher.sink = (outcome, sink)) :
      ∃ books, Accounts start sink books := by
    have next := accounts.emit plain
    rwa [show (SinkCall.emitted line).perform batcher.sink = (outcome, sink) from emit] at next
  have synced {sink after : Logged Journal} {outcome : Except Failure Unit}
      (sync : Sink.sync sink = (outcome, after)) (known : ∃ books, Accounts start sink books) :
      ∃ books, Accounts start after books := by
    obtain ⟨middle, accounts⟩ := known
    have next := accounts.sync
    rwa [show SinkCall.synced.perform sink = (outcome, after) from sync] at next
  cases closing with
  | empty void => exact ⟨books, accounts⟩
  | lost failure sink full emit => exact emitted (Row.line_isPlain _) emit
  | delivered sink full emit early => exact emitted (Row.line_isPlain _) emit
  | settled sink after full emit due sync => exact synced sync (emitted (Row.line_isPlain _) emit)
  | unsettled sink after failure full emit due sync =>
    exact synced sync (emitted (Row.line_isPlain _) emit)

/-- **Taking a sample keeps the accounts.** -/
theorem Taking.accounted {sample : Offered} {result : Offer × Batcher (Logged Journal)}
    (taking : Taking batcher sample result) (accounted : Accounted start batcher) :
    Accounted start result.2 := by
  obtain ⟨⟨books, accounts⟩, unopened⟩ := accounted
  -- Opening, if the first sample asks for it.
  have opening {outcome : Except Failure Unit} {sink : Logged Journal}
      (phase : batcher.phase = .idle)
      (call : Sink.openStream (sample.stream batcher.hostname) batcher.sink = (outcome, sink)) :
      (∃ books, Accounts start sink books) ∧ (outcome.toBool = false → sink.sink.log = none) := by
    have next := accounts.open (unopened phase) (sample.stream batcher.hostname)
    have made : (SinkCall.opened (sample.stream batcher.hostname)).perform batcher.sink =
        (outcome, sink) := call
    rw [← Logged.sink_perform, made] at next
    refine ⟨next.1, fun failed => next.2 ?_⟩
    have result := congrArg Prod.fst made
    rw [Logged.perform_eq] at result
    rw [show ((SinkCall.opened (sample.stream batcher.hostname)).perform batcher.sink.sink).1 =
      outcome from result]
    exact failed
  cases taking with
  | stopped | waiting | foreign => exact ⟨⟨books, accounts⟩, unopened⟩
  | refused failure sink phase ready call =>
    obtain ⟨known, closed⟩ := opening phase call
    exact ⟨known, fun _ => closed rfl⟩
  | adopted sink phase ready call =>
    refine ⟨?_, fun idle => ?_⟩
    · rw [mergeSample_sink]
      exact (opening phase call).1
    · rw [mergeSample_phase] at idle
      cases idle
  | joined phase own =>
    refine ⟨?_, fun idle => ?_⟩
    · rw [mergeSample_sink]
      exact ⟨books, accounts⟩
    · rw [mergeSample_phase, phase] at idle
      cases idle
  | rolled before emitted closed phase own different closing =>
    refine ⟨?_, fun idle => ?_⟩
    · rw [mergeSample_sink]
      exact closing.accounts ⟨books, accounts⟩
    · rw [mergeSample_phase] at idle
      cases idle

/-- Every step but a stop keeps the accounts. -/
theorem next_accounted (consistent : batcher.Consistent) (accounted : Accounted start batcher)
    {event : Event} (running : event ≠ .stop) : Accounted start (batcher.next event) := by
  cases event with
  | cycle => exact ⟨accounted.books, accounted.unopened⟩
  | offer sample => exact (take_cases consistent sample).accounted accounted
  | stop => exact absurd rfl running

/-- **A run has accounts until it is stopped.** -/
theorem run_accounted (directory : Path) (start : Disk) (hostname : String) (syncEvery : Nat)
    {events : List Event} (running : .stop ∉ events) :
    Accounted start
      ((logged ({ directory, disk := start } : Journal) hostname syncEvery).run events) := by
  induction events using List.reverseRecOn with
  | nil =>
    refine ⟨⟨{}, Books.new_right directory start, fun _ _ => rfl, fun _ _ => rfl, ?_, rfl,
      fun _ => rfl⟩, fun _ => rfl⟩
    · exact List.forall_mem_nil _
  | append_singleton events event ih =>
    rw [List.mem_append, List.mem_singleton, not_or] at running
    rw [run_concat]
    exact next_accounted (logged_consistent _ hostname syncEvery events) (ih running.1)
      fun stopping => running.2 stopping.symm

/-- The rows that a batcher counts as emitted are those that its sink took. -/
theorem run_rowsEmitted {σ : Type} [Sink σ] (sink : σ) (hostname : String) (syncEvery : Nat)
    (events : List Event) :
    ((logged sink hostname syncEvery).run events).stats.rowsEmitted =
      ((logged sink hostname syncEvery).run events).sink.takenCount := by
  have gathers := run_gathers sink hostname syncEvery events
  unfold Gathers at gathers
  cases phase : ((logged sink hostname syncEvery).run events).phase with
  | idle =>
    rw [phase] at gathers
    exact gathers.2.taken
  | collecting timestamp =>
    rw [phase] at gathers
    obtain ⟨closed, opened, collects⟩ := gathers
    exact collects.delivered.taken
  | stopped =>
    rw [phase] at gathers
    exact gathers.2.taken

/-- **Where the rows are.** Let a batcher over a journal be asked for any events but a stop, on a
disk whose calls fail at will. The log of its calls changes nothing, and

* no file but the open one changes, and no row is counted before one is open;
* the rows that are counted as emitted are as many as the lines that the open file got, those in the
  buffer, and those that were thrown away;
* nothing is thrown away unless a row was refused. -/
theorem rows_are_written_pending_or_lost (directory : Path) (start : Disk) (hostname : String)
    (syncEvery : Nat) (events : List Event) (running : .stop ∉ events) :
    let batcher := (logged ({ directory, disk := start } : Journal) hostname syncEvery).run events
    let journal := batcher.sink.sink
    batcher.forget = (new { directory, disk := start } hostname syncEvery).run events ∧
    (∀ place, journal.place? ≠ some place →
      journal.disk.content? place = start.content? place) ∧
    (journal.log = none → batcher.stats.rowsEmitted = 0) ∧
    (∀ log, journal.log = some log →
      batcher.stats.rowsEmitted + Lines.countIn (start.content? log.place) =
        Lines.countIn (journal.disk.content? log.place) + Lines.count log.pending +
          batcher.sink.lost) ∧
    ((∀ entry ∈ batcher.sink.entries, entry.call.line? ≠ none → entry.succeeded = true) →
      batcher.sink.lost = 0) := by
  intro batcher journal
  obtain ⟨⟨books, accounts⟩, _⟩ := run_accounted directory start hostname syncEvery running
  have emitted : batcher.stats.rowsEmitted = batcher.sink.takenCount :=
    run_rowsEmitted _ hostname syncEvery events
  refine ⟨run_forget _ hostname syncEvery events, accounts.others, fun closed => ?_,
    fun log opened => ?_, Logged.lost_eq_zero⟩
  · rw [emitted]
    exact accounts.takenCount_of_closed closed
  · rw [emitted]
    exact accounts.balance opened

/-- A sample of a text. -/
def textSample (text : String) (timestamp : Int) : Offered :=
  ⟨⟨⟨"app-1"⟩, ⟨"1"⟩, ["m"]⟩, .scalar (.text text), timestamp⟩

/-- After two seconds one row is counted, and the balance holds. -/
theorem one_row_is_pending :
    let events := [.offer (textSample "" 1), .offer (textSample "" 2)]
    let batcher := (logged ({ directory := ⟨"out"⟩, disk := {} } : Journal) "host" 20).run events
    let journal := batcher.sink.sink
    .stop ∉ events ∧ journal.place? = some ["work", "out", "app-1", "host_1.json"] ∧
    ∀ log, journal.log = some log → 1 + Lines.countIn (({} : Disk).content? log.place) =
      Lines.countIn (journal.disk.content? log.place) + Lines.count log.pending +
        batcher.sink.lost := by
  intro events batcher journal
  have running : .stop ∉ events := by simp [events]
  have place : journal.place? = some ["work", "out", "app-1", "host_1.json"] := by decide +kernel
  have emitted : batcher.stats.rowsEmitted = 1 := by decide +kernel
  obtain ⟨_, _, _, balance, _⟩ :=
    rows_are_written_pending_or_lost ⟨"out"⟩ {} "host" 20 events running
  refine ⟨running, place, fun log opened => ?_⟩
  rw [← emitted]
  exact balance log opened

end Batcher

/-! ### Rows that are thrown away -/

/-- Nothing can be written to the device that is always full. -/
theorem Disk.append_full {disk : Disk} {place : List String} (calm : disk.faults = [])
    (device : disk.node? place = some .full) (bytes : ByteArray) :
    disk.append place bytes = (false, disk) := by
  unfold append nextFault
  rw [calm]
  simp only [device]

/-- **A line that does not fit takes the buffer with it** if the buffer cannot be written. -/
theorem Journal.emit_of_stuck {journal : Journal} {log : OpenLog} {line : String}
    (opened : journal.log = some log) (held : log.pending.size ≠ 0)
    (exceeds : log.pending.size + (line ++ "\n").toUTF8.size > capacity) {disk : Disk}
    (stuck : journal.disk.append log.place log.pending = (false, disk)) :
    journal.emit line =
      (failed log.path, { journal with disk, log := some { log with pending := .empty } }) := by
  unfold emit flush
  rw [opened]
  simp only [if_pos exceeds, if_neg held, stuck]
  rfl

/-- The line of a row with one text is at least as long as the text. -/
theorem Row.length_le_line (text key : String) (timestamp : Int) (host : HostTag) :
    text.length ≤
      (Row.line ⟨timestamp, .leaf key (.scalar (.text text)) .nil, host⟩).length := by
  have quoted := Json.length_le_quoted text.toList
  rw [String.length_toList] at quoted
  unfold line Json.compact toJson Record.toJson
  rw [String.length_ofList]
  simp only [Record.members, Measure.toJson, Scalar.toJson, Json.chars, Json.memberChars,
    Json.leafChars, List.length_append, List.length_cons]
  omega

namespace Batcher

section Roll

variable {σ : Type} [Sink σ] {batcher : Batcher σ}

theorem closeBatch_of_refused {stream : StreamKey} (adopted : batcher.stream = some stream)
    {timestamp : Int} (full : batcher.record ≠ .nil) {failure : Failure} {sink : σ}
    (emit : Sink.emit (Row.line ⟨timestamp, batcher.record, stream.host⟩) batcher.sink =
      (.error failure, sink)) :
    batcher.closeBatch timestamp = (false, { batcher with
      sink, record := .nil
      stats := { batcher.stats with sampleFailures := batcher.stats.sampleFailures + 1 } }) :=
  (Closing.lost failure sink full emit).eq adopted

theorem take_of_roll {sample : Offered} {before : Int} (phase : batcher.phase = .collecting before)
    (own : batcher.stream = some (sample.stream batcher.hostname))
    (different : before ≠ sample.timestamp) :
    batcher.take sample = mergeSample
      { (batcher.closeBatch before).2 with phase := .collecting sample.timestamp }
      sample.route.path sample.value (.rolled (batcher.closeBatch before).1) := by
  have running : ¬ batcher.isStopped = true := by rw [isStopped_iff, phase]; simp
  have mine : isOwn (sample.stream batcher.hostname) sample.route = true :=
    (isOwn_iff _ _ batcher.hostname sample).mpr rfl
  unfold take offer
  rw [if_neg running, own]
  simp only [mine, if_true]
  unfold accept openTimestamp
  rw [phase]
  simp only [if_neg different]

end Roll

/-- **A row that does not fit costs all rows in the buffer** if the buffer cannot be written. They
stay counted. -/
theorem take_of_stuck {batcher : Batcher Journal} {sample : Offered} {before : Int}
    (phase : batcher.phase = .collecting before)
    (own : batcher.stream = some (sample.stream batcher.hostname))
    (different : before ≠ sample.timestamp) (full : batcher.record ≠ .nil) {log : OpenLog}
    (opened : batcher.sink.log = some log) (held : log.pending.size ≠ 0)
    (exceeds : log.pending.size + (Row.line ⟨before, batcher.record,
      (sample.stream batcher.hostname).host⟩ ++ "\n").toUTF8.size > Journal.capacity)
    {disk : Disk} (stuck : batcher.sink.disk.append log.place log.pending = (false, disk)) :
    (batcher.take sample).2.sink =
        { batcher.sink with disk, log := some { log with pending := .empty } } ∧
      (batcher.take sample).2.stats.rowsEmitted = batcher.stats.rowsEmitted := by
  have emit := Journal.emit_of_stuck opened held exceeds stuck
  rw [take_of_roll phase own different, closeBatch_of_refused own full emit]
  simp

/-- The full device stands at a place. -/
def atDevice (disk : Disk) (place : List String) : Bool :=
  match disk.node? place with
  | some .full => true
  | _ => false

theorem node?_of_atDevice {disk : Disk} {place : List String}
    (device : atDevice disk place = true) : disk.node? place = some .full := by
  unfold atDevice at device
  split at device
  · assumption
  · cases device

/-- A batcher over a journal whose file is the full device. -/
def overDevice : Batcher Journal :=
  new { directory := ⟨"out"⟩, disk := ({} : Disk).linkFull ⟨"out/app-1/host_1.json"⟩ } "host" 20

/-- Its batch of the first second, closed. -/
def afterRow : Bool × Batcher Journal :=
  (overDevice.take (textSample "" 1)).2.closeBatch 1

/-- The row of the first second is counted, and it is in the buffer. -/
theorem afterRow_facts :
    let first := (overDevice.take (textSample "" 1)).2
    (first.phase = .collecting 1 ∧
      first.stream = some ((textSample "" 1).stream first.hostname)) ∧
    (afterRow.2.stream = some ((textSample "" 1).stream afterRow.2.hostname) ∧
      afterRow.2.record.isEmpty = true ∧ afterRow.2.stats.rowsEmitted = 1) ∧
    afterRow.2.sink.log.any (fun log => log.pending.size ≠ 0 &&
      atDevice afterRow.2.sink.disk log.place) = true ∧
    afterRow.2.sink.disk.faults = [] := by
  decide +kernel

/-- Samples of three seconds. The row of the second one does not fit into the buffer if its text is
wide. -/
theorem wide_row_costs_another (text : String) (wide : Journal.capacity ≤ text.length) :
    let events : List Event :=
      [.offer (textSample "" 1), .offer (textSample text 2), .offer (textSample "" 3)]
    let batcher := overDevice.run events
    .stop ∉ events ∧ ∃ log, batcher.sink.log = some log ∧ batcher.stats.rowsEmitted = 1 ∧
      Lines.countIn (batcher.sink.disk.content? log.place) + Lines.count log.pending = 0 := by
  intro events batcher
  have running : .stop ∉ events := by simp [events]
  refine ⟨running, ?_⟩
  obtain ⟨⟨phase, own⟩, ⟨stream, void, emitted⟩, held, calm⟩ := afterRow_facts
  rw [Option.any_eq_true] at held
  obtain ⟨log, opened, held⟩ := held
  rw [Bool.and_eq_true, decide_eq_true_eq] at held
  have rolled : (overDevice.take (textSample "" 1)).2.take (textSample text 2) =
      mergeSample { afterRow.2 with phase := .collecting 2 } ["m"] (.scalar (.text text))
        (.rolled afterRow.1) := take_of_roll phase own (show (1 : Int) ≠ 2 by decide)
  have last : batcher = (((overDevice.take (textSample "" 1)).2.take (textSample text 2)).2.take
      (textSample "" 3)).2 := rfl
  rw [last, rolled]
  generalize afterRow = closing at stream void emitted opened held calm
  obtain ⟨delivered, closed⟩ := closing
  let next : Batcher Journal := (mergeSample { closed with phase := .collecting 2 } ["m"]
    (.scalar (.text text)) (.rolled delivered)).2
  have record : next.record = .leaf "m" (.scalar (.text text)) .nil := by
    rw [mergeSample_record]
    show (closed.record.merge _ _).1 = _
    rw [Record.isEmpty_iff.mp void]
    rfl
  have phase : next.phase = .collecting 2 := by rw [mergeSample_phase]
  have sink : next.sink = closed.sink := by rw [mergeSample_sink]
  have own : next.stream = some ((textSample "" 3).stream next.hostname) := by
    rw [mergeSample_stream, mergeSample_hostname]
    exact stream
  have stuck : next.sink.disk.append log.place log.pending = (false, closed.sink.disk) := by
    rw [sink]
    exact Disk.append_full calm (node?_of_atDevice held.2) log.pending
  have exceeds : log.pending.size + (Row.line ⟨2, next.record,
      ((textSample "" 3).stream next.hostname).host⟩ ++ "\n").toUTF8.size > Journal.capacity := by
    have line := Row.length_le_line text "m" 2 ((textSample "" 3).stream next.hostname).host
    rw [← record] at line
    have size := Lines.length_le_size (Row.line ⟨2, next.record,
      ((textSample "" 3).stream next.hostname).host⟩)
    have positive := Nat.pos_of_ne_zero held.1
    omega
  obtain ⟨after, counted⟩ := take_of_stuck phase own (show (2 : Int) ≠ 3 by decide)
    (by rw [record]; simp) (by rw [sink]; exact opened) held.1 exceeds stuck
  refine ⟨{ log with pending := .empty }, by rw [after], ?_, ?_⟩
  · rw [counted, mergeSample_rowsEmitted]
    exact emitted
  · rw [after]
    unfold Disk.content?
    rw [node?_of_atDevice held.2]
    rfl

/-- **Rows that are counted can be thrown away.** One row is counted here, the file has no line, and
nothing is in the buffer. -/
theorem counted_row_is_thrown_away :
    let events : List Event := [.offer (textSample "" 1),
      .offer (textSample (String.ofList (List.replicate Journal.capacity 'a')) 2),
      .offer (textSample "" 3)]
    let batcher := overDevice.run events
    .stop ∉ events ∧ ∃ log, batcher.sink.log = some log ∧ batcher.stats.rowsEmitted = 1 ∧
      Lines.countIn (batcher.sink.disk.content? log.place) + Lines.count log.pending = 0 := by
  have width : Journal.capacity ≤ (String.ofList (List.replicate Journal.capacity 'a')).length :=
    Nat.le_of_eq (String.length_ofList.trans List.length_replicate).symm
  exact wide_row_costs_another (String.ofList (List.replicate Journal.capacity 'a')) width

end Batcher

end MetricRelay

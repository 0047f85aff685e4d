/-
**What a run of a batcher leaves in its outlet.**

A journal leaves a disk on which files only got longer. A publisher leaves the disk alone and its
broker with one message for each row that was counted as emitted.

* `Outlet.Sound`: if the outlet is a journal, it has books that are right;
* `Outlet.perform_grows`: what one call does to the files;
* `Batcher.run_journal`, `Batcher.run_publisher`: a run over an outlet is one over the sink inside;
* `Batcher.messages_of_run`: there are as many messages as rows that were emitted.
-/

import MetricRelay.Command.Run
import MetricRelay.Proofs.Batch.Journaled
import MetricRelay.Proofs.Report.Isolation
import MetricRelay.Proofs.Sink.Durable
import MetricRelay.Proofs.Sink.Ledger

namespace MetricRelay

/-! ### Files -/

namespace Lines

theorem toList_loop (bytes : ByteArray) (position : Nat) (before : List UInt8) :
    ByteArray.toList.loop bytes position before =
      before.reverse ++ bytes.data.toList.drop position := by
  induction position, before using ByteArray.toList.loop.induct bytes with
  | case1 position before inside ih =>
    have bound : position < bytes.data.toList.length := inside
    have byte : bytes.get! position = bytes.data.toList[position] :=
      getElem!_pos bytes.data position inside
    rw [ByteArray.toList.loop.eq_def, if_pos inside, ih, List.reverse_cons, List.append_assoc, byte,
      List.drop_eq_getElem_cons bound]
    rfl
  | case2 position before outside =>
    have behind : bytes.data.toList.length ≤ position := Nat.le_of_not_lt outside
    rw [ByteArray.toList.loop.eq_def, if_neg outside, List.drop_eq_nil_of_le behind,
      List.append_nil]

/-- The bytes of a file, one by one. -/
theorem toList_eq_data (bytes : ByteArray) : bytes.toList = bytes.data.toList :=
  toList_loop bytes 0 []

/-- What is written to a file stands behind what it had, and no file goes away. -/
theorem Extend.begins {lines : List String} {before after : Option ByteArray}
    (extend : Extend lines before after) :
    (before.map ByteArray.toList).getD [] <+: (after.map ByteArray.toList).getD [] ∧
      (before.isSome = true → after.isSome = true) := by
  rcases before with _ | before
  · exact ⟨List.nil_prefix, fun present => by cases present⟩
  · rcases after with _ | after
    · exact extend.elim
    · rw [show after = before ++ bytes lines from extend]
      simp [toList_eq_data]

end Lines

namespace Outlet

variable {start : Disk}

theorem perform_journal (call : SinkCall) (inner : Journal) :
    call.perform (journal inner) = lift journal (call.perform inner) := by
  cases call <;> rfl

theorem perform_publisher (call : SinkCall) (inner : Publisher) :
    call.perform (publisher inner) = lift publisher (call.perform inner) := by
  cases call <;> rfl

theorem perform_recorder (call : SinkCall) (inner : Recorder) :
    call.perform (recorder inner) = lift recorder (call.perform inner) := by
  cases call <;> rfl

/-- If the outlet is a journal, it has books that are right. -/
def Sound (start : Disk) : Outlet → Prop
  | journal inner => ∃ books : Books, books.Right start inner
  | publisher _ | recorder _ => True

/-- **One call** keeps an outlet sound, and lines are added to files at most. -/
theorem perform_grows {outlet : Outlet} (sound : outlet.Sound start) (call : SinkCall) :
    Sound start (call.perform outlet).2 ∧ ∀ place, ∃ lines, Lines.Extend lines
      ((Command.diskAfter start outlet).content? place)
      ((Command.diskAfter start (call.perform outlet).2).content? place) := by
  cases outlet with
  | journal inner =>
    obtain ⟨books, right⟩ := sound
    obtain ⟨new, performed⟩ := Journal.perform_step right call
    obtain ⟨used, more, grows, _⟩ := performed.step.goes
    rw [perform_journal]
    exact ⟨⟨new, performed.step.right⟩, fun place => ⟨more place, grows.extend place⟩⟩
  | publisher inner =>
    rw [perform_publisher]
    exact ⟨trivial, fun place => ⟨[], (Disk.Grows.refl start).extend place⟩⟩
  | recorder inner =>
    rw [perform_recorder]
    exact ⟨trivial, fun place => ⟨[], (Disk.Grows.refl start).extend place⟩⟩

end Outlet

/-! ### Messages -/

namespace Publisher

/-- A call adds a message exactly if it delivers a line and succeeds. -/
theorem messages_perform (call : SinkCall) (publisher : Publisher) :
    (call.perform publisher).2.broker.messages.length = publisher.broker.messages.length +
      call.line?.toList.countP fun _ => (call.perform publisher).1.toBool := by
  cases call with
  | synced => rfl
  | closed =>
    simp only [SinkCall.perform, Sink.close, close]
    cases publisher.session <;> rfl
  | opened stream =>
    simp only [SinkCall.perform, Sink.openStream, openStream]
    cases publisher.session with
    | some session => rfl
    | none =>
      rcases asked : publisher.broker.connect (publisher.connection stream) with
        ⟨failure | _, broker⟩
      · obtain ⟨_, _, rfl⟩ := Broker.connect_error asked
        rfl
      · rw [Broker.connect_ok asked]
        rfl
  | emitted line =>
    simp only [SinkCall.perform, Sink.emit, emit]
    cases publisher.session with
    | none => rfl
    | some session =>
      simp only
      rcases asked : publisher.broker.publish
          ⟨session.clientId, session.topic, line, .exactlyOnce⟩ with ⟨failure | _, broker⟩
      · obtain ⟨_, _, rfl⟩ := Broker.publish_error asked
        rfl
      · rw [Broker.publish_ok asked]
        exact List.length_append

theorem messages_keep : Sink.Keeps fun logged : Logged Publisher =>
    logged.sink.broker.messages.length = logged.takenCount := by
  intro call logged held
  rw [Logged.sink_perform, messages_perform, Logged.takenCount_perform, held]

end Publisher

/-! ### Runs -/

namespace Batcher

variable (hostname : String) (syncEvery : Nat) (events : List Event)

/-- A run over a journal that is an outlet. -/
theorem run_journal (journal : Journal) :
    (new (Outlet.journal journal) hostname syncEvery).run events =
      ((new journal hostname syncEvery).run events).withSink .journal :=
  (run_withSink (fun call sink _ => ⟨trivial, Outlet.perform_journal call sink⟩)
    (new_consistent journal hostname syncEvery) events trivial).2

/-- A run over a publisher that is an outlet. -/
theorem run_publisher (publisher : Publisher) :
    (new (Outlet.publisher publisher) hostname syncEvery).run events =
      ((new publisher hostname syncEvery).run events).withSink .publisher :=
  (run_withSink (fun call sink _ => ⟨trivial, Outlet.perform_publisher call sink⟩)
    (new_consistent publisher hostname syncEvery) events trivial).2

/-- **A run over a journal changes one file at most:** the log of the stream that it opened, which
is the stream of a sample that was offered. What stands there in the end is what stood there, and
lines of rows of that stream behind it. -/
theorem files_of_run (directory : Path) (start : Disk) :
    let disk := ((new ({ directory, disk := start } : Journal) hostname syncEvery).run
      events).sink.disk
    ∃ adopted : Option StreamKey,
      (∀ stream ∈ adopted, ∃ sample ∈ Event.samples events, sample.stream hostname = stream) ∧
      ∀ place, (∃ lines, Lines.Extend lines (start.content? place) (disk.content? place) ∧
          ∀ line ∈ lines, ∃ stream ∈ adopted, ∃ row : Row,
            row.host = stream.host ∧ line = row.line) ∧
        (disk.content? place ≠ start.content? place → ∃ stream ∈ adopted,
          disk.place? (Journal.logPath directory stream) = some place) := by
  intro disk
  let inner : Journal := { directory, disk := start }
  let batcher := (logged inner hostname syncEvery).run events
  have forgotten : disk = batcher.sink.sink.disk := by
    show ((new inner hostname syncEvery).run events).sink.disk = _
    rw [← run_forget]
    rfl
  obtain ⟨calls, made⟩ : ∃ calls, batcher.sink =
      SinkCall.performAll calls (Journal.fresh directory start) :=
    ⟨_, (logged_consistent inner hostname syncEvery []).run_keeps (Logged.performAll_trace inner)
      rfl events⟩
  have hostname_eq : batcher.hostname = hostname := logged_hostname inner hostname syncEvery events
  have gathers := run_gathers inner hostname syncEvery events
  obtain ⟨adopted, adopts⟩ := run_adopts inner hostname syncEvery events
  refine ⟨adopted, fun stream known => ?_, fun place => ⟨?_, fun differs => ?_⟩⟩
  · obtain ⟨sample, taken, same⟩ := adopts.first stream known
    rw [hostname_eq] at same
    exact ⟨sample, (taken_sublist _ events).subset taken, same⟩
  · obtain ⟨books, step, _⟩ := Journal.run_books directory start calls
    have written := (Journal.written_sublist step place).trans (Logged.linesAt_sublist _ place)
    rw [← made] at step written
    refine ⟨books.written place, forgotten ▸ step.right.grows.extend place, fun line member => ?_⟩
    obtain ⟨handed, handedMem, rfl⟩ := List.mem_map.mp (written.subset member)
    obtain ⟨block, blockMem, row, known, line⟩ :=
      gathers.block_of_handed (List.mem_of_mem_filter handedMem)
    obtain ⟨first, firstMem, same⟩ := Offered.row?_eq_some known
    exact ⟨_, adopts.own first (Offered.mem_of_mem_blocks blockMem firstMem), row,
      by rw [same], line⟩
  · rw [forgotten, made] at differs ⊢
    have was : (SinkCall.performAll calls (Journal.fresh directory start)).WasOpen place :=
      by_contra fun never => differs (Journal.content?_of_not_wasOpen directory start calls never)
    obtain ⟨stream, opened, leads⟩ := (Journal.run_opens directory start calls).place place was
    rw [← made] at opened
    exact ⟨stream, (adopts.opened stream).mp opened, leads⟩

/-- **The messages are as many as the rows that were emitted.** -/
theorem messages_of_run {publisher : Publisher} (unused : publisher.broker.messages = []) :
    ((new publisher hostname syncEvery).run events).sink.broker.messages.length =
      ((new publisher hostname syncEvery).run events).stats.rowsEmitted := by
  have kept : ((logged publisher hostname syncEvery).run events).sink.sink.broker.messages.length =
      ((logged publisher hostname syncEvery).run events).sink.takenCount := by
    refine (logged_consistent publisher hostname syncEvery []).run_keeps Publisher.messages_keep ?_
      events
    show publisher.broker.messages.length = 0
    rw [unused]
    rfl
  rw [← run_forget]
  exact kept.trans (run_rowsEmitted publisher hostname syncEvery events).symm

end Batcher

end MetricRelay

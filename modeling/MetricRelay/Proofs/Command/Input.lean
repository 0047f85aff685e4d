/-
**The input of a replay, and the files that it leaves.**

A replay looks at its input again after it has taken all lines that it saw, since it may have added
to it. What it adds are rows, to the log of the one stream that it adopts, so an input that stands
elsewhere stays as it is. And no row is a frame, so the replay comes to the end of its input after a
few rounds.

* `Command.outlet`, `Command.reporter`: the sink and the reporter that a replay begins with;
* `Command.inputOn`: the bytes of the input; `Command.look`: the same as the sink leaves them;
* `Command.Files`: the files that are left. Only the log of the adopted stream changes;
* `Command.look_growing`, `Command.look_addsRows`: the input only gets longer, and by rows.

Main statements: `Command.exists_files_of_run`, `Command.more_rounds_change_nothing`.
-/

import MetricRelay.Proofs.Report.Building
import MetricRelay.Proofs.Report.Settling

namespace MetricRelay

namespace Command

open Recording Replay

variable (surroundings : Surroundings) (options : ReplayOptions)

/-! ### The beginning -/

/-- The sink that a replay begins with. -/
def outlet : SinkChoice → Outlet
  | .durableLog directory => .journal { directory, disk := surroundings.disk }
  | .publish host port => .publisher { host, port, broker := broker surroundings options }

/-- The reporter that a replay begins with. -/
def reporter (chosen : Settings) (filter : Filter) : Reporter Outlet where
  batcher := .new (outlet surroundings options chosen.sink)
    (chosen.hostnameOn surroundings.hostname) chosen.syncEvery
  filter := filter
  mode := chosen.mode
  units := chosen.units

theorem reporter_of_checked {chosen : Settings} (checked : chosen.check = .ok ()) :
    ∃ filter, Reporter.filterOf chosen.filter = .ok filter ∧
      Reporter.ofSettings chosen (machine surroundings options) =
        .ok (reporter surroundings options chosen filter) := by
  have sink : Outlet.ofChoice (machine surroundings options) chosen.sink =
      .ok (outlet surroundings options chosen.sink) := by
    cases chosen.sink <;> rfl
  obtain ⟨filter, filtered⟩ := Reporter.filterOf_of_usable (Settings.check_eq_ok_iff.mp checked)
  refine ⟨filter, filtered, ?_⟩
  unfold Reporter.ofSettings
  rw [checked, sink, filtered]
  rfl

theorem reporter_of_unchecked {chosen : Settings} (unchecked : chosen.check ≠ .ok ()) :
    ∃ reason, Reporter.ofSettings chosen (machine surroundings options) =
      .error (.settings reason) :=
  Reporter.ofSettings_unusable fun usable => unchecked (Settings.check_eq_ok_iff.mpr usable)

/-! ### Input -/

/-- The bytes of the input on a disk. A file is looked for where its path leads before the run. -/
def inputOn (input : Path) (disk : Disk) : Option (List UInt8) :=
  if input.text = "-" then some surroundings.standardInput
  else (surroundings.disk.place? input).bind fun place => (disk.content? place).map ByteArray.toList

/-- The place of the input, if it is a file. -/
def inputPlace? (input : Path) : Option (List String) :=
  if input.text = "-" then none else surroundings.disk.place? input

/-- The bytes of the input as the sink leaves them. -/
def look (input : Path) (sink : Outlet) : List UInt8 :=
  (inputOn surroundings input (diskAfter surroundings.disk sink)).getD []

theorem recording_of_none {input : Path}
    (absent : inputOn surroundings input surroundings.disk = none) :
    ∃ reason, recording surroundings input = .error (.fileAt input.text reason) := by
  unfold inputOn at absent
  unfold recording
  by_cases dash : input.text = "-"
  · rw [if_pos dash] at absent
    cases absent
  · rw [if_neg dash] at absent ⊢
    cases found : surroundings.disk.place? input with
    | none => exact ⟨_, rfl⟩
    | some place =>
      rw [found, Option.bind_some, Option.map_eq_none_iff] at absent
      simp only [absent]
      exact ⟨_, rfl⟩

theorem recording_of_some {input : Path} {given : List UInt8}
    (present : inputOn surroundings input surroundings.disk = some given) :
    recording surroundings input = .ok (look surroundings input) := by
  unfold inputOn at present
  unfold recording look inputOn
  by_cases dash : input.text = "-"
  · simp only [if_pos dash, Option.getD_some]
  · rw [if_neg dash] at present
    simp only [if_neg dash]
    obtain ⟨place, found, content⟩ := Option.bind_eq_some_iff.mp present
    obtain ⟨bytes, file, _⟩ := Option.map_eq_some_iff.mp content
    simp only [found, file, Option.bind_some]
    congr 1
    funext sink
    cases (diskAfter surroundings.disk sink).content? place with
    | none => exact ByteArray.toList_empty
    | some bytes => rfl

/-- The outlet is sound and the input is still there. -/
def Sound (input : Path) (sink : Outlet) : Prop :=
  sink.Sound surroundings.disk ∧
    (inputOn surroundings input (diskAfter surroundings.disk sink)).isSome = true

/-- **The input only gets longer.** -/
theorem look_growing (input : Path) :
    Growing (Sound surroundings input) (look surroundings input) := by
  rintro bytes call sink ⟨⟨sound, present⟩, held⟩
  obtain ⟨soundAfter, grows⟩ := Outlet.perform_grows sound call
  unfold Sound look
  unfold look at held
  unfold inputOn at present held ⊢
  by_cases dash : input.text = "-"
  · simp only [if_pos dash] at present held ⊢
    exact ⟨⟨soundAfter, rfl⟩, held⟩
  · simp only [if_neg dash] at present held ⊢
    cases found : surroundings.disk.place? input with
    | none =>
      rw [found] at present
      cases present
    | some place =>
      obtain ⟨lines, extend⟩ := grows place
      obtain ⟨longer, stays⟩ := extend.begins
      simp only [found, Option.bind_some, Option.isSome_map] at present held ⊢
      exact ⟨⟨soundAfter, stays present⟩, held.trans longer⟩

/-! ### Files -/

variable {surroundings options}

theorem diskAfter_outlet (choice : SinkChoice) :
    diskAfter surroundings.disk (outlet surroundings options choice) = surroundings.disk := by
  cases choice <;> rfl

theorem outlet_sound (choice : SinkChoice) :
    (outlet surroundings options choice).Sound surroundings.disk := by
  cases choice with
  | durableLog directory => exact ⟨{}, Books.new_right directory surroundings.disk⟩
  | publish host port => trivial

/-- The place of the log of a stream on a disk, if the settings choose to keep logs. -/
def logPlace? (chosen : Settings) (disk : Disk) (stream : StreamKey) : Option (List String) :=
  match chosen.sink with
  | .durableLog directory => disk.place? (Journal.logPath directory stream)
  | .publish _ _ => none

variable (surroundings) in
/-- **The files that a replay leaves** on a disk, when it has read lines that hold this. One stream
is adopted at most, and its log is the only file that changes. -/
structure Files (options : ReplayOptions) (chosen : Settings) (filter : Filter) (held : List Line)
    (adopted : Option StreamKey) (disk : Disk) : Prop where
  /-- The stream is that of a metric that is shown. -/
  shown : ∀ stream ∈ adopted, ∃ sample,
    (reporter surroundings options chosen filter).Shows (reports held) sample ∧
      sample.stream (chosen.hostnameOn surroundings.hostname) = stream
  /-- A file that changes is its log, and what comes to it is lines of rows of the stream. -/
  log : ∀ place, disk.content? place ≠ surroundings.disk.content? place →
    ∃ stream ∈ adopted, logPlace? chosen disk stream = some place ∧
      ∃ lines, Lines.Extend lines (surroundings.disk.content? place) (disk.content? place) ∧
        ∀ line ∈ lines, ∃ row : Row, row.host = stream.host ∧ line = row.line
  /-- Rows that are published are not added to any file. -/
  published : ∀ host port, chosen.sink = .publish host port → disk = surroundings.disk

variable (surroundings) in
/-- The batcher of a reporter ran over the sink that the settings choose. -/
theorem batcher_of_live (options : ReplayOptions) (chosen : Settings) (filter : Filter)
    (requests : List Request) : ∃ events,
    (∀ sample ∈ Event.samples events,
      (reporter surroundings options chosen filter).Shows requests sample) ∧
    ((reporter surroundings options chosen filter).live requests).batcher =
      (Batcher.new (outlet surroundings options chosen.sink)
        (chosen.hostnameOn surroundings.hostname) chosen.syncEvery).run events := by
  have start : (reporter surroundings options chosen filter).batcher =
      .new (outlet surroundings options chosen.sink) (chosen.hostnameOn surroundings.hostname)
        chosen.syncEvery := rfl
  exact ⟨_, fun sample member => Reporter.shows_of_asked (Event.mem_samples.mp member),
    Reporter.live_of_new start requests⟩

variable (surroundings) in
/-- **The files that a run leaves** over the sink that the settings choose. -/
theorem exists_files_of_run (options : ReplayOptions) (chosen : Settings) (filter : Filter)
    {held : List Line} {events : List Event}
    (shown : ∀ sample ∈ Event.samples events,
      (reporter surroundings options chosen filter).Shows (reports held) sample) :
    ∃ adopted, Files surroundings options chosen filter held adopted
      (diskAfter surroundings.disk ((Batcher.new (outlet surroundings options chosen.sink)
        (chosen.hostnameOn surroundings.hostname) chosen.syncEvery).run events).sink) := by
  cases choice : chosen.sink with
  | durableLog directory =>
    obtain ⟨adopted, offered, files⟩ := Batcher.files_of_run
      (chosen.hostnameOn surroundings.hostname) chosen.syncEvery events directory surroundings.disk
    rw [outlet, Batcher.run_journal]
    refine ⟨adopted, fun stream known => ?_, fun place differs => ?_, fun host port other => ?_⟩
    · obtain ⟨sample, member, same⟩ := offered stream known
      exact ⟨sample, shown sample member, same⟩
    · obtain ⟨⟨lines, extend, rows⟩, leads⟩ := files place
      obtain ⟨stream, known, found⟩ := leads differs
      refine ⟨stream, known, ?_, lines, extend, fun line member => ?_⟩
      · unfold logPlace?
        rw [choice]
        exact found
      · obtain ⟨other, otherKnown, row, host, same⟩ := rows line member
        rw [Option.mem_unique known otherKnown]
        exact ⟨row, host, same⟩
    · rw [choice] at other
      cases other
  | publish host port =>
    rw [outlet, Batcher.run_publisher]
    exact ⟨none, fun stream known => (by cases known), fun place differs => absurd rfl differs,
      fun _ _ _ => rfl⟩

/-- An input that is not the log of the stream stays as it is. -/
theorem Files.inputOn_eq {input : Path} {given : List UInt8} {chosen : Settings}
    {filter : Filter} {held : List Line} {adopted : Option StreamKey} {disk : Disk}
    (files : Files surroundings options chosen filter held adopted disk)
    (present : inputOn surroundings input surroundings.disk = some given)
    (apart : ∀ stream ∈ adopted, ∀ place, inputPlace? surroundings input = some place →
      logPlace? chosen disk stream ≠ some place) :
    inputOn surroundings input disk = some given := by
  rw [← present]
  unfold inputOn
  unfold inputPlace? at apart
  by_cases dash : input.text = "-"
  · rw [if_pos dash, if_pos dash]
  · rw [if_neg dash] at apart ⊢
    rw [if_neg dash]
    refine Option.bind_congr fun place found => congrArg (Option.map _) ?_
    by_contra differs
    obtain ⟨stream, known, leads, _⟩ := files.log place differs
    exact apart stream known place found leads

/-- What is added to a file are rows. -/
theorem Files.extend {chosen : Settings} {filter : Filter} {held : List Line}
    {adopted : Option StreamKey} {disk : Disk}
    (files : Files surroundings options chosen filter held adopted disk) (place : List String) :
    ∃ rows : List Row, Lines.Extend (rows.map Row.line) (surroundings.disk.content? place)
      (disk.content? place) := by
  by_cases same : disk.content? place = surroundings.disk.content? place
  · rw [same]
    exact ⟨[], (Disk.Grows.refl surroundings.disk).extend place⟩
  · obtain ⟨_, _, _, lines, extend, areRows⟩ := files.log place same
    have written : lines ∈ Set.range (List.map Row.line) := by
      rw [Set.range_list_map]
      intro line member
      obtain ⟨row, _, same⟩ := areRows line member
      exact ⟨row, same.symm⟩
    obtain ⟨rows, same⟩ := written
    exact ⟨rows, same ▸ extend⟩

/-! ### Rounds -/

/-- What is added to an input are rows. -/
theorem Files.exists_rows {input : Path} {given : List UInt8} {chosen : Settings}
    {filter : Filter} {held : List Line} {adopted : Option StreamKey} {disk : Disk}
    (files : Files surroundings options chosen filter held adopted disk)
    (present : inputOn surroundings input surroundings.disk = some given) :
    ∃ rows, inputOn surroundings input disk = some (given ++ rowBytes rows) := by
  unfold inputOn at present ⊢
  by_cases dash : input.text = "-"
  · rw [if_pos dash] at present ⊢
    exact ⟨[], present.trans (congrArg some (List.append_nil given).symm)⟩
  · rw [if_neg dash] at present ⊢
    obtain ⟨place, found, content⟩ := Option.bind_eq_some_iff.mp present
    obtain ⟨before, file, rfl⟩ := Option.map_eq_some_iff.mp content
    obtain ⟨rows, extend⟩ := files.extend place
    rw [file] at extend
    cases left : disk.content? place with
    | none =>
      rw [left] at extend
      exact extend.elim
    | some after =>
      rw [left] at extend
      rw [found, Option.bind_some, left, show after = _ from extend]
      exact ⟨rows, congrArg some (by
        simp only [Lines.toList_eq_data, ByteArray.toList_data_append, rowBytes])⟩

/-- **All that a replay adds to its input are rows.** -/
theorem look_addsRows {input : Path} {given : List UInt8}
    (present : inputOn surroundings input surroundings.disk = some given) (options : ReplayOptions)
    (chosen : Settings) (filter : Filter) :
    AddsRows (look surroundings input)
      { reporter := reporter surroundings options chosen filter, clock := ⟨0⟩ } := by
  intro lines
  obtain ⟨events, shown, run⟩ := batcher_of_live surroundings options chosen filter
    (reports (lines.map classify))
  obtain ⟨adopted, files⟩ := exists_files_of_run surroundings options chosen filter shown
  obtain ⟨rows, added⟩ := files.exists_rows present
  have begins : look surroundings input (outlet surroundings options chosen.sink) = given := by
    unfold look
    rw [diskAfter_outlet, present]
    rfl
  refine ⟨rows, ?_⟩
  show look surroundings input (takeLines _ lines).2.reporter.batcher.sink =
    look surroundings input (outlet surroundings options chosen.sink) ++ rowBytes rows
  rw [takeLines_reporter, run, begins]
  unfold look
  rw [added]
  rfl

/-- **The rounds of a replay are enough:** it has taken all that its input came to hold. -/
theorem more_rounds_change_nothing {chosen : Settings} {start : Reporter Outlet}
    (built : Reporter.ofSettings chosen (machine surroundings options) = .ok start) {input : Path}
    {bytes : Outlet → List UInt8} (opened : recording surroundings input = .ok bytes)
    (more : Nat) :
    takeGrowing bytes (rounds + more) 0 { reporter := start, clock := ⟨0⟩ } =
      takeGrowing bytes rounds 0 { reporter := start, clock := ⟨0⟩ } := by
  have known : ∃ filter, start = reporter surroundings options chosen filter := by
    by_cases checked : chosen.check = .ok ()
    · obtain ⟨filter, _, same⟩ := reporter_of_checked surroundings options checked
      rw [same] at built
      exact ⟨filter, (Except.ok.inj built).symm⟩
    · obtain ⟨reason, refused⟩ := reporter_of_unchecked surroundings options checked
      rw [refused] at built
      cases built
  obtain ⟨filter, rfl⟩ := known
  cases present : inputOn surroundings input surroundings.disk with
  | none =>
    obtain ⟨reason, refused⟩ := recording_of_none surroundings present
    rw [refused] at opened
    cases opened
  | some given =>
    rw [recording_of_some surroundings present] at opened
    cases opened
    exact rounds_suffice (look_addsRows present options chosen filter) more

end Command

end MetricRelay

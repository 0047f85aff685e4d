/-
**The outcome of a replay is decided by the settings and the input.**

A run that replays a recording ends with one of four statuses, and its sink has no say in it. The
settings come first: if they cannot be used nothing is read and nothing is written. Then the input
has to be there. Then its lines decide, and with them the counters that come before the sink.

* `Command.Configured`: the settings of a run, with those that its options override;
* `Command.Ended`, `Command.Decided`: what becomes of a replay, and of the run, by the lines read.
  The input is taken as it is read, since it can be the log that the run appends to. Any other input
  decides by the lines that it was given with.

Main statement: `Command.outcome_is_decided_by_settings_and_input`.
-/

import MetricRelay.Proofs.Command.Input
import MetricRelay.Proofs.Report.Front

namespace MetricRelay

namespace Command

open Recording Replay

variable (surroundings : Surroundings) (named : Option Path) (options : ReplayOptions)

/-! ### Settings -/

/-- The settings that stand where a run looks for them. -/
def loaded : Except SettingsError Settings :=
  Settings.ofSource surroundings.disk (standard surroundings)
    (Settings.source surroundings.disk named none
      (userDirectory surroundings.home surroundings.settingsHome ⟨".config"⟩))

/-- The settings that a replay works with: those that were found, with what the options override,
can be used before and after that. -/
def Configured (chosen : Settings) : Prop :=
  ∃ found, loaded surroundings named = .ok found ∧ found.check = .ok () ∧
    chosen = adjust options found ∧ chosen.check = .ok ()

theorem settings_of_checked {found : Settings} (stands : loaded surroundings named = .ok found)
    (checked : found.check = .ok ()) :
    ∃ source, settings surroundings named = .ok (found, source) := by
  unfold loaded at stands
  simp only [settings, Settings.resolve, bind, Except.bind, stands, checked]
  exact ⟨_, rfl⟩

theorem settings_of_unchecked
    (unusable : ∀ found, loaded surroundings named = .ok found → found.check ≠ .ok ()) :
    ∃ reason, settings surroundings named = .error (.settings reason) := by
  unfold loaded at unusable
  simp only [settings, Settings.resolve, bind, Except.bind]
  split
  next error _ => exact ⟨_, rfl⟩
  next found stands =>
    cases checked : found.check with
    | error error => exact ⟨_, rfl⟩
    | ok => exact absurd checked (unusable found stands)

/-- The reporter of a replay, if its settings can be used. -/
def opened : Except Failure (Reporter Outlet) := do
  let (settings, _) ← settings surroundings named
  Reporter.ofSettings (adjust options settings) (machine surroundings options)

variable {surroundings named options}

theorem opened_of_configured {chosen : Settings}
    (configured : Configured surroundings named options chosen) :
    ∃ filter, Reporter.filterOf chosen.filter = .ok filter ∧
      opened surroundings named options = .ok (reporter surroundings options chosen filter) := by
  obtain ⟨found, stands, checked, rfl, checkedAfter⟩ := configured
  obtain ⟨source, resolved⟩ := settings_of_checked surroundings named stands checked
  obtain ⟨filter, filtered, built⟩ := reporter_of_checked surroundings options checkedAfter
  refine ⟨filter, filtered, ?_⟩
  unfold opened
  rw [resolved]
  exact built

theorem opened_of_unconfigured
    (unconfigured : ∀ chosen, ¬ Configured surroundings named options chosen) :
    ∃ reason, opened surroundings named options = .error (.settings reason) := by
  unfold opened
  by_cases usable : ∃ found, loaded surroundings named = .ok found ∧ found.check = .ok ()
  · obtain ⟨found, stands, checked⟩ := usable
    obtain ⟨source, resolved⟩ := settings_of_checked surroundings named stands checked
    obtain ⟨reason, refused⟩ := reporter_of_unchecked surroundings options
      fun checkedAfter => unconfigured _ ⟨found, stands, checked, rfl, checkedAfter⟩
    rw [resolved]
    exact ⟨reason, refused⟩
  · obtain ⟨reason, refused⟩ := settings_of_unchecked surroundings named
      fun found stands checked => usable ⟨found, stands, checked⟩
    rw [refused]
    exact ⟨reason, rfl⟩

/-! ### Replays -/

/-- What the lines of the parts of a recording hold. -/
def heldBy (parts : List (List UInt8)) : List Line :=
  parts.flatMap fun part => (pieces part).map classify

theorem classify_flatMap_lines (parts : List (List UInt8)) :
    (parts.flatMap lines).map classify = heldBy parts := by
  rw [List.map_flatMap]
  exact congrArg (parts.flatMap ·) (funext classify_lines)

variable (surroundings) in
theorem reporter_fresh (options : ReplayOptions) (chosen : Settings) (filter : Filter) :
    Fresh (reporter surroundings options chosen filter) filter chosen.mode chosen.units :=
  ⟨⟨_, _, _, rfl⟩, rfl, rfl, rfl, rfl, rfl, rfl, rfl⟩

variable (surroundings) in
/-- A replay that was given an input, and the parts of the input that it read. -/
structure Ended (input : Path) (given : List UInt8) (chosen : Settings) (filter : Filter)
    (options : ReplayOptions) (result : Except Failure ReplaySummary) (replay : Replay Outlet)
    (parts : List (List UInt8)) : Prop where
  /-- The input was read from its beginning to the end that it had, or to a later one. -/
  later : ∃ later, inputOn surroundings input (diskAfter surroundings.disk replay.sink) =
    some later ∧ given <+: parts.flatten ∧ parts.flatten <+: later ∧
      (later = given → heldBy parts = (pieces given).map classify)
  result : result = if (heldBy parts).all Line.isText then .ok replay.summary
    else .error (.file "the recording is not UTF-8")
  front : (heldBy parts).all Line.isText = true →
    replay.summary.front = .ofLines filter chosen.mode chosen.units (heldBy parts)
  /-- The reporter lived through the frames that were read, and a stop. -/
  lived : replay.reporter = (reporter surroundings options chosen filter).live
    (reports (heldBy parts) ++ [.stop])

/-- **A replay ends** with what the lines say that it read. -/
theorem exists_ended {input : Path} {given : List UInt8}
    (present : inputOn surroundings input surroundings.disk = some given) (chosen : Settings)
    (filter : Filter) (options : ReplayOptions) :
    ∃ parts, Ended surroundings input given chosen filter options
      (runGrowing (reporter surroundings options chosen filter) ⟨0⟩ (look surroundings input)).1
      (runGrowing (reporter surroundings options chosen filter) ⟨0⟩ (look surroundings input)).2
      parts := by
  have fresh := reporter_fresh surroundings options chosen filter
  have initial : inputOn surroundings input (diskAfter surroundings.disk
      (reporter surroundings options chosen filter).batcher.sink) = some given := by
    show inputOn surroundings input (diskAfter _ (outlet surroundings options chosen.sink)) = _
    rw [diskAfter_outlet]
    exact present
  have begins : look surroundings input
      (reporter surroundings options chosen filter).batcher.sink = given := by
    unfold look
    rw [initial]
    rfl
  obtain ⟨parts, concluded, ⟨_, stays⟩, whole, inside, still⟩ :=
    (look_growing surroundings input).runGrowing_eq fresh.inService.1
      ⟨outlet_sound chosen.sink, by rw [initial]; rfl⟩ ⟨0⟩
  obtain ⟨readable, front⟩ := front_of_takeLines fresh ⟨0⟩ (parts.flatMap lines)
  have lived := takeLines_reporter
    { reporter := reporter surroundings options chosen filter, clock := ⟨0⟩ } (parts.flatMap lines)
  obtain ⟨later, final⟩ := Option.isSome_iff_exists.mp stays
  have looked : look surroundings input (runGrowing (reporter surroundings options chosen filter)
      ⟨0⟩ (look surroundings input)).2.sink = later := by
    unfold look at final ⊢
    rw [final]
    rfl
  rw [begins] at whole still
  rw [looked] at inside still
  rw [classify_flatMap_lines] at readable front lived
  refine ⟨parts, ⟨later, final, whole, inside, fun same => ?_⟩, ?_, fun texts => ?_, ?_⟩
  · rw [← classify_flatMap_lines, still same, classify_lines]
  · rw [concluded, conclude, ← readable]
  · rw [List.takeWhile_eq_self_iff.mpr (List.all_eq_true.mp texts)] at front
    rw [concluded]
    exact front
  · rw [concluded, Reporter.live_append]
    exact congrArg Reporter.stop lived

/-- The messages of a dry run: one for each row that was emitted, if rows are published. -/
def messageCount (summary : ReplaySummary) : SinkChoice → Nat
  | .durableLog _ => 0
  | .publish _ _ => summary.stats.batch.rowsEmitted

/-- The status of a replay whose lines are all texts. -/
def statusOf (held : List Line) : ExitStatus :=
  if held.any Line.isMalformed then .partialInput else .clean

theorem replayStatus_eq {summary : ReplaySummary} {held : List Line}
    (skipped : summary.skippedLines = held.countP Line.isMalformed) :
    replayStatus summary = statusOf held := by
  unfold replayStatus statusOf
  rw [skipped]
  by_cases some : held.any Line.isMalformed = true
  · rw [if_pos some, if_pos (List.countP_pos_iff.mpr (List.any_eq_true.mp some))]
  · rw [if_neg some, if_neg (mt List.countP_pos_iff.mp (mt List.any_eq_true.mpr some))]

section Ended

variable {input : Path} {given : List UInt8} {chosen : Settings} {filter : Filter}
  {result : Except Failure ReplaySummary} {replay : Replay Outlet} {parts : List (List UInt8)}
  (ended : Ended surroundings input given chosen filter options result replay
    parts)

include ended

/-- The batcher ran over the sink that the settings choose. -/
theorem Ended.batcher_eq : ∃ events,
    (∀ sample ∈ Event.samples events, (reporter surroundings options chosen filter).Shows
      (reports (heldBy parts)) sample) ∧
    replay.reporter.batcher = (Batcher.new (outlet surroundings options chosen.sink)
      (chosen.hostnameOn surroundings.hostname) chosen.syncEvery).run events := by
  obtain ⟨events, shown, run⟩ := batcher_of_live surroundings options chosen filter
    (reports (heldBy parts) ++ [.stop])
  refine ⟨events, fun sample member => ?_, by rw [ended.lived, run]⟩
  obtain ⟨clock, snapshot, reported, metric⟩ := shown sample member
  rcases List.mem_append.mp reported with reported | stops
  · exact ⟨clock, snapshot, reported, metric⟩
  · cases List.mem_singleton.mp stops

theorem Ended.published_eq (dry : options.dryRun = true) :
    published replay.sink = messageCount replay.summary chosen.sink := by
  obtain ⟨events, _, run⟩ := ended.batcher_eq
  show published replay.reporter.batcher.sink = _
  cases choice : chosen.sink with
  | durableLog directory =>
    simp only [choice, outlet] at run
    rw [run, Batcher.run_journal]
    rfl
  | publish host port =>
    simp only [choice, outlet] at run
    have unused : (broker surroundings options).messages = [] := by
      unfold broker
      rw [if_pos dry]
    show _ = replay.reporter.batcher.stats.rowsEmitted
    rw [run, Batcher.run_publisher]
    exact Batcher.messages_of_run _ _ events unused

/-- **The files that a replay leaves.** -/
theorem Ended.exists_files : ∃ adopted, Files surroundings options chosen filter (heldBy parts)
    adopted (diskAfter surroundings.disk replay.sink) := by
  obtain ⟨events, shown, run⟩ := ended.batcher_eq
  show ∃ adopted, Files _ _ _ _ _ adopted (diskAfter surroundings.disk replay.reporter.batcher.sink)
  rw [run]
  exact exists_files_of_run surroundings options chosen filter shown

end Ended

/-- What becomes of a replay. -/
theorem replay_eq (surroundings : Surroundings) (named : Option Path) (options : ReplayOptions) :
    replay surroundings named options =
      match opened surroundings named options with
      | .error failure => (.error failure, surroundings.disk)
      | .ok reporter =>
        match recording surroundings options.input with
        | .error failure => (.error failure, surroundings.disk)
        | .ok recording =>
          let ended := runGrowing reporter ⟨0⟩ recording
          (ended.1.map fun summary =>
            (printed (replayReport options summary ended.2.sink), replayStatus summary),
            diskAfter surroundings.disk ended.2.sink) := by
  unfold replay opened
  cases settings surroundings named with
  | error failure => rfl
  | ok found =>
    simp only [bind, Except.bind]
    cases Reporter.ofSettings (adjust options found.1) (machine surroundings options) with
    | error failure => rfl
    | ok reporter =>
      simp only
      cases recording surroundings options.input <;> rfl

/-- What a recording decides, whatever the sink of the reporter does. -/
theorem decided_of_run {σ : Type} [Sink σ] {reporter : Reporter σ} {filter : Filter}
    {mode : ValueMode} {units : Units} (fresh : Fresh reporter filter mode units) (clock : Clock)
    (recording : List UInt8) :
    (Replay.run reporter clock recording).1.map
        (fun summary => (replayStatus summary, summary.front)) =
      if ((pieces recording).map classify).all Line.isText then
        .ok (statusOf ((pieces recording).map classify),
          .ofLines filter mode units ((pieces recording).map classify))
      else .error (.file "the recording is not UTF-8") := by
  obtain ⟨readable, front⟩ := front_of_takeLines fresh clock (lines recording)
  rw [classify_lines] at readable front
  unfold Replay.run
  generalize takeLines { reporter, clock } (lines recording) = reached at readable front ⊢
  simp only [conclude, readable]
  by_cases texts : ((pieces recording).map classify).all Line.isText = true
  · rw [List.takeWhile_eq_self_iff.mpr (List.all_eq_true.mp texts)] at front
    rw [if_pos texts, if_pos texts]
    simp only [Except.map, front, replayStatus_eq (congrArg Front.skippedLines front)]
  · rw [if_neg texts, if_neg texts]
    rfl

/-! ### Outcomes -/

variable (surroundings) in
/-- **The outcome of a replay that is given its input.** The parts of the input that it read decide
the status, and what the sink has no part in. -/
structure Decided (options : ReplayOptions) (chosen : Settings) (filter : Filter)
    (given : List UInt8) (outcome : Outcome) (parts : List (List UInt8))
    (adopted : Option StreamKey) : Prop where
  /-- The input is read from its beginning on. What is read behind it was added by the sink, and if
  nothing was added until the end, the lines are those of the input. -/
  input : ∃ later, inputOn surroundings options.input outcome.disk = some later ∧
    given <+: parts.flatten ∧ parts.flatten <+: later ∧
      (later = given → heldBy parts = (pieces given).map classify)
  /-- Only a log that the run writes itself can be an input to which something is added. Any other
  input stays as it is, and its lines are those that decide. -/
  ordinary : (∀ stream ∈ adopted, ∀ place,
      inputPlace? surroundings options.input = some place →
        logPlace? chosen outcome.disk stream ≠ some place) →
    inputOn surroundings options.input outcome.disk = some given ∧
      heldBy parts = (pieces given).map classify
  files : Files surroundings options chosen filter (heldBy parts) adopted outcome.disk
  status : outcome.status =
    if (heldBy parts).all Line.isText then if (heldBy parts).any Line.isMalformed then 1 else 0
    else 13
  silent : (heldBy parts).all Line.isText = false → outcome.output = ""
  output : (heldBy parts).all Line.isText = true → ∃ summary : ReplaySummary,
    summary.front = .ofLines filter chosen.mode chosen.units (heldBy parts) ∧
    outcome.output = printed (Json.sorted (.object ([("frames", .int summary.frames),
      ("skipped_lines", .int summary.skippedLines), ("stats", summary.stats.toJson)] ++
      if options.dryRun then [("published", .int (messageCount summary chosen.sink))] else [])))

section Outcome

variable {arguments : List String} {parsed : Arguments}
  (understood : Arguments.parse arguments surroundings.settingsVariable = .ok parsed)
  (asked : parsed.task = .replay options)

include understood asked

/-- The outcome of a run that replays. -/
theorem run_replay : ∃ notices, run surroundings arguments =
    match replay surroundings parsed.settings options with
    | (.ok (output, status), disk) => ⟨status.code, output, notices, disk⟩
    | (.error failure, disk) => ⟨failure.status.code, "", notices, disk⟩ := by
  unfold run
  rw [understood]
  simp only [asked, perform]
  rcases replay surroundings parsed.settings options with ⟨failure | ⟨output, status⟩, disk⟩
  · exact ⟨_, rfl⟩
  · exact ⟨_, rfl⟩

theorem run_of_unconfigured
    (unconfigured : ∀ chosen, ¬ Configured surroundings parsed.settings options chosen) :
    (run surroundings arguments).status = 10 ∧ (run surroundings arguments).output = "" ∧
      (run surroundings arguments).disk = surroundings.disk ∧ ∀ standardInput other,
        replay { surroundings with standardInput } parsed.settings { options with input := other } =
          replay surroundings parsed.settings options := by
  obtain ⟨reason, refused⟩ := opened_of_unconfigured unconfigured
  obtain ⟨notices, outcome⟩ := run_replay understood asked
  have failed : replay surroundings parsed.settings options =
      (.error (.settings reason), surroundings.disk) := by
    rw [replay_eq, refused]
  rw [outcome, failed]
  refine ⟨rfl, rfl, rfl, fun standardInput other => ?_⟩
  have unread : opened { surroundings with standardInput } parsed.settings
      { options with input := other } = .error (.settings reason) := refused
  rw [replay_eq, unread]

theorem run_of_absent {chosen : Settings}
    (configured : Configured surroundings parsed.settings options chosen)
    (absent : inputOn surroundings options.input surroundings.disk = none) :
    (run surroundings arguments).status = 13 ∧ (run surroundings arguments).output = "" ∧
      (run surroundings arguments).disk = surroundings.disk := by
  obtain ⟨filter, _, built⟩ := opened_of_configured configured
  obtain ⟨reason, refused⟩ := recording_of_none surroundings absent
  obtain ⟨notices, outcome⟩ := run_replay understood asked
  rw [outcome, replay_eq, built, refused]
  exact ⟨rfl, rfl, rfl⟩

theorem run_of_present {chosen : Settings} {given : List UInt8}
    (configured : Configured surroundings parsed.settings options chosen)
    (present : inputOn surroundings options.input surroundings.disk = some given) :
    ∃ parts filter adopted, Reporter.filterOf chosen.filter = .ok filter ∧
      Decided surroundings options chosen filter given (run surroundings arguments) parts
        adopted := by
  obtain ⟨filter, filtered, built⟩ := opened_of_configured configured
  have readable := recording_of_some surroundings present
  obtain ⟨notices, outcome⟩ := run_replay understood asked
  obtain ⟨parts, ended⟩ := exists_ended present chosen filter options
  rw [replay_eq, built, readable] at outcome
  simp only at outcome
  generalize runGrowing (reporter surroundings options chosen filter) ⟨0⟩
    (look surroundings options.input) = reached at outcome ended
  obtain ⟨adopted, files⟩ := ended.exists_files
  have ordinary (apart : ∀ stream ∈ adopted, ∀ place,
      inputPlace? surroundings options.input = some place →
        logPlace? chosen (diskAfter surroundings.disk reached.2.sink) stream ≠ some place) :
      inputOn surroundings options.input (diskAfter surroundings.disk reached.2.sink) =
        some given ∧ heldBy parts = (pieces given).map classify := by
    have same := files.inputOn_eq present apart
    obtain ⟨later, final, _, _, still⟩ := ended.later
    exact ⟨same, still (Option.some.inj (final.symm.trans same))⟩
  refine ⟨parts, filter, adopted, filtered, ?_⟩
  rw [ended.result] at outcome
  by_cases texts : (heldBy parts).all Line.isText = true
  · rw [if_pos texts] at outcome
    rw [outcome]
    have skipped : reached.2.summary.skippedLines = (heldBy parts).countP Line.isMalformed :=
      congrArg Front.skippedLines (ended.front texts)
    refine ⟨ended.later, ordinary, files, ?_, ?_, fun _ =>
      ⟨reached.2.summary, ended.front texts, ?_⟩⟩
    · show (replayStatus reached.2.summary).code = _
      rw [if_pos texts, replayStatus_eq skipped, statusOf]
      split <;> rfl
    · rw [texts]
      exact fun none => by cases none
    · show printed (replayReport options reached.2.summary reached.2.sink) = _
      cases dry : options.dryRun with
      | false =>
        rw [replayReport, dry]
        rfl
      | true =>
        rw [replayReport, dry, ended.published_eq dry]
        rfl
  · rw [if_neg texts] at outcome
    rw [outcome]
    refine ⟨ended.later, ordinary, files, ?_, fun _ => rfl, fun all => absurd all texts⟩
    rw [if_neg texts]
    rfl

end Outcome

/-! ### Main statement -/

/-- A line that is no frame, on the standard input, and no settings. -/
def oneBadLine : Surroundings where
  disk := {}
  standardInput := [120, 10]
  hostname := "m"

/-- A line with a frame of one counter. -/
def counterFrame (milliseconds : String) : String :=
  "\x7b\"timestamp_ms\":" ++ milliseconds ++
    ",\"snapshot\":\x7b\"counters\":\x7b\"app.1.s.v\":\x7b\"count\":1\x7d\x7d\x7d\x7d\n"

/-- Two frames in a file to which the rows of their stream are appended, each one at once. -/
def ownLog : Surroundings where
  disk := (Disk.write {} ⟨"c.toml"⟩ "sync_every=1\n".toUTF8).write ⟨"o/app/h_1.json"⟩
    (counterFrame "0" ++ counterFrame "1000").toUTF8
  hostname := "m"

def ownLogArguments : List String :=
  ["--config", "c.toml", "replay", "--input", "o/app/h_1.json", "--hostname", "h",
    "--directory", "o"]

end Command

end MetricRelay

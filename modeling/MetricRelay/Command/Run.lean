/-
**A run, from its arguments to its end.**

`Command.run` is a function: what a run finds around it goes in, and the status, the output, the
notices and the disk come out. Settings can be shown and checked, their schema can be printed, and a
recording can be replayed. A replay ends with a status of its own when lines had to be skipped.
-/

import MetricRelay.Command.Notice
import MetricRelay.Json.Sorted
import MetricRelay.Report.Replay
import MetricRelay.Settings.Load
import MetricRelay.Settings.Schema

namespace MetricRelay

/-- What a run finds around it. -/
structure Surroundings where
  disk : Disk
  standardInput : List UInt8 := []
  /-- The name of the machine; empty if it has none. -/
  hostname : String
  /-- What a run that publishes in earnest connects to. It may refuse connections and messages, and
  without a word about it nobody answers. -/
  broker : Broker := { reachable := false }
  /-- The user's directory. -/
  home : Option Path := none
  /-- The directory for the user's settings, if it is not the usual one. -/
  settingsHome : Option Path := none
  /-- The directory for the user's data, if it is not the usual one. -/
  dataHome : Option Path := none
  /-- The path of the settings, as the environment names it. -/
  settingsVariable : Option String := none

/-- How a run ends. -/
structure Outcome where
  status : Nat
  output : String := ""
  notices : List String := []
  disk : Disk

namespace Command

/-- What the program is called, and which one it is. -/
def version : String := "em-core 0.1.0"

/-- The status of a run whose arguments cannot be understood. -/
def misuseStatus : Nat := 2

/-- How the program is called. -/
def usage : String :=
  "\n".intercalate [
    "Usage: em-core [--config PATH] [--log-format text|json] [-v] [-q] COMMAND",
    "",
    "Commands:",
    "  replay --input PATH [--directory PATH] [--dry-run] [--hostname NAME]",
    "  config show",
    "  config schema",
    "  config validate"]

/-- A directory of the user: the one that is given, if its path is absolute, or the usual one below
the user's directory. -/
def userDirectory (home given : Option Path) (usual : Path) : Option Path :=
  match given with
  | some path => if path.isAbsolute then some path else home.map fun home => home.join usual
  | none => home.map fun home => home.join usual

/-- The settings of a run for which nothing is set. -/
def standard (surroundings : Surroundings) : Settings :=
  .standard (Settings.directoryBelow
    (userDirectory surroundings.home surroundings.dataHome ⟨".local/share"⟩))

/-- The settings of a run, and where they came from. -/
def settings (surroundings : Surroundings) (named : Option Path) :
    Except Failure (Settings × Settings.Source) :=
  (Settings.resolve surroundings.disk (standard surroundings) named none
    (userDirectory surroundings.home surroundings.settingsHome ⟨".config"⟩)).mapError
      fun error => .settings error.message

/-- The settings with what the options of a replay override. -/
def adjust (options : ReplayOptions) (settings : Settings) : Settings :=
  { settings with
    sink := (options.directory.map SinkChoice.durableLog).getD settings.sink
    hostname := options.hostname.or settings.hostname }

/-- The broker of a run: the one around it, or a new one of its own if the run is dry. -/
def broker (surroundings : Surroundings) (options : ReplayOptions) : Broker :=
  if options.dryRun then {} else surroundings.broker

/-- The machine of a run. -/
def machine (surroundings : Surroundings) (options : ReplayOptions) : Machine where
  name := surroundings.hostname
  disk := surroundings.disk
  broker := some (broker surroundings options)

/-- The disk after a sink was used that began with another one. -/
def diskAfter (disk : Disk) : Outlet → Disk
  | .journal journal => journal.disk
  | _ => disk

/-- The bytes of a recording, with the ones that a sink added to it. The path `-` stands for the
standard input. -/
def recording (surroundings : Surroundings) (input : Path) :
    Except Failure (Outlet → List UInt8) :=
  if input.text = "-" then .ok fun _ => surroundings.standardInput
  else
    match surroundings.disk.place? input with
    | none => .error (.fileAt input.text "there is no such file")
    | some place =>
      match surroundings.disk.content? place with
      | none => .error (.fileAt input.text "this is no file")
      | some _ => .ok fun sink =>
        (((diskAfter surroundings.disk sink).content? place).getD .empty).toList

/-- The messages that a broker took; no other sink has any. -/
def published : Outlet → Nat
  | .publisher publisher => publisher.broker.messages.length
  | _ => 0

/-- What is printed after a replay: the summary and, in a dry run, the number of messages. -/
def replayReport (options : ReplayOptions) (summary : ReplaySummary) (sink : Outlet) : Json :=
  let extra := if options.dryRun then [("published", Json.int (published sink))] else []
  match summary.toJson with
  | .object members => Json.sorted (.object (members ++ extra))
  | other => other

/-- The status of a replay that came to the end of its recording. -/
def replayStatus (summary : ReplaySummary) : ExitStatus :=
  if summary.skippedLines > 0 then .partialInput else .clean

/-- A value as it is printed. -/
def printed (json : Json) : String := json.pretty ++ "\n"

/-- Replays a recording: what is printed and the status, or a failure, and the disk. -/
def replay (surroundings : Surroundings) (named : Option Path) (options : ReplayOptions) :
    Except Failure (String × ExitStatus) × Disk :=
  let start : Except Failure (Reporter Outlet × (Outlet → List UInt8)) := do
    let (settings, _) ← settings surroundings named
    let reporter ← Reporter.ofSettings (adjust options settings) (machine surroundings options)
    return (reporter, ← recording surroundings options.input)
  match start with
  | .error failure => (.error failure, surroundings.disk)
  | .ok (reporter, recording) =>
    let (result, replay) := Replay.runGrowing reporter ⟨0⟩ recording
    let sink := replay.reporter.batcher.sink
    (result.map fun summary =>
      (printed (replayReport options summary sink), replayStatus summary),
      diskAfter surroundings.disk sink)

/-- Does a task: what is printed and the status, or a failure, and the disk. -/
def perform (surroundings : Surroundings) (named : Option Path) :
    Task → Except Failure (String × ExitStatus) × Disk
  | .replay options => replay surroundings named options
  | .showSettings =>
    ((settings surroundings named).map fun found => (printed found.1.toJson, .clean),
      surroundings.disk)
  | .showSchema =>
    (.ok (printed (Settings.Schema.settings (standard surroundings)), .clean), surroundings.disk)
  | .checkSettings =>
    ((settings surroundings named).map fun _ => ("", .clean), surroundings.disk)

/-- What is said before a task is done. -/
def announcement : Task → Notice
  | .replay options => ⟨.info, "replaying " ++ options.input.text⟩
  | .showSettings | .showSchema => ⟨.debug, "printing"⟩
  | .checkSettings => ⟨.info, "checking the settings"⟩

/-- The paths that a run may read: settings and a recording. -/
def wanted (surroundings : Surroundings) (arguments : List String) : List Path :=
  match Arguments.parse arguments surroundings.settingsVariable with
  | .error _ => []
  | .ok parsed =>
    let settingsHome := userDirectory surroundings.home surroundings.settingsHome ⟨".config"⟩
    let input :=
      match parsed.task with
      | .replay options => if options.input.text = "-" then [] else [options.input]
      | _ => []
    parsed.settings.toList ++ (settingsHome.map Settings.fileBelow).toList ++ input

/-- The run reads its recording from the standard input. -/
def readsStandardInput (surroundings : Surroundings) (arguments : List String) : Bool :=
  match Arguments.parse arguments surroundings.settingsVariable with
  | .ok { task := .replay options, .. } => options.input.text == "-"
  | _ => false

/-- **A run**, from its arguments to its end. -/
def run (surroundings : Surroundings) (arguments : List String) : Outcome :=
  match Arguments.parse arguments surroundings.settingsVariable with
  | .error .help => { status := 0, output := usage ++ "\n", disk := surroundings.disk }
  | .error .version => { status := 0, output := version ++ "\n", disk := surroundings.disk }
  | .error (.misuse reason) =>
    { status := misuseStatus, notices := ["error: " ++ reason], disk := surroundings.disk }
  | .ok parsed =>
    let said (notices : List Notice) : List String :=
      Notice.shown parsed.logFormat parsed.logLevel notices
    match perform surroundings parsed.settings parsed.task with
    | (.ok (output, status), disk) =>
      { status := status.code, output, notices := said [announcement parsed.task], disk }
    | (.error failure, disk) =>
      { status := failure.status.code
        notices := said [announcement parsed.task, ⟨.error, failure.message⟩], disk }

end Command

end MetricRelay

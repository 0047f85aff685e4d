/-
**The settings of a reporter.**

`Settings` say where rows are delivered, which metrics they show and how. `Settings.check` refuses
settings that can be written down and not be used; the first fault is reported, and the sink is
looked at first, then the cadence, the host name and the filter.
-/

import MetricRelay.Disk.Path
import MetricRelay.Json.Printer
import MetricRelay.Metric.Sample
import MetricRelay.Report.Filter
import MetricRelay.Text.Blank

namespace MetricRelay

/-- Where rows are delivered. -/
inductive SinkChoice where
  /-- To files below a directory. -/
  | durableLog (directory : Path)
  /-- To a broker. -/
  | publish (host : String) (port : Nat)
  deriving DecidableEq, Repr

/-- The settings of a reporter. -/
structure Settings where
  sink : SinkChoice
  units : Units := {}
  filter : FilterPatterns := {}
  mode : ValueMode := .primary
  /-- The number of rows after which they are made durable. -/
  syncEvery : Nat := 20
  /-- The name of the host, unless it is the one of the machine. -/
  hostname : Option String := none
  deriving DecidableEq, Repr

/-- Why settings cannot be used. -/
inductive SettingsError where
  | unreadable (path : Path) (reason : String)
  | malformedToml (path : Path) (reason : String)
  | malformedJson (path : Path) (reason : String)
  | invalid (field reason : String)
  | pattern (refusal : FilterPatterns.Refusal)
  deriving DecidableEq, Repr

namespace SettingsError

/-- The message without the reason supplied by a reader of files, formats or patterns. -/
def headline : SettingsError → String
  | unreadable path _ => "I/O error reading " ++ path.text
  | malformedToml path _ => "failed to parse TOML config " ++ path.text
  | malformedJson path _ => "failed to parse JSON config " ++ path.text
  | invalid field reason => "invalid value for " ++ field ++ ": " ++ reason
  | pattern refusal => "invalid filter pattern '" ++ refusal.pattern ++ "'"

/-- The reason supplied by a reader of files, formats or patterns. -/
def reason? : SettingsError → Option String
  | unreadable _ reason | malformedToml _ reason | malformedJson _ reason => some reason
  | invalid _ _ => none
  | pattern refusal => some refusal.fault.message

/-- What is said of the error, with its reason if it has one. -/
def message (error : SettingsError) : String :=
  match error.reason? with
  | some reason => error.headline ++ ": " ++ reason
  | none => error.headline

end SettingsError

namespace SinkChoice

/-- The name of the kind of sink. -/
def name : SinkChoice → String
  | durableLog _ => "durable_log"
  | publish _ _ => "publish"

/-- The choice as it stands in a file of settings. -/
def toJson : SinkChoice → Json
  | durableLog directory =>
    .object [("kind", .text "durable_log"), ("directory", .text directory.text)]
  | publish host port =>
    .object [("kind", .text "publish"), ("host", .text host), ("port", .int port)]

/-- The port of a broker that is given without one. -/
def defaultPort : Nat := 1883

/-- Refuses a sink without a target. -/
def check : SinkChoice → Except SettingsError Unit
  | durableLog directory =>
    if directory.text = "" then .error (.invalid "sink.directory" "must not be empty") else .ok ()
  | publish host port =>
    if Text.isBlankText host then .error (.invalid "sink.host" "must not be empty")
    else if port = 0 then .error (.invalid "sink.port" "must be non-zero")
    else .ok ()

end SinkChoice

namespace FilterPatterns

/-- The patterns as they stand in a file of settings. -/
def toJson (patterns : FilterPatterns) : Json :=
  .object [("include", .array (patterns.wanted.map Json.text)),
    ("exclude", .array (patterns.unwanted.map Json.text))]

end FilterPatterns

namespace Settings

/-- The directory for rows, below the one where the user's data is kept. -/
def directoryBelow : Option Path → Path
  | some home => (home.join ⟨"execmetrics"⟩).join ⟨"metrics"⟩
  | none => ⟨"metrics"⟩

/-- The settings where nothing is set, with a directory for rows. -/
def standard (directory : Path) : Settings :=
  { sink := .durableLog directory }

/-- The settings as they stand in a file. -/
def toJson (settings : Settings) : Json :=
  let hostname :=
    match settings.hostname with
    | some hostname => [("hostname", Json.text hostname)]
    | none => []
  .object ([("sink", settings.sink.toJson), ("rate_unit", .text settings.units.rate.plural),
    ("duration_unit", .text settings.units.duration.plural), ("filter", settings.filter.toJson),
    ("value_mode", .text settings.mode.name), ("sync_every", .int settings.syncEvery)] ++ hostname)

/-- A host name that can stand in the name of a file. -/
def isUsableHostname (hostname : String) : Bool :=
  !Text.isBlankText hostname && !hostname.toList.contains '/'

/-- Refuses a host name that cannot stand in the name of a file, if one is set. -/
def checkHostname : Option String → Except SettingsError Unit
  | none => .ok ()
  | some hostname =>
    if isUsableHostname hostname then .ok ()
    else .error (.invalid "hostname" ("'" ++ hostname ++ "' is not usable in a file name"))

/-- Refuses settings that cannot be used, for the first fault they have. -/
def check (settings : Settings) : Except SettingsError Unit := do
  settings.sink.check
  if settings.syncEvery = 0 then throw (.invalid "sync_every" "must be at least 1")
  checkHostname settings.hostname
  let _ ← settings.filter.compile.mapError SettingsError.pattern

/-- The host name that marks the rows: the one that is set, or else the name of the machine. One
without a name is `localhost`. -/
def hostnameOn (settings : Settings) (machine : String) : String :=
  settings.hostname.getD (if machine = "" then "localhost" else machine)

end Settings

end MetricRelay

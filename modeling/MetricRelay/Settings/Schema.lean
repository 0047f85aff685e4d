/-
**The schema of settings.**

A description of the JSON form of settings that other programs can check a file against. Members
are listed in the order of their keys.
-/

import MetricRelay.Json.Sorted
import MetricRelay.Settings.Basic

namespace MetricRelay.Settings.Schema

/-- The name of the dialect that the schema is written in. -/
def dialect : String :=
  "/".intercalate ["https:", "", "json-schema.org", "draft", "2020-12", "schema"]

/-- The schema of a text. -/
def text : Json := .object [("type", .text "string")]

/-- A list of texts as JSON. -/
def texts (items : List String) : Json := .array (items.map Json.text)

/-- The schema of a list of texts, which is empty when it is not given. -/
def textList : Json :=
  .object [("type", .text "array"), ("items", text), ("default", .array [])]

/-- What is said of a text that is always the same. -/
def fixed (value : String) : List (String × Json) :=
  [("type", .text "string"), ("const", .text value)]

/-- A description. -/
def described (text : String) : String × Json := ("description", .text text)

/-- What is said of an object: the schemas of its properties. -/
def record (properties : List (String × Json)) : List (String × Json) :=
  [("type", .text "object"), ("properties", .object properties)]

/-- What is said of a natural number of some width that has a default. -/
def natural (format : String) (default : Nat) : List (String × Json) :=
  [("type", .text "integer"), ("format", .text format), ("minimum", .int 0),
    ("default", .int default)]

/-- The schema of patterns. -/
def filter : Json :=
  .object (described ("Sampling filter applied before name routing.\n\nA metric passes when it " ++
    "matches at least one `include` pattern (or the\nlist is empty) and no `exclude` pattern.") ::
    record [("include", textList), ("exclude", textList)])

/-- The schema of a port. -/
def port : Json :=
  .object (("maximum", .int 65535) :: natural "uint16" SinkChoice.defaultPort)

/-- The schema of a choice of a sink. -/
def sink : Json :=
  .object [described "Where closed batches are delivered.",
    ("oneOf", .array [
      .object (described "Append-only newline-delimited JSON files under `directory`." ::
        ("required", texts ["kind", "directory"]) ::
        record [("kind", .object (fixed "durable_log")), ("directory", text)]),
      .object (described "One message per batch on topic `metrics-<application>`." ::
        ("required", texts ["kind", "host"]) ::
        record [("kind", .object (fixed "publish")), ("host", text), ("port", port)])])]

/-- The schema of a unit of time. -/
def unit : Json :=
  .object [
    described "Unit of time used when reporting rates (`events/<unit>`) and durations.",
    ("type", .text "string"), ("enum", texts (TimeUnit.all.map TimeUnit.plural))]

/-- The schema of a mode. -/
def mode : Json :=
  .object [described "Which value of a metric is written into the record.",
    ("oneOf", .array [
      .object (described "The first field of each kind: gauge value, otherwise the count." ::
        fixed ValueMode.primary.name),
      .object (described "The full statistics bundle for histograms, meters and timers." ::
        fixed ValueMode.statistics.name)])]

/-- A value whose schema has a name, with a default. -/
def named (name : String) (default : Json) : List (String × Json) :=
  [("$ref", .text ("#/$defs/" ++ name)), ("default", default)]

/-- The schema of settings, with the values that hold when nothing is said. -/
def settings (standard : Settings) : Json :=
  Json.sorted (.object (("$schema", .text dialect) :: ("title", .text "ReporterConfig") ::
    described "Complete reporter configuration." ::
    ("$defs", .object [("FilterConfig", filter), ("SinkConfig", sink), ("TimeUnit", unit),
      ("ValueMode", mode)]) ::
    record [
      ("sink", .object (named "SinkConfig" standard.sink.toJson)),
      ("rate_unit", .object (described "Unit rates are converted to." ::
        named "TimeUnit" (.text standard.units.rate.plural))),
      ("duration_unit", .object (described "Unit timer durations are converted to." ::
        named "TimeUnit" (.text standard.units.duration.plural))),
      ("filter", .object (named "FilterConfig" standard.filter.toJson)),
      ("value_mode", .object (named "ValueMode" (.text standard.mode.name))),
      ("sync_every", .object (described "Force a durable sync after every N emitted records." ::
        natural "uint64" standard.syncEvery)),
      ("hostname", .object [
        described "Hostname used in host tags and file names. Detected when unset.",
        ("type", texts ["string", "null"])])]))

end MetricRelay.Settings.Schema

/-
**What became of the samples and rows of a run.**

Counters, with their JSON form. The counters of a report stand beside those of its batches in one
flat record.
-/

import MetricRelay.Json.Reader

namespace MetricRelay

/-- What became of the samples that were offered, and of the rows made from them. -/
structure BatchStats where
  merged : Nat := 0
  rowsEmitted : Nat := 0
  syncs : Nat := 0
  droppedConflicts : Nat := 0
  droppedEmptyPath : Nat := 0
  droppedForeign : Nat := 0
  droppedSinkUnavailable : Nat := 0
  sinkOpenFailures : Nat := 0
  sampleFailures : Nat := 0
  syncFailures : Nat := 0
  deriving DecidableEq, Repr

/-- What became of the samples of all cycles. -/
structure ReportStats where
  cycles : Nat := 0
  samplesSeen : Nat := 0
  samplesFiltered : Nat := 0
  droppedUnroutable : Nat := 0
  batch : BatchStats := {}
  deriving DecidableEq, Repr

namespace BatchStats

/-- The names of the counters in the JSON form, in the order of the fields. -/
def names : List String :=
  ["merged", "rows_emitted", "syncs", "dropped_conflicts", "dropped_empty_path",
    "dropped_foreign", "dropped_sink_unavailable", "sink_open_failures", "sample_failures",
    "sync_failures"]

/-- The counters in the order of their names. -/
def counters (stats : BatchStats) : List Nat :=
  [stats.merged, stats.rowsEmitted, stats.syncs, stats.droppedConflicts, stats.droppedEmptyPath,
    stats.droppedForeign, stats.droppedSinkUnavailable, stats.sinkOpenFailures,
    stats.sampleFailures, stats.syncFailures]

/-- The counters as members of a JSON object. -/
def members (stats : BatchStats) : List (String × Json) :=
  names.zip (stats.counters.map fun (count : Nat) => Json.int (count : Int))

/-- Reads the counters from the fields of a flat record. -/
def ofFields? (fields : List (String × Json)) : Option BatchStats := do
  return {
    merged := ← Fields.required Json.natural64? fields "merged"
    rowsEmitted := ← Fields.required Json.natural64? fields "rows_emitted"
    syncs := ← Fields.required Json.natural64? fields "syncs"
    droppedConflicts := ← Fields.required Json.natural64? fields "dropped_conflicts"
    droppedEmptyPath := ← Fields.required Json.natural64? fields "dropped_empty_path"
    droppedForeign := ← Fields.required Json.natural64? fields "dropped_foreign"
    droppedSinkUnavailable := ← Fields.required Json.natural64? fields "dropped_sink_unavailable"
    sinkOpenFailures := ← Fields.required Json.natural64? fields "sink_open_failures"
    sampleFailures := ← Fields.required Json.natural64? fields "sample_failures"
    syncFailures := ← Fields.required Json.natural64? fields "sync_failures" }

end BatchStats

namespace ReportStats

/-- The names of all counters in the JSON form: those of the cycles, and those of the batches. -/
def names : List String :=
  ["cycles", "samples_seen", "samples_filtered", "dropped_unroutable"] ++ BatchStats.names

/-- All counters as members of a JSON object. -/
def members (stats : ReportStats) : List (String × Json) :=
  [("cycles", .int stats.cycles), ("samples_seen", .int stats.samplesSeen),
    ("samples_filtered", .int stats.samplesFiltered),
    ("dropped_unroutable", .int stats.droppedUnroutable)] ++ stats.batch.members

/-- The JSON form: one flat object. -/
def toJson (stats : ReportStats) : Json := .object stats.members

/-- Reads the counters inside `depth` containers. -/
def ofJson? (depth : Nat) (json : Json) : Option ReportStats := do
  let fields ← json.flatFields? depth names
  return {
    cycles := ← Fields.required Json.natural64? fields "cycles"
    samplesSeen := ← Fields.required Json.natural64? fields "samples_seen"
    samplesFiltered := ← Fields.required Json.natural64? fields "samples_filtered"
    droppedUnroutable := ← Fields.required Json.natural64? fields "dropped_unroutable"
    batch := ← BatchStats.ofFields? fields }

end ReportStats

end MetricRelay

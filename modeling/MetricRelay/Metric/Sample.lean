/-
**What a report shows of each metric.**

In primary mode a metric is shown by one value: a gauge by its reading, every other kind by its
count. In statistics mode a histogram, a meter or a timer is shown by a bundle of named values,
with rates and durations in the units of the report.

`Snapshot.samples` lists the metrics of a snapshot in report order: gauges, counters, histograms,
meters, timers, each by name.
-/

import MetricRelay.Metric.Snapshot
import MetricRelay.Metric.Unit

namespace MetricRelay

/-- How much a report shows. -/
inductive ValueMode where
  | primary
  | statistics
  deriving DecidableEq, Repr

namespace ValueMode

/-- The name of a mode, as settings spell it. -/
def name : ValueMode → String
  | primary => "primary"
  | statistics => "statistics"

/-- The mode with a name. -/
def ofName? (name : String) : Option ValueMode :=
  [primary, statistics].find? fun mode => mode.name == name

end ValueMode

/-- Named values in the order in which they are shown. -/
abbrev Bundle := List (String × Scalar)

/-- What a row shows of a metric. -/
inductive Measure where
  | scalar (value : Scalar)
  | bundle (fields : Bundle)
  deriving Inhabited

namespace Measure

/-- The JSON form: a value, or one object for a whole bundle. -/
def toJson : Measure → Json
  | scalar value => value.toJson
  | bundle fields => .object (fields.map fun field => (field.1, field.2.toJson))

/-- A count alone. -/
def count (n : Int64) : Measure := scalar (.integer n)

end Measure

namespace Distribution

/-- The percentiles, each after `convert`. -/
def percentiles (d : Distribution) (convert : Float → Float) : Bundle :=
  [("p50", .float (convert d.p50)), ("p75", .float (convert d.p75)),
    ("p95", .float (convert d.p95)), ("p98", .float (convert d.p98)),
    ("p99", .float (convert d.p99)), ("p999", .float (convert d.p999))]

end Distribution

namespace Rates

/-- The rates in the unit that is asked for. -/
def bundle (rates : Rates) (units : Units) : Bundle :=
  [("mean_rate", .float (units.rate.rate rates.mean)),
    ("m1_rate", .float (units.rate.rate rates.one)),
    ("m5_rate", .float (units.rate.rate rates.five)),
    ("m15_rate", .float (units.rate.rate rates.fifteen))]

end Rates

/-- All that is shown of a histogram. -/
def Histogram.bundle (histogram : Histogram) : Bundle :=
  let d := histogram.distribution
  [("count", .integer histogram.count), ("max", .integer d.max), ("mean", .float d.mean),
    ("min", .integer d.min), ("stddev", .float d.stddev)] ++ d.percentiles id

/-- All that is shown of a meter. The unit of its rates is spelled out. -/
def Meter.bundle (meter : Meter) (units : Units) : Bundle :=
  ("count", .integer meter.count) :: meter.rates.bundle units ++
    [("rate_unit", .text ("events/" ++ units.rate.singular))]

/-- All that is shown of a timer. Both units are spelled out. -/
def Timer.bundle (timer : Timer) (units : Units) : Bundle :=
  let d := timer.distribution
  let convert := units.duration.duration
  [("count", .integer timer.count), ("max", .float (convert d.max.toFloat)),
    ("mean", .float (convert d.mean)), ("min", .float (convert d.min.toFloat)),
    ("stddev", .float (convert d.stddev))] ++ d.percentiles convert ++
    timer.rates.bundle units ++
    [("rate_unit", .text ("calls/" ++ units.rate.singular)),
      ("duration_unit", .text units.duration.plural)]

/-- A metric of a snapshot and what is shown of it. -/
structure Sample where
  name : String
  kind : MetricKind
  value : Measure

namespace Snapshot

/-- The samples of one table, in the order of the names. -/
def tableSamples {α : Type} (kind : MetricKind) (display : α → Measure) (table : Table α) :
    List Sample :=
  table.entries.map fun entry => ⟨entry.1, kind, display entry.2⟩

/-- The samples of a snapshot: gauges, counters, histograms, meters, timers. The mode decides
between a count and all statistics for the last three. -/
def samples (snapshot : Snapshot) (mode : ValueMode) (units : Units) : List Sample :=
  let either (count : Int64) (fields : Bundle) : Measure :=
    match mode with
    | .primary => .count count
    | .statistics => .bundle fields
  tableSamples .gauge .scalar snapshot.gauges ++
    tableSamples .counter (fun counter => .count counter.count) snapshot.counters ++
    tableSamples .histogram (fun histogram => either histogram.count histogram.bundle)
      snapshot.histograms ++
    tableSamples .meter (fun meter => either meter.count (meter.bundle units)) snapshot.meters ++
    tableSamples .timer (fun timer => either timer.count (timer.bundle units)) snapshot.timers

end Snapshot

end MetricRelay

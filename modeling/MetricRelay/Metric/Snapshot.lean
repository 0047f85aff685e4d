/-
**What a registry of metrics holds at one moment.**

A `Snapshot` has five tables, one for each kind. Durations are in nanoseconds and rates per second;
the statistics were computed by the registry. The type `Scalar` is the reading of a gauge, and also
what a row shows of any metric.

Every type here has a JSON form: `toJson` writes it and `ofJson?` reads it, where the fields of a
distribution and of rates stand beside the count of their metric. A reader of such a flat record is
told how many containers are around it.
-/

import MetricRelay.Json.Reader
import MetricRelay.Metric.Kind

namespace MetricRelay

/-- A single value. -/
inductive Scalar where
  | integer (value : Int64)
  | float (value : Float)
  | bool (value : Bool)
  | text (value : String)
  deriving Inhabited

/-- A count of events. -/
structure Counter where
  count : Int64

/-- How values are distributed. -/
structure Distribution where
  min : Int64
  max : Int64
  mean : Float
  stddev : Float
  p50 : Float
  p75 : Float
  p95 : Float
  p98 : Float
  p99 : Float
  p999 : Float

/-- How often events happen, per second: over all time, and over the last one, five and fifteen
minutes. -/
structure Rates where
  mean : Float
  one : Float
  five : Float
  fifteen : Float

/-- A distribution of values. -/
structure Histogram where
  count : Int64
  distribution : Distribution

/-- The rates of an event. -/
structure Meter where
  count : Int64
  rates : Rates

/-- The durations of an event, and its rates. -/
structure Timer where
  count : Int64
  distribution : Distribution
  rates : Rates

/-- The metrics of a registry at one moment. -/
structure Snapshot where
  gauges : Table Scalar := {}
  counters : Table Counter := {}
  histograms : Table Histogram := {}
  meters : Table Meter := {}
  timers : Table Timer := {}
  deriving Inhabited

namespace Scalar

/-- The JSON form: the value itself. -/
def toJson : Scalar → Json
  | integer value => .int value.toInt
  | float value => .float value
  | bool value => .bool value
  | text value => .text value

/-- Reads a value: a whole number that 64 bits hold with a sign stays whole. -/
def ofJson? (json : Json) : Option Scalar :=
  match json with
  | .int n =>
    if Json.fitsInt64 n then some (integer (Int64.ofInt n)) else some (float (Float.ofInt n))
  | .float x => some (float x)
  | .bool b => some (bool b)
  | .text s => some (text s)
  | _ => none

end Scalar

namespace Counter

/-- The names of the fields. -/
def names : List String := ["count"]

/-- The JSON form. -/
def toJson (counter : Counter) : Json :=
  .object [("count", .int counter.count.toInt)]

/-- Reads a counter. -/
def ofJson? (json : Json) : Option Counter := do
  let fields ← json.fields? names
  return ⟨← Fields.required Json.int64? fields "count"⟩

end Counter

namespace Distribution

/-- The names of the fields. -/
def names : List String :=
  ["min", "max", "mean", "stddev", "p50", "p75", "p95", "p98", "p99", "p999"]

/-- The fields as members of a flat record. -/
def members (d : Distribution) : List (String × Json) :=
  [("min", .int d.min.toInt), ("max", .int d.max.toInt), ("mean", .float d.mean),
    ("stddev", .float d.stddev), ("p50", .float d.p50), ("p75", .float d.p75),
    ("p95", .float d.p95), ("p98", .float d.p98), ("p99", .float d.p99), ("p999", .float d.p999)]

/-- Reads a distribution from the fields of a flat record. -/
def ofFields? (fields : List (String × Json)) : Option Distribution := do
  return {
    min := ← Fields.required Json.int64? fields "min"
    max := ← Fields.required Json.int64? fields "max"
    mean := ← Fields.required Json.float? fields "mean"
    stddev := ← Fields.required Json.float? fields "stddev"
    p50 := ← Fields.required Json.float? fields "p50"
    p75 := ← Fields.required Json.float? fields "p75"
    p95 := ← Fields.required Json.float? fields "p95"
    p98 := ← Fields.required Json.float? fields "p98"
    p99 := ← Fields.required Json.float? fields "p99"
    p999 := ← Fields.required Json.float? fields "p999" }

end Distribution

namespace Rates

/-- The names of the fields. -/
def names : List String := ["mean_rate", "m1_rate", "m5_rate", "m15_rate"]

/-- The fields as members of a flat record. -/
def members (rates : Rates) : List (String × Json) :=
  [("mean_rate", .float rates.mean), ("m1_rate", .float rates.one),
    ("m5_rate", .float rates.five), ("m15_rate", .float rates.fifteen)]

/-- Reads rates from the fields of a flat record. -/
def ofFields? (fields : List (String × Json)) : Option Rates := do
  return {
    mean := ← Fields.required Json.float? fields "mean_rate"
    one := ← Fields.required Json.float? fields "m1_rate"
    five := ← Fields.required Json.float? fields "m5_rate"
    fifteen := ← Fields.required Json.float? fields "m15_rate" }

end Rates

namespace Histogram

/-- The names of the fields: the count, and those of the distribution. -/
def names : List String := "count" :: Distribution.names

/-- The JSON form: one flat object. -/
def toJson (histogram : Histogram) : Json :=
  .object (("count", .int histogram.count.toInt) :: histogram.distribution.members)

/-- Reads a histogram inside `depth` containers. -/
def ofJson? (depth : Nat) (json : Json) : Option Histogram := do
  let fields ← json.flatFields? depth names
  return ⟨← Fields.required Json.int64? fields "count", ← Distribution.ofFields? fields⟩

end Histogram

namespace Meter

/-- The names of the fields: the count, and those of the rates. -/
def names : List String := "count" :: Rates.names

/-- The JSON form: one flat object. -/
def toJson (meter : Meter) : Json :=
  .object (("count", .int meter.count.toInt) :: meter.rates.members)

/-- Reads a meter inside `depth` containers. -/
def ofJson? (depth : Nat) (json : Json) : Option Meter := do
  let fields ← json.flatFields? depth names
  return ⟨← Fields.required Json.int64? fields "count", ← Rates.ofFields? fields⟩

end Meter

namespace Timer

/-- The names of the fields: the count, those of the distribution and those of the rates. -/
def names : List String := "count" :: (Distribution.names ++ Rates.names)

/-- The JSON form: one flat object. -/
def toJson (timer : Timer) : Json :=
  .object (("count", .int timer.count.toInt) ::
    (timer.distribution.members ++ timer.rates.members))

/-- Reads a timer inside `depth` containers. -/
def ofJson? (depth : Nat) (json : Json) : Option Timer := do
  let fields ← json.flatFields? depth names
  return ⟨← Fields.required Json.int64? fields "count", ← Distribution.ofFields? fields,
    ← Rates.ofFields? fields⟩

end Timer

namespace Snapshot

/-- How many metrics there are. -/
def size (snapshot : Snapshot) : Nat :=
  snapshot.gauges.size + snapshot.counters.size + snapshot.histograms.size +
    snapshot.meters.size + snapshot.timers.size

/-- The names of the tables. -/
def names : List String := ["gauges", "counters", "histograms", "meters", "timers"]

/-- The JSON form of a table: an object with a member for each entry. -/
def tableJson {α : Type} (toJson : α → Json) (table : Table α) : Json :=
  .object (table.entries.map fun entry => (entry.1, toJson entry.2))

/-- The JSON form: an object with all five tables, also those that are empty. -/
def toJson (snapshot : Snapshot) : Json :=
  .object [("gauges", tableJson Scalar.toJson snapshot.gauges),
    ("counters", tableJson Counter.toJson snapshot.counters),
    ("histograms", tableJson Histogram.toJson snapshot.histograms),
    ("meters", tableJson Meter.toJson snapshot.meters),
    ("timers", tableJson Timer.toJson snapshot.timers)]

/-- Reads a snapshot inside `depth` containers. A table that is missing is empty. -/
def ofJson? (depth : Nat) (json : Json) : Option Snapshot := do
  let fields ← json.fields? names
  return {
    gauges := ← Fields.optional (Json.table? Scalar.ofJson?) fields "gauges" {}
    counters := ← Fields.optional (Json.table? Counter.ofJson?) fields "counters" {}
    histograms :=
      ← Fields.optional (Json.table? (Histogram.ofJson? (depth + 2))) fields "histograms" {}
    meters := ← Fields.optional (Json.table? (Meter.ofJson? (depth + 2))) fields "meters" {}
    timers := ← Fields.optional (Json.table? (Timer.ofJson? (depth + 2))) fields "timers" {} }

end Snapshot

end MetricRelay

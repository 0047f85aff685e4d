/-
**A row, and the line that is delivered for it.**

A row holds the values of one second, with the tag of the host that reports them. Its line is the
compact JSON text of an object with the members `timestamp`, `values` and `host`.
-/

import MetricRelay.Json.Printer
import MetricRelay.Metric.Sample
import MetricRelay.Row.Record
import MetricRelay.Stream.Identity

namespace MetricRelay

/-- The values of one second. -/
structure Row where
  timestamp : Int
  values : Record Measure
  host : HostTag

namespace Row

/-- The JSON form of a row. -/
def toJson (row : Row) : Json :=
  .object [("timestamp", .int row.timestamp), ("values", row.values.toJson Measure.toJson),
    ("host", .text row.host.text)]

/-- The line of a row, without its end. -/
def line (row : Row) : String :=
  row.toJson.compact

end Row

end MetricRelay

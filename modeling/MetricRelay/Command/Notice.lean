/-
**What a run says while it works.**

A notice has a level, and it is written when its level is asked for.

* `Notice.shown`: the notices up to a level, each on a line.
-/

import MetricRelay.Command.Arguments
import MetricRelay.Json.Printer

namespace MetricRelay

/-- Something a run has to say. -/
structure Notice where
  level : LogLevel
  text : String
  deriving DecidableEq, Repr

namespace Notice

/-- The line of a notice in a format. -/
def line (format : LogFormat) (notice : Notice) : String :=
  match format with
  | .text => notice.level.name ++ ": " ++ notice.text
  | .json =>
    (Json.object [("level", .text notice.level.name), ("message", .text notice.text)]).compact

/-- The lines of the notices that a level lets through. -/
def shown (format : LogFormat) (level : LogLevel) (notices : List Notice) : List String :=
  (notices.filter fun notice => notice.level.rank ≤ level.rank).map (line format)

end Notice

end MetricRelay

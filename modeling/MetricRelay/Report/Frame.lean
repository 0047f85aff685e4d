/-
**Recorded snapshots.**

A recording is a text with one `Frame` on each line: a snapshot and the moment it was taken.

* `Frame.ofLine`: reads a line, which may also be blank;
* `Recording.split`: the lines of a recording that have an end, and the bytes behind them;
* `Recording.lines`: all lines of a recording, which ends with or without a line end.
-/

import MetricRelay.Failure
import MetricRelay.Json.Parser
import MetricRelay.Metric.Snapshot
import MetricRelay.Text.Blank

namespace MetricRelay

/-- A snapshot and the moment it was taken, in milliseconds. -/
structure Frame where
  timestamp : Int64
  snapshot : Snapshot := {}
  deriving Inhabited

namespace Frame

/-- The names of the fields. -/
def names : List String := ["timestamp_ms", "snapshot"]

/-- The JSON form. -/
def toJson (frame : Frame) : Json :=
  .object [("timestamp_ms", .int frame.timestamp.toInt), ("snapshot", frame.snapshot.toJson)]

/-- Reads a frame. Its snapshot may be missing, and then it is empty. -/
def ofJson? (json : Json) : Option Frame := do
  let fields ← json.fields? names
  return {
    timestamp := ← Fields.required Json.int64? fields "timestamp_ms"
    snapshot := ← Fields.optional (Snapshot.ofJson? 1) fields "snapshot" {} }

/-- Reads the line with a number; a blank line holds no frame. -/
def ofLine (line : String) (number : Nat) : Except Failure (Option Frame) :=
  match Text.trim line.toList with
  | [] => .ok none
  | text =>
    match (Json.parseChars? text).bind ofJson? with
    | some frame => .ok (some frame)
    | none => .error (.malformedFrame number "not a frame")

end Frame

namespace Recording

/-- The line whose bytes were collected in reverse, without the carriage return at its end. -/
def ended : List UInt8 → List UInt8
  | 13 :: line => line.reverse
  | line => line.reverse

/-- The lines that have an end and the bytes behind them, of a text whose first line begins with the
bytes collected in reverse. -/
def splitFrom (line : List UInt8) : List UInt8 → List (List UInt8) × List UInt8
  | [] => ([], line.reverse)
  | byte :: rest =>
    if byte = 10 then
      let (lines, behind) := splitFrom [] rest
      (ended line :: lines, behind)
    else splitFrom (byte :: line) rest

/-- The lines that end with a line feed, and the bytes behind the last one. A carriage return right
before the line feed belongs to the line end. -/
def split (recording : List UInt8) : List (List UInt8) × List UInt8 :=
  splitFrom [] recording

/-- The lines of a recording; the last one may lack its end. -/
def lines (recording : List UInt8) : List (List UInt8) :=
  let (lines, behind) := split recording
  if behind.isEmpty then lines else lines ++ [behind]

/-- The text of a line, if its bytes are one. -/
def text? (line : List UInt8) : Option String :=
  String.fromUTF8? ⟨line.toArray⟩

end Recording

end MetricRelay

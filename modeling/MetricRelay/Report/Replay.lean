/-
**Reporting a recording.**

`Replay.run` goes through the lines of a recording. Each frame sets the clock and is reported; blank
lines count for nothing and lines that are no frame are skipped and counted. At the end the reporter
is stopped, and so it is at a line that is no text, where the recording counts as unreadable.

`Replay.runGrowing` goes through a recording to which the reporter may add while it is read.
-/

import MetricRelay.Report.Frame
import MetricRelay.Report.Reporter

namespace MetricRelay

/-- What a replay went through. -/
structure ReplaySummary where
  frames : Nat := 0
  skippedLines : Nat := 0
  stats : ReportStats := {}
  deriving DecidableEq, Repr

namespace ReplaySummary

/-- The names of the fields. -/
def names : List String := ["frames", "skipped_lines", "stats"]

/-- The JSON form. -/
def toJson (summary : ReplaySummary) : Json :=
  .object [("frames", .int summary.frames), ("skipped_lines", .int summary.skippedLines),
    ("stats", summary.stats.toJson)]

/-- Reads a summary. -/
def ofJson? (json : Json) : Option ReplaySummary := do
  let fields ← json.fields? names
  return {
    frames := ← Fields.required Json.natural64? fields "frames"
    skippedLines := ← Fields.required Json.natural64? fields "skipped_lines"
    stats := ← Fields.required (ReportStats.ofJson? 1) fields "stats" }

end ReplaySummary

/-- A replay on its way: the reporter, its clock and what was counted. -/
structure Replay (σ : Type) where
  reporter : Reporter σ
  clock : Clock
  line : Nat := 0
  frames : Nat := 0
  skippedLines : Nat := 0

namespace Replay

variable {σ : Type} [Sink σ]

/-- Takes one line: reports its frame, counts it as skipped, or passes over a blank one. -/
def takeLine (replay : Replay σ) (text : String) : Replay σ :=
  let replay := { replay with line := replay.line + 1 }
  match Frame.ofLine text replay.line with
  | .ok none => replay
  | .ok (some frame) =>
    { replay with
      clock := ⟨frame.timestamp⟩
      reporter := replay.reporter.report ⟨frame.timestamp⟩ frame.snapshot
      frames := replay.frames + 1 }
  | .error _ => { replay with skippedLines := replay.skippedLines + 1 }

/-- Takes lines, up to the first one that is no text. The answer says whether there was none. -/
def takeLines (replay : Replay σ) : List (List UInt8) → Bool × Replay σ
  | [] => (true, replay)
  | line :: rest =>
    match Recording.text? line with
    | some text => takeLines (replay.takeLine text) rest
    | none => (false, replay)

/-- The replay after the reporter was stopped. -/
def finish (replay : Replay σ) : Replay σ :=
  { replay with reporter := replay.reporter.stop }

/-- What the replay went through so far. -/
def summary (replay : Replay σ) : ReplaySummary where
  frames := replay.frames
  skippedLines := replay.skippedLines
  stats := replay.reporter.stats

/-- Stops the reporter, and says how the recording was read. -/
def conclude (readable : Bool) (replay : Replay σ) : Except Failure ReplaySummary × Replay σ :=
  let replay := replay.finish
  (if readable then .ok replay.summary else .error (.file "the recording is not UTF-8"), replay)

/-- Reports a recording, with a clock that the frames set. -/
def run (reporter : Reporter σ) (clock : Clock) (recording : List UInt8) :
    Except Failure ReplaySummary × Replay σ :=
  let (readable, replay) := takeLines { reporter, clock } (Recording.lines recording)
  conclude readable replay

/-- Takes the lines behind a position of a recording, which can be looked up in the sink. A line
without an end is taken where nothing was added behind it. Each round ends with a new look. -/
def takeGrowing (recording : σ → List UInt8) : Nat → Nat → Replay σ → Bool × Replay σ
  | 0, _, replay => (true, replay)
  | rounds + 1, position, replay =>
    let bytes := (recording replay.reporter.batcher.sink).drop position
    let (lines, behind) := Recording.split bytes
    if bytes.isEmpty then (true, replay)
    else if lines.isEmpty then
      match takeLines replay [behind] with
      | (true, replay) => takeGrowing recording rounds (position + bytes.length) replay
      | stuck => stuck
    else
      match takeLines replay lines with
      | (true, replay) =>
        takeGrowing recording rounds (position + (bytes.length - behind.length)) replay
      | stuck => stuck

/-- The most rounds through a recording that its own replay adds to: the lines that are there, the
last one if it has no end, what was added, and the look that finds nothing more. The lines that are
added are rows, and no row is a frame, so a replay adds nothing because of them, and more rounds
would change nothing (`Replay.rounds_suffice`, `Command.more_rounds_change_nothing`). -/
def rounds : Nat := 4

/-- Reports a recording that can be looked up in the sink, which may add to it meanwhile. -/
def runGrowing (reporter : Reporter σ) (clock : Clock) (recording : σ → List UInt8) :
    Except Failure ReplaySummary × Replay σ :=
  let (readable, replay) := takeGrowing recording rounds 0 { reporter, clock }
  conclude readable replay

end Replay

end MetricRelay

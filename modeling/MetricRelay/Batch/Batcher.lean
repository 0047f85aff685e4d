/-
**One row for each second.**

A `Batcher` collects samples in an open batch, the record of one second. A sample of another second
closes the batch: its row is emitted and a new batch begins. The first sample adopts the stream of
the batcher and opens the sink for it; samples of other streams are dropped.

* `Batcher.offer`: takes a sample and says what became of it;
* `Batcher.beginCycle`: allows one more attempt to open the sink;
* `Batcher.stop`: emits the open batch and closes the sink. Nothing happens after it.

After every `syncEvery` rows the sink is asked to make them durable. A row that the sink refuses is
lost, and so is only that row.
-/

import MetricRelay.Batch.Stats
import MetricRelay.Row.Line
import MetricRelay.Sink.Basic
import MetricRelay.Stream.Route

namespace MetricRelay

/-- Why a sample was dropped. -/
inductive DropReason where
  | sinkUnavailable
  | foreignStream
  | conflict
  | emptyPath
  | stopped
  deriving DecidableEq, Repr

namespace DropReason

/-- The name of a reason. -/
def name : DropReason → String
  | sinkUnavailable => "sink_unavailable"
  | foreignStream => "foreign_stream"
  | conflict => "conflict"
  | emptyPath => "empty_path"
  | stopped => "stopped"

/-- The reason with this name. -/
def ofName? (name : String) : Option DropReason :=
  [sinkUnavailable, foreignStream, conflict, emptyPath, stopped].find? fun reason =>
    reason.name == name

end DropReason

/-- What became of a sample that was offered. -/
inductive Offer where
  /-- It is in the open batch. -/
  | merged
  /-- It closed the batch before, whose row was emitted or not, and began another one. -/
  | rolled (emitted : Bool)
  | dropped (reason : DropReason)
  deriving DecidableEq, Repr

/-- What a batcher is doing. -/
inductive Phase where
  /-- No sample was taken yet. -/
  | idle
  /-- The batch of a second is open. -/
  | collecting (timestamp : Int)
  | stopped
  deriving DecidableEq, Repr

/-- Collects samples into rows and delivers them to a sink. -/
structure Batcher (σ : Type) where
  hostname : String
  syncEvery : Nat
  sink : σ
  stream : Option StreamKey := none
  phase : Phase := .idle
  record : Record Measure := .nil
  /-- The sink refused to open in this cycle. -/
  openFailed : Bool := false
  stats : BatchStats := {}

namespace Batcher

variable {σ : Type}

/-- A batcher before its first sample. A cadence of zero rows counts as one. -/
def new (sink : σ) (hostname : String) (syncEvery : Nat) : Batcher σ :=
  { hostname, syncEvery := max syncEvery 1, sink }

/-- The second of the open batch. -/
def openTimestamp (batcher : Batcher σ) : Option Int :=
  match batcher.phase with
  | .collecting timestamp => some timestamp
  | _ => none

/-- The batcher has been stopped. -/
def isStopped (batcher : Batcher σ) : Bool :=
  batcher.phase == .stopped

/-- A new cycle: a sink that refused to open may be asked again. -/
def beginCycle (batcher : Batcher σ) : Batcher σ :=
  { batcher with openFailed := false }

/-- Counts with a function on the counters. -/
def count (batcher : Batcher σ) (f : BatchStats → BatchStats) : Batcher σ :=
  { batcher with stats := f batcher.stats }

variable [Sink σ]

/-- Opens the sink for a stream, at most once in a cycle. -/
def openSink (batcher : Batcher σ) (route : Route) : Bool × Batcher σ :=
  if batcher.openFailed then (false, batcher)
  else
    let stream := StreamKey.of route.application route.executor batcher.hostname
    match Sink.openStream stream batcher.sink with
    | (.ok (), sink) => (true, { batcher with sink, stream := some stream })
    | (.error _, sink) =>
      (false, { batcher with
        sink
        openFailed := true
        stats := { batcher.stats with sinkOpenFailures := batcher.stats.sinkOpenFailures + 1 } })

/-- Hands the row of the open batch to the sink. -/
def emitRow (batcher : Batcher σ) (timestamp : Int) : Bool × Batcher σ :=
  match batcher.stream with
  | none => (false, batcher)
  | some stream =>
    match Sink.emit (Row.line ⟨timestamp, batcher.record, stream.host⟩) batcher.sink with
    | (.ok (), sink) => (true, { batcher with sink })
    | (.error _, sink) => (false, { batcher with sink })

/-- Asks the sink to make the rows durable. -/
def syncSink (batcher : Batcher σ) : Batcher σ :=
  match Sink.sync batcher.sink with
  | (.ok (), sink) =>
    { batcher with sink, stats := { batcher.stats with syncs := batcher.stats.syncs + 1 } }
  | (.error _, sink) =>
    { batcher with
      sink
      stats := { batcher.stats with syncFailures := batcher.stats.syncFailures + 1 } }

/-- Counts a row that was handed to the sink. -/
def countRow (batcher : Batcher σ) (emitted : Bool) : Batcher σ :=
  batcher.count fun stats =>
    if emitted then { stats with rowsEmitted := stats.rowsEmitted + 1 }
    else { stats with sampleFailures := stats.sampleFailures + 1 }

/-- Closes the open batch: emits its row, unless the batch is empty, and keeps the cadence of
durable rows. -/
def closeBatch (batcher : Batcher σ) (timestamp : Int) : Bool × Batcher σ :=
  if batcher.record.isEmpty then (false, batcher)
  else
    let (emitted, batcher) := batcher.emitRow timestamp
    let batcher := batcher.countRow emitted
    let batcher :=
      if emitted ∧ batcher.stats.rowsEmitted % batcher.syncEvery = 0 then batcher.syncSink
      else batcher
    (emitted, { batcher with record := .nil })

/-- Merges a sample into the open batch. The answer is `offer`, unless the sample does not fit and
closed no batch either. -/
def mergeSample (batcher : Batcher σ) (path : List String) (value : Measure) (offer : Offer) :
    Offer × Batcher σ :=
  let (record, outcome) := batcher.record.merge path value
  let batcher := { batcher with record }
  let rejected (reason : DropReason) : Offer :=
    match offer with
    | .merged => .dropped reason
    | other => other
  match outcome with
  | .inserted | .replaced =>
    (offer, batcher.count fun stats => { stats with merged := stats.merged + 1 })
  | .conflict =>
    (rejected .conflict,
      batcher.count fun stats => { stats with droppedConflicts := stats.droppedConflicts + 1 })
  | .emptyPath =>
    (rejected .emptyPath,
      batcher.count fun stats => { stats with droppedEmptyPath := stats.droppedEmptyPath + 1 })

/-- Takes a sample of the stream of the batcher. -/
def accept (batcher : Batcher σ) (path : List String) (value : Measure) (timestamp : Int) :
    Offer × Batcher σ :=
  match batcher.openTimestamp with
  | none => mergeSample { batcher with phase := .collecting timestamp } path value .merged
  | some before =>
    if before = timestamp then mergeSample batcher path value .merged
    else
      let (emitted, batcher) := batcher.closeBatch before
      mergeSample { batcher with phase := .collecting timestamp } path value (.rolled emitted)

/-- The stream of a sample is that of the batcher. -/
def isOwn (stream : StreamKey) (route : Route) : Bool :=
  route.application == stream.application && route.executor == stream.executor

/-- Takes a sample with its second. -/
def offer (batcher : Batcher σ) (route : Route) (value : Measure) (timestamp : Int) :
    Offer × Batcher σ :=
  if batcher.isStopped then (.dropped .stopped, batcher)
  else
    match batcher.stream with
    | some stream =>
      if isOwn stream route then batcher.accept route.path value timestamp
      else
        (.dropped .foreignStream,
          batcher.count fun stats => { stats with droppedForeign := stats.droppedForeign + 1 })
    | none =>
      match batcher.openSink route with
      | (true, batcher) => batcher.accept route.path value timestamp
      | (false, batcher) =>
        (.dropped .sinkUnavailable,
          batcher.count fun stats =>
            { stats with droppedSinkUnavailable := stats.droppedSinkUnavailable + 1 })

/-- Emits the open batch, unless it is empty, and closes the sink. -/
def finish (batcher : Batcher σ) (timestamp : Option Int) : Batcher σ :=
  let batcher :=
    match timestamp with
    | some timestamp =>
      if batcher.record.isEmpty then batcher
      else
        let (emitted, batcher) := batcher.emitRow timestamp
        batcher.countRow emitted
    | none => batcher
  let (_, sink) := Sink.close batcher.sink
  { batcher with sink, record := .nil, stream := none }

/-- Stops for good. A second call does nothing. -/
def stop (batcher : Batcher σ) : Batcher σ :=
  if batcher.isStopped then batcher
  else
    let timestamp := batcher.openTimestamp
    let batcher := { batcher with phase := .stopped }
    match batcher.stream with
    | none => batcher
    | some _ => batcher.finish timestamp

end Batcher

end MetricRelay

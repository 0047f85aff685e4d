/-
**From snapshots to rows.**

A `Reporter` turns each snapshot into samples, drops those that its filter refuses or whose name
leads to no stream, and offers the others to its batcher with the second that the clock showed when
the cycle began.

* `Reporter.report`: one cycle;
* `Reporter.stop`: delivers what is left. Nothing is reported after it;
* `Reporter.drop`: ends the use of a reporter, which stops it;
* `Reporter.ofSettings`: the reporter that settings describe.
-/

import MetricRelay.Batch.Batcher
import MetricRelay.Clock
import MetricRelay.Settings.Basic
import MetricRelay.Sink.Outlet

namespace MetricRelay

/-- Turns snapshots into rows. -/
structure Reporter (σ : Type) where
  batcher : Batcher σ
  filter : Filter := .everything
  mode : ValueMode := .primary
  units : Units := {}
  cycles : Nat := 0
  samplesSeen : Nat := 0
  samplesFiltered : Nat := 0
  droppedUnroutable : Nat := 0

namespace Reporter

variable {σ : Type}

/-- The counters of the reporter and its batcher. -/
def stats (reporter : Reporter σ) : ReportStats where
  cycles := reporter.cycles
  samplesSeen := reporter.samplesSeen
  samplesFiltered := reporter.samplesFiltered
  droppedUnroutable := reporter.droppedUnroutable
  batch := reporter.batcher.stats

variable [Sink σ]

/-- Takes one sample of a cycle. -/
def take (timestamp : Int) (reporter : Reporter σ) (sample : Sample) : Reporter σ :=
  let reporter := { reporter with samplesSeen := reporter.samplesSeen + 1 }
  if reporter.filter.accepts sample.name sample.kind then
    match Route.ofName? sample.name with
    | none => { reporter with droppedUnroutable := reporter.droppedUnroutable + 1 }
    | some route =>
      { reporter with batcher := (reporter.batcher.offer route sample.value timestamp).2 }
  else { reporter with samplesFiltered := reporter.samplesFiltered + 1 }

/-- Reports a snapshot. -/
def report (reporter : Reporter σ) (clock : Clock) (snapshot : Snapshot) : Reporter σ :=
  if reporter.batcher.isStopped then reporter
  else
    let reporter :=
      { reporter with cycles := reporter.cycles + 1, batcher := reporter.batcher.beginCycle }
    (snapshot.samples reporter.mode reporter.units).foldl (take clock.second) reporter

/-- Stops for good. -/
def stop (reporter : Reporter σ) : Reporter σ :=
  { reporter with batcher := reporter.batcher.stop }

/-- Goes out of use: it is stopped, if it was not before, and its sink is left. -/
def drop (reporter : Reporter σ) : σ :=
  reporter.stop.batcher.sink

end Reporter

/-- What the sinks of a machine work with: its name, its disk and, where there is one, a broker. -/
structure Machine where
  /-- The name; empty if the machine has none. -/
  name : String
  disk : Disk
  broker : Option Broker

namespace Outlet

/-- The sink that settings choose, on a machine. -/
def ofChoice (machine : Machine) : SinkChoice → Except Failure Outlet
  | .durableLog directory => .ok (.journal { directory, disk := machine.disk })
  | .publish host port =>
    match machine.broker with
    | some broker => .ok (.publisher { host, port, broker })
    | none => .error (.settings "publish sink configured but no broker transport available")

end Outlet

namespace Reporter

/-- The filter of settings; without any pattern every metric is shown. -/
def filterOf (patterns : FilterPatterns) : Except Failure Filter :=
  if patterns.isEmpty then .ok .everything
  else
    (Filter.ofPatterns patterns).mapError fun refusal =>
      .invalidPattern refusal.pattern refusal.fault.message

/-- The reporter that settings describe, on a machine. -/
def ofSettings (settings : Settings) (machine : Machine) : Except Failure (Reporter Outlet) := do
  settings.check.mapError fun error => .settings error.message
  let sink ← Outlet.ofChoice machine settings.sink
  let filter ← filterOf settings.filter
  return {
    batcher := .new sink (settings.hostnameOn machine.name) settings.syncEvery
    filter
    mode := settings.mode
    units := settings.units }

end Reporter

end MetricRelay

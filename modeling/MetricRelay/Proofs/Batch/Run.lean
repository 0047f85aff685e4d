/-
**Runs of a batcher.**

An `Event` is something asked of a batcher: to begin a cycle, to take a sample, to stop. A run asks
for a list of events, one after the other; runs compose (`Batcher.run_append`).
-/

import Mathlib.Data.List.Induction
import MetricRelay.Batch.Batcher
import MetricRelay.Proofs.Sink.Logged

namespace MetricRelay

/-- A sample that is offered to a batcher, with its second. -/
structure Offered where
  route : Route
  value : Measure
  timestamp : Int

/-- What can be asked of a batcher. -/
inductive Event where
  | cycle
  | offer (sample : Offered)
  | stop

namespace Batcher

variable {σ τ : Type}

/-- The same batcher over the image of its sink. -/
def withSink (project : σ → τ) (batcher : Batcher σ) : Batcher τ where
  hostname := batcher.hostname
  syncEvery := batcher.syncEvery
  sink := project batcher.sink
  stream := batcher.stream
  phase := batcher.phase
  record := batcher.record
  openFailed := batcher.openFailed
  stats := batcher.stats

section Run

variable [Sink σ]

/-- What a sample is answered, and the batcher after it. -/
def take (batcher : Batcher σ) (sample : Offered) : Offer × Batcher σ :=
  batcher.offer sample.route sample.value sample.timestamp

/-- The batcher after an event. -/
def next (batcher : Batcher σ) : Event → Batcher σ
  | .cycle => batcher.beginCycle
  | .offer sample => (batcher.take sample).2
  | .stop => batcher.stop

/-- The batcher after some events. -/
def run (batcher : Batcher σ) (events : List Event) : Batcher σ :=
  events.foldl next batcher

@[simp] theorem run_nil (batcher : Batcher σ) : batcher.run [] = batcher := rfl

@[simp] theorem run_cons (batcher : Batcher σ) (event : Event) (events : List Event) :
    batcher.run (event :: events) = (batcher.next event).run events := rfl

/-- **Runs compose.** -/
theorem run_append (batcher : Batcher σ) (first later : List Event) :
    batcher.run (first ++ later) = (batcher.run first).run later :=
  List.foldl_append

@[simp] theorem run_concat (batcher : Batcher σ) (events : List Event) (event : Event) :
    batcher.run (events ++ [event]) = (batcher.run events).next event := by
  rw [run_append, run_cons, run_nil]

/-- What every step keeps, every run keeps. -/
theorem run_induction (holds : Batcher σ → Prop) {batcher : Batcher σ} (start : holds batcher)
    (step : ∀ (current : Batcher σ) (event : Event), holds current → holds (current.next event))
    (events : List Event) : holds (batcher.run events) := by
  induction events generalizing batcher with
  | nil => exact start
  | cons event events ih => exact ih (step batcher event start)

end Run

/-- A new batcher over a sink whose calls are logged. -/
def logged (sink : σ) (hostname : String) (syncEvery : Nat) : Batcher (Logged σ) :=
  new { sink } hostname syncEvery

/-- The batcher over the sink itself. -/
def forget (batcher : Batcher (Logged σ)) : Batcher σ :=
  batcher.withSink Logged.sink

end Batcher

end MetricRelay

/-
**What a row is delivered to.**

A sink is opened for one stream, takes one line for each row, may be asked to make what it took
durable, and is closed at the end. Each call may fail; a call returns the state of the sink after
it in either case.

`SinkCall` names a call, for sinks that keep a list of them.
-/

import MetricRelay.Failure
import MetricRelay.Stream.Identity

namespace MetricRelay

/-- The result of a call and the state after it. -/
abbrev Attempt (σ : Type) := Except Failure Unit × σ

/-- The calls of a sink with states of type `σ`. -/
class Sink (σ : Type) where
  /-- Opens the sink for a stream. -/
  openStream : StreamKey → σ → Attempt σ
  /-- Delivers the line of a row. -/
  emit : String → σ → Attempt σ
  /-- Makes the delivered lines durable. -/
  sync : σ → Attempt σ
  /-- Releases the sink. -/
  close : σ → Attempt σ

/-- A call of a sink that was carried out. -/
inductive SinkCall where
  | opened (stream : StreamKey)
  | emitted (line : String)
  | synced
  | closed
  deriving DecidableEq, Repr

end MetricRelay

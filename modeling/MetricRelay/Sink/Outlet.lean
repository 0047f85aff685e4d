/-
**The sinks a report can be delivered to,** as one type.
-/

import MetricRelay.Sink.Journal
import MetricRelay.Sink.Publisher
import MetricRelay.Sink.Recorder

namespace MetricRelay

/-- A sink of any sort. -/
inductive Outlet where
  | journal (journal : Journal)
  | publisher (publisher : Publisher)
  | recorder (recorder : Recorder)

namespace Outlet

/-- The name of the sink inside. -/
def name : Outlet → String
  | journal _ => Journal.name
  | publisher _ => Publisher.name
  | recorder _ => Recorder.name

/-- The outcome of a call of the sink inside. -/
def lift {σ : Type} (wrap : σ → Outlet) (attempt : Attempt σ) : Attempt Outlet :=
  (attempt.1, wrap attempt.2)

/-- Opens a stream on the sink inside. -/
def openStream (stream : StreamKey) : Outlet → Attempt Outlet
  | journal inner => lift journal (inner.openStream stream)
  | publisher inner => lift publisher (inner.openStream stream)
  | recorder inner => lift recorder (inner.openStream stream)

/-- Hands a line over to the sink inside. -/
def emit (line : String) : Outlet → Attempt Outlet
  | journal inner => lift journal (inner.emit line)
  | publisher inner => lift publisher (inner.emit line)
  | recorder inner => lift recorder (inner.emit line)

/-- Asks the sink inside to make safe what it took. -/
def sync : Outlet → Attempt Outlet
  | journal inner => lift journal inner.sync
  | publisher inner => lift publisher inner.sync
  | recorder inner => lift recorder inner.sync

/-- Closes the sink inside. -/
def close : Outlet → Attempt Outlet
  | journal inner => lift journal inner.close
  | publisher inner => lift publisher inner.close
  | recorder inner => lift recorder inner.close

instance : Sink Outlet := ⟨openStream, emit, sync, close⟩

end Outlet

end MetricRelay

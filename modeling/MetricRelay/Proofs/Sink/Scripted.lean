/-
**A sink that follows a script.**

What a `Scripted` sink answers depends on the calls that were made so far, but on no line: whether
the third row fails may depend on its being the third one, not on what is in it.

* `SinkCall.blank`: a call but for the line that it delivers;
* `Trace.outline`: the calls of a trace, each but for its line, with their outcomes;
* `Logged.Alike`: two logged sinks whose traces have one outline. Calls that differ in their lines
  only get one answer from both and leave them alike (`Logged.Alike.perform`).
-/

import MetricRelay.Proofs.Sink.Logged

namespace MetricRelay

/-- The call but for the line that it delivers. -/
def SinkCall.blank : SinkCall → SinkCall
  | .opened stream => .opened stream
  | .emitted _ => .emitted ""
  | .synced => .synced
  | .closed => .closed

/-- The calls but for their lines, each with whether it succeeded. -/
def Trace.outline (trace : Trace) : Trace :=
  trace.map fun made => (made.1.blank, made.2)

/-- A sink that answers by a script, which is told the calls so far but for their lines. -/
structure Scripted where
  script : List SinkCall → Except Failure Unit
  calls : List SinkCall := []

namespace Scripted

/-- Answers a call and keeps it. -/
def answer (call : SinkCall) (sink : Scripted) : Attempt Scripted :=
  (sink.script (sink.calls ++ [call.blank]), { sink with calls := sink.calls ++ [call.blank] })

instance : Sink Scripted where
  openStream stream := answer (.opened stream)
  emit line := answer (.emitted line)
  sync := answer .synced
  close := answer .closed

theorem perform_eq (call : SinkCall) (sink : Scripted) : call.perform sink = answer call sink := by
  cases call <;> rfl

/-- Two calls that differ in their lines only are one call for the script. -/
theorem perform_congr {call other : SinkCall} (same : call.blank = other.blank)
    (sink : Scripted) : call.perform sink = other.perform sink := by
  rw [perform_eq, perform_eq, answer, answer, same]

end Scripted

namespace Logged

/-- Two sinks with one script that got the same calls, but for the lines, and the same answers. -/
structure Alike (first second : Logged Scripted) : Prop where
  sink : first.sink = second.sink
  outline : first.trace.outline = second.trace.outline

theorem Alike.refl (logged : Logged Scripted) : Alike logged logged := ⟨rfl, rfl⟩

/-- **A script does not see the lines.** -/
theorem Alike.perform {first second after : Logged Scripted} (alike : Alike first second)
    (call other : SinkCall) (same : call.blank = other.blank) {result : Except Failure Unit}
    (made : call.perform first = (result, after)) :
    ∃ otherAfter, other.perform second = (result, otherAfter) ∧ Alike after otherAfter := by
  have inner : other.perform second.sink = (result, after.sink) := by
    rw [← alike.sink, ← Scripted.perform_congr same]
    exact inner_of_perform call made
  have answered : (other.perform second).1 = result := by
    rw [perform_eq]
    exact congrArg Prod.fst inner
  refine ⟨(other.perform second).2, Prod.ext answered rfl, ?_, ?_⟩
  · rw [sink_perform, inner]
  · rw [trace_of_perform call made, trace_perform, answered]
    unfold Trace.outline
    rw [List.map_append, List.map_append, List.map_singleton, List.map_singleton, same]
    exact congrArg (· ++ _) alike.outline

/-- Another line may be delivered. -/
theorem Alike.emit {first second after : Logged Scripted} (alike : Alike first second)
    {line : String} (other : String) {result : Except Failure Unit}
    (made : Sink.emit line first = (result, after)) :
    ∃ otherAfter, Sink.emit other second = (result, otherAfter) ∧ Alike after otherAfter :=
  alike.perform (.emitted line) (.emitted other) rfl made

end Logged

end MetricRelay

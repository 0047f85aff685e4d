/-
**A sink that keeps a log of its calls.**

`Logged σ` wraps a sink of type `σ`. Every call goes to the sink inside and leaves an entry: the
call, the sink before it, and whether it succeeded. What fails is decided by the sink inside, so a
fact about the log of every wrapped sink holds for every pattern of failures.

* `SinkCall.perform`, `SinkCall.performAll`: carry out a call, or several;
* `Logged.trace`: the calls so far, each with its outcome;
* `Logged.handed`, `Logged.takenLines`: the lines among them, and those that the sink took;
* `Sink.Keeps`: something about a sink that no call changes;
* `Sink.Follows`: a map between sinks that keeps the result of every call, as long as the sink stays
  good. Forgetting the log is one (`Logged.follows_sink`).
-/

import MetricRelay.Sink.Basic

namespace MetricRelay

/-- Carries out a call. -/
def SinkCall.perform {σ : Type} [Sink σ] : SinkCall → σ → Attempt σ
  | .opened stream => Sink.openStream stream
  | .emitted line => Sink.emit line
  | .synced => Sink.sync
  | .closed => Sink.close

/-- Carries out calls, one after the other, whatever becomes of them. -/
def SinkCall.performAll {σ : Type} [Sink σ] (calls : List SinkCall) (sink : σ) : σ :=
  calls.foldl (fun sink call => (call.perform sink).2) sink

theorem SinkCall.performAll_append {σ : Type} [Sink σ] (first later : List SinkCall) (sink : σ) :
    performAll (first ++ later) sink = performAll later (performAll first sink) :=
  List.foldl_append

/-- The line of a call that delivers one. -/
def SinkCall.line? : SinkCall → Option String
  | .emitted line => some line
  | .opened _ | .synced | .closed => none

/-- A map between sinks that keeps the result of every call, as long as the sink stays good. -/
def Sink.Follows {σ τ : Type} [Sink σ] [Sink τ] (good : σ → Prop) (project : σ → τ) : Prop :=
  ∀ (call : SinkCall) (sink : σ), good (call.perform sink).2 → good sink ∧
    call.perform (project sink) = ((call.perform sink).1, project (call.perform sink).2)

/-- What holds of a sink holds after every call, whatever comes of the call. -/
def Sink.Keeps {σ : Type} [Sink σ] (good : σ → Prop) : Prop :=
  ∀ (call : SinkCall) (sink : σ), good sink → good (call.perform sink).2

theorem Sink.Keeps.of_perform {σ : Type} [Sink σ] {good : σ → Prop} (keeps : Sink.Keeps good)
    (call : SinkCall) {sink after : σ} {result : Except Failure Unit}
    (made : call.perform sink = (result, after)) (held : good sink) : good after := by
  have kept := keeps call sink held
  rwa [made] at kept

/-- A call that was made: what the sink was before it, and whether it succeeded. -/
structure LogEntry (σ : Type) where
  call : SinkCall
  before : σ
  succeeded : Bool

/-- A sink and the entries of its calls so far. -/
structure Logged (σ : Type) where
  sink : σ
  entries : List (LogEntry σ) := []

/-- Calls, each with whether it succeeded. -/
abbrev Trace := List (SinkCall × Bool)

namespace Logged

variable {σ : Type}

/-- The calls so far, each with its outcome. -/
def trace (logged : Logged σ) : Trace :=
  logged.entries.map fun entry => (entry.call, entry.succeeded)

/-- The lines that the sink was handed, each with whether the sink took it. -/
def handed (logged : Logged σ) : List (String × Bool) :=
  logged.trace.filterMap fun made => made.1.line?.map fun line => (line, made.2)

/-- The lines that the sink took. -/
def takenLines (logged : Logged σ) : List String :=
  (logged.handed.filter fun line => line.2).map Prod.fst

/-- How many lines the sink took. -/
def takenCount (logged : Logged σ) : Nat :=
  logged.handed.countP fun line => line.2

theorem length_takenLines (logged : Logged σ) :
    logged.takenLines.length = logged.takenCount := by
  unfold takenLines takenCount
  rw [List.length_map, List.countP_eq_length_filter]

variable [Sink σ]

/-- The entry of a call on a sink. -/
def entry (call : SinkCall) (sink : σ) : LogEntry σ :=
  ⟨call, sink, (call.perform sink).1.toBool⟩

/-- Carries out a call and keeps its entry. -/
def perform (call : SinkCall) (logged : Logged σ) : Attempt (Logged σ) :=
  ((call.perform logged.sink).1,
    ⟨(call.perform logged.sink).2, logged.entries ++ [entry call logged.sink]⟩)

instance : Sink (Logged σ) where
  openStream stream := perform (.opened stream)
  emit line := perform (.emitted line)
  sync := perform .synced
  close := perform .closed

theorem perform_eq (call : SinkCall) (logged : Logged σ) :
    call.perform logged = perform call logged := by
  cases call <;> rfl

theorem sink_perform (call : SinkCall) (logged : Logged σ) :
    (call.perform logged).2.sink = (call.perform logged.sink).2 := by
  rw [perform_eq]
  rfl

theorem entries_perform (call : SinkCall) (logged : Logged σ) :
    (call.perform logged).2.entries = logged.entries ++ [entry call logged.sink] := by
  rw [perform_eq]
  rfl

/-- **Keeping a log changes no result.** -/
theorem follows_sink : Sink.Follows (fun _ => True) (Logged.sink : Logged σ → σ) := by
  intro call logged _
  rw [perform_eq]
  exact ⟨trivial, rfl⟩

/-- A call adds itself, with its outcome, to the trace. -/
theorem trace_perform (call : SinkCall) (logged : Logged σ) :
    (call.perform logged).2.trace =
      logged.trace ++ [(call, (call.perform logged).1.toBool)] := by
  rw [perform_eq]
  simp [trace, perform, entry]

theorem trace_of_perform (call : SinkCall) {logged after : Logged σ}
    {result : Except Failure Unit} (made : call.perform logged = (result, after)) :
    after.trace = logged.trace ++ [(call, result.toBool)] := by
  have traced := trace_perform call logged
  rw [made] at traced
  exact traced

/-- A call is carried out by the sink inside. -/
theorem inner_of_perform (call : SinkCall) {logged after : Logged σ}
    {result : Except Failure Unit} (made : call.perform logged = (result, after)) :
    call.perform logged.sink = (result, after.sink) := by
  rw [perform_eq] at made
  cases made
  rfl

/-- A call hands its line to the sink, if it has one. -/
theorem handed_of_perform (call : SinkCall) {logged after : Logged σ}
    {result : Except Failure Unit} (made : call.perform logged = (result, after)) :
    after.handed = logged.handed ++ (call.line?.map fun line => (line, result.toBool)).toList := by
  unfold handed
  rw [trace_of_perform call made, List.filterMap_append]
  cases call <;> rfl

/-- A call without a line leaves the lines as they are. -/
theorem takenLines_of_silent (call : SinkCall) (silent : call.line? = none)
    {logged after : Logged σ} {result : Except Failure Unit}
    (made : call.perform logged = (result, after)) : after.takenLines = logged.takenLines := by
  unfold takenLines
  rw [handed_of_perform call made, silent, Option.map_none, Option.toList_none, List.append_nil]

theorem takenLines_of_emit {line : String} {logged after : Logged σ}
    (made : (SinkCall.emitted line).perform logged = (.ok (), after)) :
    after.takenLines = logged.takenLines ++ [line] := by
  unfold takenLines
  rw [handed_of_perform (.emitted line) made, List.filter_append, List.map_append]
  rfl

/-- **A sink that keeps a log** is what the calls in it made of the sink that began. -/
theorem performAll_trace (sink : σ) : Sink.Keeps fun logged : Logged σ =>
    logged = SinkCall.performAll (logged.trace.map Prod.fst) { sink } := by
  intro call logged same
  rw [trace_perform, List.map_append, SinkCall.performAll_append, ← same]
  rfl

end Logged

end MetricRelay

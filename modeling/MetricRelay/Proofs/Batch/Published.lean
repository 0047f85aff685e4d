/-
**The broker has what the batcher counts.**

A batcher over a publisher is asked for something, and before any of its steps the broker can be
told to refuse connections or to fail messages. Whatever is made to fail, the messages are the rows
that were taken, and the broker accepted at most one connection and sees at most one disconnect.

* `Publisher.Step`: something asked of the batcher, or of the broker to fail;
* `Batcher.Published`: where the publisher stands in each phase of its batcher. Every step keeps it
  (`Batcher.Served.proceed`).

Main statement: `Batcher.messages_are_rows_taken`.
-/

import MetricRelay.Proofs.Batch.Tally
import MetricRelay.Proofs.Sink.Ledger

namespace MetricRelay

/-- A step of a batcher over a publisher. -/
inductive Publisher.Step where
  | ask (event : Event)
  /-- The broker is told to refuse that many of the next connections. -/
  | refuse (count : Nat)
  /-- The broker is told to fail that many of the next messages. -/
  | fail (count : Nat)

namespace Batcher

open Offered
open Publisher (Ledger Standing Step)

/-- Tells the broker something. -/
def arm (batcher : Batcher (Logged Publisher)) (tell : Broker → Broker) :
    Batcher (Logged Publisher) :=
  let publisher := batcher.sink.sink
  { batcher with sink := { batcher.sink with
    sink := { publisher with broker := tell publisher.broker } } }

/-- The batcher after a step. -/
def proceed (batcher : Batcher (Logged Publisher)) : Step → Batcher (Logged Publisher)
  | .ask event => batcher.next event
  | .refuse count => batcher.arm (.refuseNext count)
  | .fail count => batcher.arm (.failNext count)

/-- The batcher after some steps. -/
def proceedAll (batcher : Batcher (Logged Publisher)) (steps : List Step) :
    Batcher (Logged Publisher) :=
  steps.foldl proceed batcher

/-- The sample of a step, if it is taken. -/
def acceptedIn (batcher : Batcher (Logged Publisher)) : Step → List Offered
  | .ask event => batcher.accepted event
  | .refuse _ | .fail _ => []

/-- The samples that are taken in some steps. -/
def takenIn (batcher : Batcher (Logged Publisher)) : List Step → List Offered
  | [] => []
  | step :: rest => batcher.acceptedIn step ++ (batcher.proceed step).takenIn rest

/-! ### The invariant -/

/-- The publisher is connected for the stream of the batcher while a batch is open. Before that it
was never connected, and after a stop it is not connected any more. -/
def Published (batcher : Batcher (Logged Publisher)) : Prop :=
  match batcher.phase with
  | .idle => Ledger batcher.sink .apart batcher.stats.sinkOpenFailures
  | .collecting _ => ∃ stream, batcher.stream = some stream ∧
    Ledger batcher.sink (.connected stream) batcher.stats.sinkOpenFailures
  | .stopped => Ledger batcher.sink .apart batcher.stats.sinkOpenFailures ∨
    ∃ stream, Ledger batcher.sink (.parted stream) batcher.stats.sinkOpenFailures

variable {batcher after : Batcher (Logged Publisher)} {stream : StreamKey} {timestamp : Int}
  {sample : Offered}

/-- Where the publisher stands: the stream of an open batch was adopted, and there was a disconnect
if there was a stop after a connection. -/
theorem Published.standing (consistent : batcher.Consistent) (published : Published batcher) :
    ∃ standing : Standing, Ledger batcher.sink standing batcher.stats.sinkOpenFailures ∧
      (∀ stream, batcher.stream = some stream → standing.adopted = some stream) ∧
      (batcher.phase = .stopped → standing.disconnects = standing.adopted.toList.length) ∧
      (batcher.phase ≠ .stopped → standing.disconnects = 0) := by
  unfold Published at published
  unfold Consistent at consistent
  cases phase : batcher.phase with
  | idle =>
    rw [phase] at published consistent
    refine ⟨_, published, fun stream known => ?_, nofun, fun _ => rfl⟩
    cases consistent.1.symm.trans known
  | collecting before =>
    rw [phase] at published
    obtain ⟨stream, known, ledger⟩ := published
    exact ⟨_, ledger, fun other same => known.symm.trans same, nofun, fun _ => rfl⟩
  | stopped =>
    rw [phase] at published consistent
    have unadopted (stream : StreamKey) : batcher.stream ≠ some stream := by
      rw [consistent.1]
      nofun
    rcases published with ledger | ⟨stream, ledger⟩
    · exact ⟨_, ledger, fun stream known => absurd known (unadopted stream), fun _ => rfl,
        fun running => absurd rfl running⟩
    · exact ⟨_, ledger, fun stream known => absurd known (unadopted stream), fun _ => rfl,
        fun running => absurd rfl running⟩

/-- Closing a batch keeps the connection. -/
theorem Closing.published {result : Bool × Batcher (Logged Publisher)}
    (closing : Closing batcher stream timestamp result)
    (ledger : Ledger batcher.sink (.connected stream) batcher.stats.sinkOpenFailures) :
    Ledger result.2.sink (.connected stream) result.2.stats.sinkOpenFailures := by
  cases closing with
  | empty => exact ledger
  | lost failure sink full emit => exact ledger.publish emit
  | delivered sink full emit early => exact ledger.publish emit
  | settled sink after full emit due sync => exact (ledger.publish emit).sync sync
  | unsettled sink after failure full emit due sync => exact (ledger.publish emit).sync sync

/-- Merging a sample keeps the connection. -/
theorem mergeSample_published (batcher : Batcher (Logged Publisher))
    (phase : batcher.phase = .collecting timestamp) (known : batcher.stream = some stream)
    (ledger : Ledger batcher.sink (.connected stream) batcher.stats.sinkOpenFailures)
    (path : List String) (value : Measure) (offer : Offer) :
    Published (batcher.mergeSample path value offer).2 := by
  simp only [Published, mergeSample_phase, phase, mergeSample_stream, mergeSample_sink,
    mergeSample_sinkOpenFailures]
  exact ⟨stream, known, ledger⟩

/-- **Taking a sample keeps the invariant.** -/
theorem Taking.published {result : Offer × Batcher (Logged Publisher)}
    (taking : Taking batcher sample result) (published : Published batcher) :
    Published result.2 := by
  unfold Published at published
  -- While a batch is open, the publisher is connected for its stream.
  have connected {before : Int} {stream : StreamKey} (phase : batcher.phase = .collecting before)
      (known : batcher.stream = some stream) :
      Ledger batcher.sink (.connected stream) batcher.stats.sinkOpenFailures := by
    rw [phase] at published
    obtain ⟨other, same, ledger⟩ := published
    cases known.symm.trans same
    exact ledger
  cases taking with
  | stopped phase => exact published
  | waiting phase failed =>
    rw [phase] at published
    simp only [Published, phase]
    exact published
  | refused failure sink phase ready call =>
    rw [phase] at published
    simp only [Published, phase]
    exact published.refuse call
  | adopted sink phase ready call =>
    rw [phase] at published
    refine mergeSample_published _ rfl rfl ?_ _ _ _
    exact published.connect call
  | foreign other before phase known different =>
    rw [phase] at published
    simp only [Published, phase]
    exact published
  | joined phase own => exact mergeSample_published _ phase own (connected phase own) _ _ _
  | rolled before emitted closed phase own different closing =>
    have ledger := closing.published (connected phase own)
    obtain ⟨sink, stats, frame⟩ := closing.frame
    simp only at frame ledger
    subst frame
    refine @mergeSample_published (sample.stream batcher.hostname) _ _ rfl ?_ ?_ _ _ _
    exacts [own, ledger]

/-- **Stopping keeps the invariant.** -/
theorem Stopping.published (stopping : Stopping batcher after) (published : Published batcher) :
    Published after := by
  unfold Published at published
  cases stopping with
  | again phase => exact published
  | unused phase =>
    rw [phase] at published
    exact .inl published
  | empty stream before result sink phase known void close =>
    rw [phase] at published
    obtain ⟨stream, _, ledger⟩ := published
    exact .inr ⟨stream, ledger.part close⟩
  | lost stream before failure result sink after phase known full emit close =>
    rw [phase] at published
    obtain ⟨stream, _, ledger⟩ := published
    exact .inr ⟨stream, (ledger.publish emit).part close⟩
  | delivered stream before result sink after phase known full emit close =>
    rw [phase] at published
    obtain ⟨stream, _, ledger⟩ := published
    exact .inr ⟨stream, (ledger.publish emit).part close⟩

/-- **Being told to fail keeps the invariant.** -/
theorem Published.arm (published : Published batcher) {tell : Broker → Broker}
    (rearms : ∀ broker, Broker.Rearmed broker (tell broker)) : Published (batcher.arm tell) := by
  unfold Published at published
  cases phase : batcher.phase with
  | idle =>
    rw [phase] at published
    simp only [Published, Batcher.arm, phase]
    exact published.arm (rearms _)
  | collecting before =>
    rw [phase] at published
    obtain ⟨stream, known, ledger⟩ := published
    simp only [Published, Batcher.arm, phase]
    exact ⟨stream, known, ledger.arm (rearms _)⟩
  | stopped =>
    rw [phase] at published
    simp only [Published, Batcher.arm, phase]
    rcases published with ledger | ⟨stream, ledger⟩
    · exact .inl (ledger.arm (rearms _))
    · exact .inr ⟨stream, ledger.arm (rearms _)⟩

/-! ### Steps -/

/-- Being told to fail is no step of the blocks. -/
theorem Gathers.arm {samples : List Offered} (gathers : Gathers batcher samples)
    (tell : Broker → Broker) : Gathers (batcher.arm tell) samples := by
  unfold Gathers at gathers
  cases phase : batcher.phase with
  | idle =>
    rw [phase] at gathers
    simp only [Gathers, Batcher.arm, phase]
    exact ⟨gathers.1, gathers.2.same rfl rfl rfl⟩
  | collecting timestamp =>
    rw [phase] at gathers
    obtain ⟨closed, opened, collects⟩ := gathers
    simp only [Gathers, Batcher.arm, phase]
    exact ⟨closed, opened, collects.same rfl rfl rfl rfl rfl rfl⟩
  | stopped =>
    rw [phase] at gathers
    simp only [Gathers, Batcher.arm, phase]
    exact ⟨gathers.1, gathers.2.same rfl rfl rfl⟩

/-- What holds of a batcher in every run of steps in which these samples were taken. -/
structure Served (batcher : Batcher (Logged Publisher)) (samples : List Offered) : Prop where
  consistent : batcher.Consistent
  published : Published batcher
  gathers : Gathers batcher samples

/-- **Every step keeps the invariant.** -/
theorem Served.proceed {samples : List Offered} (served : Served batcher samples) (step : Step) :
    Served (batcher.proceed step) (samples ++ batcher.acceptedIn step) := by
  obtain ⟨consistent, published, gathers⟩ := served
  cases step with
  | ask event =>
    refine ⟨next_consistent consistent event, ?_, next_gathers consistent gathers event⟩
    cases event with
    | cycle => exact published
    | offer sample => exact (take_cases consistent sample).published published
    | stop => exact (stop_cases consistent).published published
  | refuse count | fail count =>
    refine ⟨consistent, published.arm fun _ => ⟨_, _, rfl⟩, ?_⟩
    show Gathers _ (samples ++ [])
    rw [List.append_nil]
    exact gathers.arm _

/-- A step keeps the host name, and only a stop stops. -/
theorem proceed_frame (consistent : batcher.Consistent) (step : Step) :
    (batcher.proceed step).hostname = batcher.hostname ∧
      ((batcher.proceed step).phase = .stopped ↔
        batcher.phase = .stopped ∨ .ask .stop = step) := by
  cases step with
  | ask event =>
    refine ⟨(next_frame consistent event).1, ?_⟩
    show (batcher.next event).phase = .stopped ↔ _
    rw [next_stopped_iff consistent event, Step.ask.injEq, eq_comm (a := event)]
  | refuse | fail => exact ⟨rfl, by simp [Batcher.proceed, arm]⟩

theorem Served.proceedAll {samples : List Offered} (served : Served batcher samples)
    (steps : List Step) :
    Served (batcher.proceedAll steps) (samples ++ batcher.takenIn steps) ∧
      (batcher.proceedAll steps).hostname = batcher.hostname ∧
      ((batcher.proceedAll steps).phase = .stopped ↔
        batcher.phase = .stopped ∨ .ask .stop ∈ steps) := by
  induction steps generalizing batcher samples with
  | nil =>
    rw [takenIn, List.append_nil]
    exact ⟨served, rfl, by simp [Batcher.proceedAll]⟩
  | cons step rest ih =>
    obtain ⟨hostname, stopped⟩ := proceed_frame served.consistent step
    obtain ⟨later, sameHostname, laterStopped⟩ := ih (served.proceed step)
    refine ⟨?_, sameHostname.trans hostname, ?_⟩
    · rw [takenIn, ← List.append_assoc]
      exact later
    · rw [List.mem_cons, ← or_assoc, ← stopped]
      exact laterStopped

/-- **The messages are the rows that were taken.** Let a batcher over a publisher and a broker that
nobody used yet be asked for any events, while the broker is told now and then to refuse connections
or to fail messages. At every point:

* the rows of the samples so far were handed over, in order and each one once, but for that of the
  open batch; the messages are those of them that were taken, in order and each one once, and there
  are as many as are counted as emitted;
* every message is that of the client of the stream that was adopted, on the topic of its
  application, to be delivered exactly once;
* the broker accepted one connection, of that client, if a stream was adopted, and else none; it
  refused as many as openings are counted as failed;
* there was no disconnect before a stop, and after it one if a connection was accepted. -/
theorem messages_are_rows_taken (host : String) (port : Nat) (hostname : String) (syncEvery : Nat)
    (steps : List Step) :
    let start := logged ({ host, port, broker := {} } : Publisher) hostname syncEvery
    let batcher := start.proceedAll steps
    let broker := batcher.sink.sink.broker
    ∃ adopted : Option StreamKey,
      (∀ stream, (.opened stream, true) ∈ batcher.sink.trace ↔ adopted = some stream) ∧
      (∀ stream, batcher.stream = some stream → adopted = some stream) ∧
      (∃ handed, batcher.sink.handed.map Prod.fst = handed.map Row.line ∧
        rows hostname (start.takenIn steps) = handed ++ batcher.openRow.toList) ∧
      broker.messages.map Message.payload =
        (batcher.sink.handed.filter Prod.snd).map Prod.fst ∧
      broker.messages.length = batcher.stats.rowsEmitted ∧
      (∀ message ∈ broker.messages, ∃ stream, adopted = some stream ∧
        message.topic = "metrics-" ++ stream.application.text ∧
        message.clientId = stream.application.text ++ "-" ++ stream.hostname ++ "-" ++
          stream.executor.text ∧
        broker.connections.map Connection.clientId = [message.clientId] ∧
        message.delivery.level = 2) ∧
      broker.connections.length = adopted.toList.length ∧ broker.connections.length ≤ 1 ∧
      Publisher.refusals batcher.sink = batcher.stats.sinkOpenFailures ∧
      (.ask .stop ∈ steps → broker.disconnects = broker.connections.length) ∧
      (.ask .stop ∉ steps → broker.disconnects = 0) := by
  intro start batcher broker
  have fresh : Served start [] :=
    ⟨new_consistent _ hostname syncEvery, .fresh host port, rfl, rfl, rfl, rfl⟩
  obtain ⟨⟨consistent, published, gathers⟩, sameHostname, stopped⟩ := fresh.proceedAll steps
  obtain ⟨standing, ledger, known, parted, running⟩ := published.standing consistent
  obtain ⟨handed, delivered, split⟩ := gathers.rows_split consistent
  have stoppedIff : batcher.phase = .stopped ↔ .ask .stop ∈ steps := by
    rw [stopped]
    simp [start, logged, new]
  have lengths : broker.connections.length = standing.adopted.toList.length := by
    rw [ledger.connections, List.length_map]
  refine ⟨standing.adopted, ledger.opened, known, ⟨handed, delivered.lines, ?_⟩, ledger.payloads,
    ?_, fun message member => ?_, lengths, ?_, ledger.refused, fun stop => ?_, fun noStop => ?_⟩
  · rw [sameHostname] at split
    exact split
  · rw [← List.length_map Message.payload, ledger.payloads, List.length_map, delivered.taken,
      List.countP_eq_length_filter]
  · obtain ⟨stream, adopted, same⟩ := ledger.addressed message member
    rw [same]
    refine ⟨stream, adopted, rfl, rfl, ?_, rfl⟩
    rw [ledger.connections, adopted]
    rfl
  · rw [lengths]
    cases standing.adopted <;> simp
  · rw [lengths, ledger.disconnects]
    exact parted (stoppedIff.mpr stop)
  · rw [ledger.disconnects]
    exact running (mt stoppedIff.mp noStop)

end Batcher

end MetricRelay

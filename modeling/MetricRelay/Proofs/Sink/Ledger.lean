/-
**What a broker knows of its publisher.**

A publisher that is used once connects at most once, publishes while it is connected and gives the
connection up at most once. What the broker holds is then told by the calls of the publisher and
their outcomes.

* `Broker.refuseNext`, `Broker.failNext`: how a broker is told to fail;
* `Publisher.Standing`: the publisher was never connected, is connected, or gave its connection up;
* `Publisher.refusals`: how many connections the broker refused;
* `Publisher.Ledger`: what the broker holds, by the standing of its publisher and the calls so far.
  There is one lemma for each call (`Ledger.connect`, `Ledger.refuse`, `Ledger.publish`,
  `Ledger.sync`, `Ledger.part`), and one for being told to fail (`Ledger.arm`).
-/

import MetricRelay.Proofs.Sink.Logged
import MetricRelay.Sink.Publisher

namespace MetricRelay

namespace Broker

variable {broker after : Broker}

/-- Refuses that many of the next connections. -/
def refuseNext (count : Nat) (broker : Broker) : Broker :=
  { broker with refuseConnections := count }

/-- Fails that many of the next messages. -/
def failNext (count : Nat) (broker : Broker) : Broker :=
  { broker with failPublishes := count }

/-- The brokers differ at most in how many of the next requests fail. -/
def Rearmed (before after : Broker) : Prop :=
  ∃ refuseConnections failPublishes, after = { before with refuseConnections, failPublishes }

theorem connect_ok {connection : Connection}
    (connected : broker.connect connection = (.ok (), after)) :
    after = { broker with connections := broker.connections ++ [connection] } := by
  unfold connect at connected
  split at connected
  · split at connected
    · cases connected
      rfl
    · cases connected
  · cases connected

theorem connect_error {connection : Connection} {failure : Failure}
    (refused : broker.connect connection = (.error failure, after)) : Rearmed broker after := by
  unfold connect at refused
  split at refused
  · split at refused
    · cases refused
    · cases refused
      exact ⟨_, _, rfl⟩
  · cases refused
    exact ⟨_, _, rfl⟩

theorem publish_ok {message : Message} (published : broker.publish message = (.ok (), after)) :
    after = { broker with messages := broker.messages ++ [message] } := by
  unfold publish at published
  split at published
  · cases published
    rfl
  · cases published

theorem publish_error {message : Message} {failure : Failure}
    (failed : broker.publish message = (.error failure, after)) : Rearmed broker after := by
  unfold publish at failed
  split at failed
  · cases failed
  · cases failed
    exact ⟨_, _, rfl⟩

end Broker

namespace Publisher

/-- How a publisher stands with its broker. -/
inductive Standing where
  /-- No connection was accepted. -/
  | apart
  /-- A connection is open, for a stream. -/
  | connected (stream : StreamKey)
  /-- The connection for a stream was given up. -/
  | parted (stream : StreamKey)

namespace Standing

/-- The stream of the connection that was accepted. -/
def adopted : Standing → Option StreamKey
  | apart => none
  | connected stream | parted stream => some stream

def session : Standing → Option Session
  | connected stream => some ⟨clientId stream, topic stream⟩
  | apart | parted _ => none

def disconnects : Standing → Nat
  | apart | connected _ => 0
  | parted _ => 1

end Standing

/-- The call asked for a connection, and the broker refused it. -/
def isRefusal (entry : LogEntry Publisher) : Bool :=
  match entry.call with
  | .opened stream =>
    entry.before.session.isNone &&
      !(entry.before.broker.connect (entry.before.connection stream)).1.toBool
  | .emitted _ | .synced | .closed => false

/-- How many connections the broker refused. -/
def refusals (logged : Logged Publisher) : Nat :=
  logged.entries.countP isRefusal

/-- What the broker of a publisher holds after some calls, of which it refused some connections:
one connection for the stream that was adopted, and one message for each line that was taken, as the
client of that stream and on its topic. -/
structure Ledger (logged : Logged Publisher) (standing : Standing) (refused : Nat) : Prop where
  session : logged.sink.session = standing.session
  opened : ∀ stream, (.opened stream, true) ∈ logged.trace ↔ standing.adopted = some stream
  connections : logged.sink.broker.connections =
    standing.adopted.toList.map logged.sink.connection
  payloads : logged.sink.broker.messages.map Message.payload =
    (logged.handed.filter Prod.snd).map Prod.fst
  addressed : ∀ message ∈ logged.sink.broker.messages, ∃ stream,
    standing.adopted = some stream ∧
      message = ⟨clientId stream, topic stream, message.payload, .exactlyOnce⟩
  disconnects : logged.sink.broker.disconnects = standing.disconnects
  refused : refusals logged = refused

theorem refusals_perform {call : SinkCall} {logged after : Logged Publisher}
    {result : Except Failure Unit} (made : call.perform logged = (result, after)) :
    refusals after =
      refusals logged + if isRefusal (Logged.entry call logged.sink) then 1 else 0 := by
  have entries := Logged.entries_perform call logged
  rw [made] at entries
  unfold refusals
  rw [entries, List.countP_append, List.countP_singleton]

namespace Ledger

variable {logged after : Logged Publisher} {standing : Standing} {stream : StreamKey}
  {refused : Nat}

/-- A publisher over a broker that nobody used yet. -/
theorem fresh (host : String) (port : Nat) :
    Ledger { sink := { host, port, broker := {} } } .apart 0 where
  session := rfl
  opened := by simp [Logged.trace, Standing.adopted]
  connections := rfl
  payloads := rfl
  addressed := by simp
  disconnects := rfl
  refused := rfl

/-- What opens nothing and delivers nothing leaves the broker as it was, but for what it refuses or
fails next. -/
theorem keep (ledger : Ledger logged standing refused) {broker : Broker}
    (rearmed : Broker.Rearmed logged.sink.broker broker)
    (sink : after.sink = ⟨logged.sink.host, logged.sink.port, broker, standing.session⟩)
    (opened : ∀ stream, (.opened stream, true) ∈ after.trace ↔
      (.opened stream, true) ∈ logged.trace)
    (taken : after.handed.filter Prod.snd = logged.handed.filter Prod.snd) :
    Ledger after standing (refusals after) := by
  obtain ⟨refuse, fail, rfl⟩ := rearmed
  refine ⟨?_, fun stream => (opened stream).trans (ledger.opened stream), ?_, ?_, ?_, ?_, rfl⟩
  · rw [sink]
  · rw [sink]
    exact ledger.connections
  · rw [sink, taken]
    exact ledger.payloads
  · rw [sink]
    exact ledger.addressed
  · rw [sink]
    exact ledger.disconnects

/-- **Being told to fail changes nothing else.** -/
theorem arm (ledger : Ledger logged standing refused) {broker : Broker}
    (rearmed : Broker.Rearmed logged.sink.broker broker) :
    Ledger { logged with sink := { logged.sink with broker } } standing refused := by
  have sink : ({ logged.sink with broker } : Publisher) =
      ⟨logged.sink.host, logged.sink.port, broker, standing.session⟩ := by rw [← ledger.session]
  exact ledger.refused ▸ ledger.keep rearmed sink (fun _ => Iff.rfl) rfl

/-- **The connection that is accepted is the first one.** -/
theorem connect (ledger : Ledger logged .apart refused)
    (call : SinkCall.perform (.opened stream) logged = (.ok (), after)) :
    Ledger after (.connected stream) refused := by
  have inner := Logged.inner_of_perform (.opened stream) call
  simp only [SinkCall.perform, Sink.openStream, openStream, ledger.session, Standing.session]
    at inner
  rcases asked : logged.sink.broker.connect (logged.sink.connection stream) with ⟨_ | _, broker⟩
  · rw [asked] at inner
    cases inner
  rw [asked] at inner
  have sink := (Prod.mk.inj inner).2.symm
  have connected := Broker.connect_ok asked
  refine ⟨by rw [sink]; rfl, fun other => ?_, ?_, ?_, ?_, ?_, ?_⟩
  · rw [Logged.trace_of_perform _ call, List.mem_append, ledger.opened]
    simp [Standing.adopted, Except.toBool, eq_comm]
  · rw [sink, connected]
    simp [ledger.connections, Standing.adopted, connection, url]
  · rw [sink, connected, Logged.handed_of_perform _ call]
    simpa [SinkCall.line?] using ledger.payloads
  · rw [sink, connected]
    intro message member
    obtain ⟨_, nothing, _⟩ := ledger.addressed message member
    cases nothing
  · rw [sink, connected]
    exact ledger.disconnects
  · rw [refusals_perform call, ledger.refused]
    simp [isRefusal, Logged.entry, asked, Except.toBool]

/-- A connection that is refused is counted. -/
theorem refuse (ledger : Ledger logged .apart refused) {failure : Failure}
    (call : SinkCall.perform (.opened stream) logged = (.error failure, after)) :
    Ledger after .apart (refused + 1) := by
  have inner := Logged.inner_of_perform (.opened stream) call
  simp only [SinkCall.perform, Sink.openStream, openStream, ledger.session, Standing.session]
    at inner
  rcases asked : logged.sink.broker.connect (logged.sink.connection stream) with ⟨_ | _, broker⟩
  · rw [asked] at inner
    have kept := ledger.keep (Broker.connect_error asked) (Prod.mk.inj inner).2.symm
      (fun other => by rw [Logged.trace_of_perform _ call]; simp [Except.toBool])
      (by rw [Logged.handed_of_perform _ call]; simp [SinkCall.line?])
    rw [refusals_perform call, ledger.refused] at kept
    simpa [isRefusal, Logged.entry, asked, Except.toBool, ledger.session, Standing.session]
      using kept
  · rw [asked] at inner
    cases inner

/-- **A line that is taken is one message**, and one that is not is none. -/
theorem publish (ledger : Ledger logged (.connected stream) refused) {line : String}
    {result : Except Failure Unit}
    (call : SinkCall.perform (.emitted line) logged = (result, after)) :
    Ledger after (.connected stream) refused := by
  have inner := Logged.inner_of_perform (.emitted line) call
  simp only [SinkCall.perform, Sink.emit, emit, ledger.session, Standing.session] at inner
  have opened (other : StreamKey) : (.opened other, true) ∈ after.trace ↔
      (.opened other, true) ∈ logged.trace := by
    rw [Logged.trace_of_perform _ call]
    simp
  have counted : refusals after = refused := by
    rw [refusals_perform call, ledger.refused]
    rfl
  have handed := Logged.handed_of_perform _ call
  rcases asked : logged.sink.broker.publish
    ⟨clientId stream, topic stream, line, .exactlyOnce⟩ with ⟨failure | _, broker⟩
  · rw [asked] at inner
    obtain ⟨rfl, sink⟩ := Prod.mk.inj inner
    rw [← counted]
    exact ledger.keep (Broker.publish_error asked) sink.symm opened
      (by rw [handed]; simp [SinkCall.line?, Except.toBool])
  · rw [asked] at inner
    obtain ⟨rfl, sink⟩ := Prod.mk.inj inner
    have published := Broker.publish_ok asked
    refine ⟨?_, fun other => (opened other).trans (ledger.opened other), ?_, ?_, ?_, ?_, counted⟩
    · rw [← sink]
      rfl
    · rw [← sink, published]
      exact ledger.connections
    · rw [← sink, published, handed]
      simp [ledger.payloads, SinkCall.line?, Except.toBool]
    · rw [← sink, published]
      intro message member
      rcases List.mem_append.mp member with old | new
      · exact ledger.addressed message old
      · rw [List.mem_singleton.mp new]
        exact ⟨stream, rfl, rfl⟩
    · rw [← sink, published]
      exact ledger.disconnects

theorem sync (ledger : Ledger logged standing refused) {result : Except Failure Unit}
    (call : SinkCall.perform .synced logged = (result, after)) : Ledger after standing refused := by
  have inner := Logged.inner_of_perform .synced call
  have sink : after.sink =
      ⟨logged.sink.host, logged.sink.port, logged.sink.broker, standing.session⟩ := by
    rw [← ledger.session]
    exact (Prod.mk.inj inner).2.symm
  have kept := ledger.keep ⟨_, _, rfl⟩ sink
    (fun other => by rw [Logged.trace_of_perform _ call]; simp)
    (by rw [Logged.handed_of_perform _ call]; simp [SinkCall.line?])
  rwa [refusals_perform call, ledger.refused] at kept

/-- **The connection is given up once.** -/
theorem part (ledger : Ledger logged (.connected stream) refused) {result : Except Failure Unit}
    (call : SinkCall.perform .closed logged = (result, after)) :
    Ledger after (.parted stream) refused := by
  have inner := Logged.inner_of_perform .closed call
  simp only [SinkCall.perform, Sink.close, close, ledger.session, Standing.session] at inner
  have sink := (Prod.mk.inj inner).2
  refine ⟨by rw [← sink]; rfl, fun other => ?_, ?_, ?_, ?_, ?_, ?_⟩
  · rw [Logged.trace_of_perform _ call]
    simpa [Standing.adopted] using ledger.opened other
  · rw [← sink]
    exact ledger.connections
  · rw [← sink, Logged.handed_of_perform _ call]
    simpa [SinkCall.line?, Broker.disconnect] using ledger.payloads
  · rw [← sink]
    exact ledger.addressed
  · rw [← sink]
    exact congrArg (· + 1) ledger.disconnects
  · rw [refusals_perform call, ledger.refused]
    rfl

end Ledger

end Publisher

end MetricRelay

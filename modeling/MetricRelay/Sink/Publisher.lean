/-
**A sink that publishes each row to a broker.**

A `Broker` accepts connections and messages; the next few of each can be made to fail, and an
unreachable broker accepts no connection at all. A `Publisher` connects once, as the client of its
stream, and sends every line to the topic of the application, to be delivered exactly once.

* `Publisher.topic`: `metrics-` and the application;
* `Publisher.clientId`: application, host name and executor, joined by dashes.
-/

import MetricRelay.Sink.Basic

namespace MetricRelay

/-- How often a broker delivers a message. -/
inductive Delivery where
  | atMostOnce
  | atLeastOnce
  | exactlyOnce
  deriving DecidableEq, Repr

namespace Delivery

/-- The name of a promise. -/
def name : Delivery → String
  | atMostOnce => "at_most_once"
  | atLeastOnce => "at_least_once"
  | exactlyOnce => "exactly_once"

/-- The number of a promise in the protocol. -/
def level : Delivery → Nat
  | atMostOnce => 0
  | atLeastOnce => 1
  | exactlyOnce => 2

/-- The promise with a name. -/
def ofName? (name : String) : Option Delivery :=
  [atMostOnce, atLeastOnce, exactlyOnce].find? fun delivery => delivery.name == name

end Delivery

/-- What a client says when it connects. -/
structure Connection where
  url : String
  host : String
  port : Nat
  clientId : String
  /-- Nothing is kept of an earlier session. -/
  cleanSession : Bool
  deriving DecidableEq, Repr

/-- A message that a broker took. -/
structure Message where
  clientId : String
  topic : String
  payload : String
  delivery : Delivery
  deriving DecidableEq, Repr

/-- A broker: what it accepted so far, and how many of the next requests fail. -/
structure Broker where
  connections : List Connection := []
  messages : List Message := []
  disconnects : Nat := 0
  refuseConnections : Nat := 0
  failPublishes : Nat := 0
  reachable : Bool := true
  deriving DecidableEq, Repr

namespace Broker

/-- Connects to the broker, which counts down the connections that it still refuses. -/
def connect (connection : Connection) (broker : Broker) : Attempt Broker :=
  let refused := Failure.broker ("connection to " ++ connection.url ++ " refused")
  if broker.reachable then
    match broker.refuseConnections with
    | 0 => (.ok (), { broker with connections := broker.connections ++ [connection] })
    | left + 1 => (.error refused, { broker with refuseConnections := left })
  else (.error refused, broker)

/-- Publishes a message, with which the broker counts down its failures. -/
def publish (message : Message) (broker : Broker) : Attempt Broker :=
  match broker.failPublishes with
  | 0 => (.ok (), { broker with messages := broker.messages ++ [message] })
  | left + 1 =>
    (.error (.broker ("publish to " ++ message.topic ++ " failed")),
      { broker with failPublishes := left })

/-- Ends a connection. -/
def disconnect (broker : Broker) : Broker :=
  { broker with disconnects := broker.disconnects + 1 }

end Broker

/-- A connection that is open: who speaks and on which topic. -/
structure Session where
  clientId : String
  topic : String
  deriving DecidableEq, Repr

/-- A sink that publishes to a broker. -/
structure Publisher where
  host : String
  port : Nat
  broker : Broker
  session : Option Session := none
  deriving DecidableEq, Repr

namespace Publisher

/-- The name of the sink in messages. -/
def name : String := "publish"

/-- The topic of a stream: that of its application. -/
def topic (stream : StreamKey) : String :=
  "metrics-" ++ stream.application.text

/-- The name that a stream connects with. -/
def clientId (stream : StreamKey) : String :=
  stream.application.text ++ "-" ++ stream.hostname ++ "-" ++ stream.executor.text

/-- Where the broker is looked for. -/
def url (publisher : Publisher) : String :=
  "tcp://" ++ publisher.host ++ ":" ++ toString publisher.port

/-- What the publisher says when it connects for a stream. -/
def connection (publisher : Publisher) (stream : StreamKey) : Connection :=
  ⟨publisher.url, publisher.host, publisher.port, clientId stream, true⟩

/-- Connects for a stream, unless a connection is open. -/
def openStream (stream : StreamKey) (publisher : Publisher) : Attempt Publisher :=
  match publisher.session with
  | some _ => (.ok (), publisher)
  | none =>
    match publisher.broker.connect (publisher.connection stream) with
    | (.ok (), broker) =>
      (.ok (), { publisher with broker, session := some ⟨clientId stream, topic stream⟩ })
    | (.error failure, broker) =>
      (.error (.sinkRefused name failure.message), { publisher with broker })

/-- Publishes a line as one message that is delivered exactly once. -/
def emit (line : String) (publisher : Publisher) : Attempt Publisher :=
  match publisher.session with
  | none => (.error (.sinkClosed name), publisher)
  | some session =>
    let (result, broker) :=
      publisher.broker.publish ⟨session.clientId, session.topic, line, .exactlyOnce⟩
    (result, { publisher with broker })

/-- There is nothing to make safe: each message was confirmed. -/
def sync (publisher : Publisher) : Attempt Publisher :=
  (.ok (), publisher)

/-- Ends the connection, if there is one. -/
def close (publisher : Publisher) : Attempt Publisher :=
  match publisher.session with
  | none => (.ok (), publisher)
  | some _ => (.ok (), { publisher with broker := publisher.broker.disconnect, session := none })

instance : Sink Publisher := ⟨openStream, emit, sync, close⟩

end Publisher

end MetricRelay

/-
**Who produces a stream of rows.**

A stream belongs to one executor of one application on one host. An application id starts with
`app`, an executor id is a 32-bit whole number kept as it was spelled, and the host tag that marks
every row joins host name and executor by an underscore.
-/

import MetricRelay.Text.Integer

namespace MetricRelay

/-- The id of an application. -/
structure ApplicationId where
  text : String
  deriving DecidableEq, Repr

/-- The id of an executor, as it was spelled. -/
structure ExecutorId where
  text : String
  deriving DecidableEq, Repr

/-- The mark of a row: a host name and an executor. -/
structure HostTag where
  text : String
  deriving DecidableEq, Repr

namespace ApplicationId

/-- What every application id begins with. -/
def mark : List Char := ['a', 'p', 'p']

/-- An application id is a text that starts with the mark. -/
def parse? (text : String) : Option ApplicationId :=
  if mark.isPrefixOf text.toList then some ⟨text⟩ else none

end ApplicationId

namespace ExecutorId

/-- The number fits 32 bits with a sign. -/
def inRange (n : Int) : Bool :=
  -2147483648 ≤ n && n ≤ 2147483647

/-- An executor id is an optional sign and digits, of a value that 32 bits hold. -/
def parse? (text : String) : Option ExecutorId :=
  match Text.integer? text.toList with
  | some n => if inRange n then some ⟨text⟩ else none
  | none => none

end ExecutorId

/-- The tag of an executor on a host. -/
def HostTag.of (hostname : String) (executor : ExecutorId) : HostTag :=
  ⟨hostname ++ "_" ++ executor.text⟩

/-- The stream that a sink is opened for. -/
structure StreamKey where
  application : ApplicationId
  executor : ExecutorId
  hostname : String
  host : HostTag
  deriving DecidableEq, Repr

/-- The stream of an executor of an application, as a host reports it. -/
def StreamKey.of (application : ApplicationId) (executor : ExecutorId) (hostname : String) :
    StreamKey :=
  ⟨application, executor, hostname, HostTag.of hostname executor⟩

end MetricRelay

/-
**What can go wrong, and how it is reported.**

A `Failure` is a cause. Its wording, its numeric code and the exit status of a run that ends with
it are functions of the cause:

* `Failure.headline`: the message without the cause that a lower layer supplied;
* `Failure.message`: the whole message;
* `Failure.code`: a number that groups causes by layer (settings 10, sinks 20, input 30, files 60);
* `Failure.status`: the status of a run that fails with it.
-/

namespace MetricRelay

/-- The ways in which a run ends. -/
inductive ExitStatus where
  | clean
  | partialInput
  | settingsError
  | sinkError
  | inputError
  | fileError
  | internalError
  deriving DecidableEq, Repr

namespace ExitStatus

/-- The number that a run ends with. -/
def code : ExitStatus → Nat
  | clean => 0
  | partialInput => 1
  | settingsError => 10
  | sinkError => 11
  | inputError => 12
  | fileError => 13
  | internalError => 99

/-- The run did what it was asked for, perhaps with lines that were skipped. -/
def isSuccess (status : ExitStatus) : Bool :=
  status == clean || status == partialInput

/-- The run failed. -/
def isError (status : ExitStatus) : Bool :=
  status.code ≥ 10

end ExitStatus

/-- The causes of failure. -/
inductive Failure where
  /-- The settings cannot be used. -/
  | settings (reason : String)
  /-- A text names no unit of time. -/
  | unknownUnit (text : String)
  /-- A filter pattern does not compile. -/
  | invalidPattern (pattern reason : String)
  /-- A sink could not be opened for a stream. -/
  | sinkRefused (sink reason : String)
  /-- A sink was used before a stream was opened on it. -/
  | sinkClosed (sink : String)
  /-- The broker refused a connection or a message. -/
  | broker (reason : String)
  /-- A line of a recording is not a frame. -/
  | malformedFrame (line : Nat) (reason : String)
  /-- A file operation failed at a path. -/
  | fileAt (path reason : String)
  /-- Reading or writing failed. -/
  | file (reason : String)
  /-- A text is not the JSON that was expected. -/
  | json (reason : String)
  deriving DecidableEq, Repr

namespace Failure

/-- The reason supplied by the layer below, for the causes that carry one. -/
def reason? : Failure → Option String
  | malformedFrame _ reason | fileAt _ reason | file reason | json reason => some reason
  | _ => none

/-- The message without the reason supplied by the layer below. -/
def headline : Failure → String
  | settings reason => "configuration error: " ++ reason
  | unknownUnit text => "unknown time unit: " ++ text
  | invalidPattern pattern reason => "invalid filter pattern '" ++ pattern ++ "': " ++ reason
  | sinkRefused sink reason => "failed to open " ++ sink ++ " sink: " ++ reason
  | sinkClosed sink => sink ++ " sink used before open"
  | broker reason => "broker error: " ++ reason
  | malformedFrame line _ => "malformed replay frame at line " ++ toString line
  | fileAt path _ => "I/O error at " ++ path
  | file _ => "I/O error"
  | json _ => "JSON serialization error"

/-- The text of a failure: what went wrong, and why if that is known. -/
def message (failure : Failure) : String :=
  match failure.reason? with
  | some reason => failure.headline ++ ": " ++ reason
  | none => failure.headline

/-- The number of a cause. -/
def code : Failure → Nat
  | settings _ => 10
  | unknownUnit _ => 11
  | invalidPattern _ _ => 12
  | sinkRefused _ _ => 20
  | sinkClosed _ => 21
  | broker _ => 22
  | malformedFrame _ _ => 30
  | fileAt _ _ => 60
  | file _ => 61
  | json _ => 62

/-- The status of a run that fails with this cause. -/
def status : Failure → ExitStatus
  | settings _ | unknownUnit _ | invalidPattern _ _ => .settingsError
  | sinkRefused _ _ | sinkClosed _ | broker _ => .sinkError
  | malformedFrame _ _ | json _ => .inputError
  | fileAt _ _ | file _ => .fileError

/-- Every failure ends a run with an error status. -/
theorem status_isError (failure : Failure) : failure.status.isError = true := by
  cases failure <;> rfl

end Failure

end MetricRelay

/-
**How much is said about a run.**
-/

namespace MetricRelay

/-- The levels of messages, from the rarest on. -/
inductive LogLevel where
  | error
  | info
  | debug
  | trace
  deriving DecidableEq, Repr

namespace LogLevel

/-- The name of a level as it is shown. -/
def name : LogLevel → String
  | error => "error"
  | info => "info"
  | debug => "debug"
  | trace => "trace"

/-- The place of a level among the levels, from the rarest on. -/
def rank : LogLevel → Nat
  | error => 0
  | info => 1
  | debug => 2
  | trace => 3

/-- The level that is asked for by a number of requests for more, unless quiet is asked for. -/
def ofVerbosity (verbosity : Nat) (quiet : Bool) : LogLevel :=
  if quiet then error
  else
    match verbosity with
    | 0 => info
    | 1 => debug
    | _ => trace

end LogLevel

end MetricRelay

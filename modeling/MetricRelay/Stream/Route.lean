/-
**From the name of a metric to its stream and its place in a row.**

A routable name is `application.executor`, then a marker that is dropped, then the path of the
metric inside a row, all joined by dots. Dots at the end of a name count for nothing.

* `Route.parts`: the parts of a name without the empty ones at its end;
* `Route.ofName?`: the stream and the path of a name, for the names that have one.
-/

import MetricRelay.Stream.Identity

namespace MetricRelay

/-- Where a metric goes: its stream, and its path inside a row. -/
structure Route where
  application : ApplicationId
  executor : ExecutorId
  path : List String
  deriving DecidableEq, Repr

namespace Route

/-- The parts without the empty ones at the end. -/
def dropEmptyEnd (parts : List (List Char)) : List (List Char) :=
  (parts.reverse.dropWhile List.isEmpty).reverse

/-- What stands between the dots of a name, up to the last part that is not empty. -/
def parts (name : String) : List String :=
  (dropEmptyEnd (name.toList.splitOn '.')).map String.ofList

/-- Routes a name; `none` for a name without a stream. -/
def ofName? (name : String) : Option Route :=
  match parts name with
  | application :: executor :: rest => do
    let application ← ApplicationId.parse? application
    let executor ← ExecutorId.parse? executor
    return ⟨application, executor, rest.drop 1⟩
  | _ => none

/-- Both lead to one stream, whatever their paths are. -/
def sameStream (first second : Route) : Bool :=
  first.application == second.application && first.executor == second.executor

end Route

end MetricRelay

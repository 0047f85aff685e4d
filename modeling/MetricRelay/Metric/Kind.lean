/-
**The kinds of metrics,** in the order in which a report goes through them.
-/

namespace MetricRelay

/-- The kinds of metrics. -/
inductive MetricKind where
  | gauge
  | counter
  | histogram
  | meter
  | timer
  deriving DecidableEq, Repr

namespace MetricKind

/-- All kinds, in their order. -/
def all : List MetricKind := [gauge, counter, histogram, meter, timer]

/-- The name of a kind, as a filter spells it. -/
def name : MetricKind → String
  | gauge => "gauge"
  | counter => "counter"
  | histogram => "histogram"
  | meter => "meter"
  | timer => "timer"

/-- The kind with a name. -/
def ofName? (name : String) : Option MetricKind :=
  all.find? fun kind => kind.name == name

/-- The place of a kind in the order of reports. -/
def rank : MetricKind → Nat
  | gauge => 0
  | counter => 1
  | histogram => 2
  | meter => 3
  | timer => 4

/-- Every kind is listed. -/
theorem mem_all (kind : MetricKind) : kind ∈ all := by
  cases kind <;> decide

end MetricKind

end MetricRelay

/-
**Units of time, and what is measured in them.**

Rates arrive per second and are reported per some unit; durations arrive in nanoseconds and are
reported in some unit. `TimeUnit.parse?` reads the name of a unit in singular or plural, in any
letter case, with blanks around it.
-/

import MetricRelay.Text.Blank

namespace MetricRelay

/-- The units of time. -/
inductive TimeUnit where
  | nanoseconds
  | microseconds
  | milliseconds
  | seconds
  | minutes
  | hours
  | days
  deriving DecidableEq, Repr

namespace TimeUnit

/-- All units, from the shortest on. -/
def all : List TimeUnit :=
  [nanoseconds, microseconds, milliseconds, seconds, minutes, hours, days]

/-- The name of one of a unit. -/
def singular : TimeUnit → String
  | nanoseconds => "nanosecond"
  | microseconds => "microsecond"
  | milliseconds => "millisecond"
  | seconds => "second"
  | minutes => "minute"
  | hours => "hour"
  | days => "day"

/-- The name of several of a unit. -/
def plural (unit : TimeUnit) : String :=
  unit.singular ++ "s"

/-- The length of a unit. -/
def lengthInNanoseconds : TimeUnit → Nat
  | nanoseconds => 1
  | microseconds => 1000
  | milliseconds => 1000000
  | seconds => 1000000000
  | minutes => 60000000000
  | hours => 3600000000000
  | days => 86400000000000

/-- The length of a unit in seconds, as a double. -/
def inSeconds (unit : TimeUnit) : Float :=
  Float.ofNat unit.lengthInNanoseconds / 1e9

/-- The unit with a name in the plural, spelled exactly so. -/
def ofPlural? (name : String) : Option TimeUnit :=
  all.find? fun unit => unit.plural == name

/-- The unit with a name in the singular or plural, in any letter case and with blanks around it. -/
def parse? (text : String) : Option TimeUnit :=
  let name := Text.lowered (Text.trimmed text)
  all.find? fun unit => unit.plural == name || unit.singular == name

/-- A rate per unit, from a rate per second. -/
def rate (unit : TimeUnit) (perSecond : Float) : Float :=
  perSecond * unit.inSeconds

/-- A duration in units, from nanoseconds. -/
def duration (unit : TimeUnit) (nanos : Float) : Float :=
  nanos / Float.ofNat unit.lengthInNanoseconds

/-- Every unit is listed. -/
theorem mem_all (unit : TimeUnit) : unit ∈ all := by
  cases unit <;> decide

end TimeUnit

/-- The units that a report is written in. -/
structure Units where
  rate : TimeUnit := .seconds
  duration : TimeUnit := .milliseconds
  deriving DecidableEq, Repr

end MetricRelay

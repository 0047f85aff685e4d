/-
**A clock that is set by hand.**

It shows milliseconds in 64 bits, and running past their end starts over at the other one. The
second it shows is rounded toward the past, before the epoch as well.
-/

namespace MetricRelay

/-- A clock that shows milliseconds. -/
structure Clock where
  millis : Int64
  deriving DecidableEq, Repr

namespace Clock

/-- A clock at the beginning of a second. -/
def ofSeconds (seconds : Int64) : Clock :=
  ⟨seconds * 1000⟩

/-- The second that the clock shows. -/
def second (clock : Clock) : Int :=
  clock.millis.toInt / 1000

/-- The clock some milliseconds later, or earlier when they are negative. -/
def advance (clock : Clock) (millis : Int64) : Clock :=
  ⟨clock.millis + millis⟩

end Clock

end MetricRelay

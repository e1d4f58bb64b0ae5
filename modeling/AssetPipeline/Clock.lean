/-
AssetPipeline/Clock.lean

The clock that renders are timed with, and durations.

The readings of a clock are given in advance; the last one repeats.  A duration is
kept by its bits, so that two durations can be compared and shown exactly.
-/
import AssetPipeline.Text.Fixed

namespace AssetPipeline

/-- A clock with given readings, in seconds. -/
structure Clock where
  readings : List Float
  /-- How many readings have been taken. -/
  taken : Nat

namespace Clock

/-- The clock that always shows zero. -/
def still : Clock := ⟨[0.0], 0⟩

/-- The reading that is due: the last one repeats. -/
def current (c : Clock) : Float :=
  match c.readings[c.taken]? with
  | some t => t
  | none => c.readings.getLast?.getD 0.0

/-- The clock after one more reading. -/
def advance (c : Clock) : Clock := { c with taken := c.taken + 1 }

end Clock

/-- A span of time in milliseconds. -/
structure Duration where
  milliseconds : Double
  deriving DecidableEq

namespace Duration

/-- The time between two readings in seconds. -/
def between (start stop : Float) : Duration := ⟨.ofFloat ((stop - start) * 1000)⟩

/-- The duration with two decimal places. -/
def text (d : Duration) : String := Text.Fixed.text d.milliseconds

end Duration

end AssetPipeline

/-!
Points in time with a resolution of one second. The clock stops at its largest value instead of
wrapping, and time never runs backwards between two readings.
-/

namespace MarginLending

/-- Seconds since the epoch. -/
structure Timestamp where
  seconds : Nat
  deriving DecidableEq, Repr

/-- One day in seconds. -/
def secondsInDay : Nat := 24 * 60 * 60

namespace Timestamp

/-- The largest reading of the clock. -/
def maxSeconds : Nat := Nat.pow 2 64 - 1

/-- A later point in time, held at the largest reading. -/
def plus (time : Timestamp) (seconds : Nat) : Timestamp :=
  ⟨min (time.seconds + seconds) maxSeconds⟩

/-- Seconds from an earlier point; zero when the clock did not move forward. -/
def since (time earlier : Timestamp) : Nat :=
  time.seconds - earlier.seconds

/-- Whether one point lies strictly before another. -/
def before (time other : Timestamp) : Bool :=
  decide (time.seconds < other.seconds)

end Timestamp

end MarginLending

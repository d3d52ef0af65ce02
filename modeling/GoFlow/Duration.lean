import GoFlow.Binary64

/-!
# Durations

A clock tells seconds as binary numbers of 64 bits. A duration is the difference of two readings in
milliseconds, and is shown to two places.
-/

namespace GoFlow

/-- A duration. -/
structure Duration where
  milliseconds : Binary64
deriving DecidableEq, Repr

namespace Duration

/-- No time at all. -/
def zero : Duration := ⟨.zero⟩

/-- The duration between two readings of a clock in seconds. -/
def between (start stop : Binary64) : Duration := ⟨(stop.sub start).scale 1000⟩

/-- The milliseconds to two places. -/
def rounded (d : Duration) : Binary64 := d.milliseconds.toPlaces 2

/-- Whether the duration is above one second. -/
def isSlow (d : Duration) : Bool := d.milliseconds.isAbove 1000

end Duration

end GoFlow

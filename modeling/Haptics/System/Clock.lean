/-!
# Deadlines

A clock that only moves forward is read in milliseconds. A wait has a deadline, which must be a reading
that the clock can show.
-/

namespace Haptics.Clock

/-- The last whole second that the clock can show. -/
def lastSecond : Nat := UInt64.size / 2 - 1

/-- The reading `waitMs` milliseconds after `nowMs`, if the clock can show it. -/
def deadline? (nowMs : Nat) (waitMs : UInt64) : Option Nat :=
  let deadline := nowMs + waitMs.toNat
  if deadline / 1000 ≤ lastSecond then some deadline else none

end Haptics.Clock

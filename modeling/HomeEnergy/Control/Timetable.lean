/-!
What happens at regular times, counted from the start: at time zero and then once in every interval.
-/

namespace HomeEnergy.Control

/-- The number of multiples of the interval before a time. -/
def ticksBefore (interval time : Nat) : Nat :=
  if interval = 0 then 0 else (time + interval - 1) / interval

def ticksBetween (interval start stop : Nat) : Nat :=
  ticksBefore interval stop - ticksBefore interval start

/-- The number of control cycles in a stretch of time: the first one begins at once, and each
further one an interval later. -/
def cyclesWithin (interval time : Nat) : Nat := max 1 (ticksBefore interval time)

end HomeEnergy.Control

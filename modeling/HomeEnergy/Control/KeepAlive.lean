import HomeEnergy.Control.Home
import HomeEnergy.Control.Timetable

/-!
The task that gives signs of life to the charger, at regular times and whatever became of the last
one, until it is told to stop.
-/

namespace HomeEnergy.Control

open Bus (Line)
open Device (ChargerRegisters)

/-- The task: its interval and the time since its start in milliseconds. -/
structure KeepAlive where
  interval : Nat
  time : Nat
  isRunning : Bool
deriving DecidableEq, Repr

namespace KeepAlive

variable {τ ω : Type}

def start (interval : Nat) : KeepAlive := ⟨interval, 0, true⟩

/-- A number of signs of life; failures are passed over. -/
def ticks (line : Line τ ω) :
    Nat → Attached ChargerRegisters τ ω Power → Attached ChargerRegisters τ ω Power
  | 0, c => c
  | n + 1, c => ticks line n (c.perform (Device.Charger.keepAlive line)).2

/-- Time passes. A task that runs does what falls into that time. -/
def pass (line : Line τ ω) (milliseconds : Nat)
    (s : KeepAlive × Attached ChargerRegisters τ ω Power) :
    KeepAlive × Attached ChargerRegisters τ ω Power :=
  let (task, c) := s
  let stop := task.time + milliseconds
  let c := if task.isRunning then ticks line (ticksBetween task.interval task.time stop) c else c
  ({ task with time := stop }, c)

def shutDown (t : KeepAlive) : KeepAlive := { t with isRunning := false }

end KeepAlive

end HomeEnergy.Control

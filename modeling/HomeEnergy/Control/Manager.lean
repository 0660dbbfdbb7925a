import HomeEnergy.Control.Publication
import HomeEnergy.Control.Setpoint
import HomeEnergy.Device.Adapter

/-!
The control loop. A cycle polls the devices one after another, reads mode and setpoint off the
panel, stores the new setpoint there, asks it of the charger, and publishes what it has seen.

The panel is shared with the operator, who may write to it between any two of these. A cycle is
therefore given in two forms: as a whole (`Manager.runCycle`), and in single steps (`Cycle.advance`)
that make up the whole when nothing comes between them (`runCycle_eq_steps`).
-/

namespace HomeEnergy.Control

open Device (Source)
open Bus (Fault)

/-- What the control loop needs of the devices of a home, which together have the state `ω`. -/
structure Devices (ω : Type) where
  grid : Source ω GridReading
  charger : Source ω Power
  setMaxCurrent : Current → ω → Except Fault Unit × ω
  heatPump : Source ω Power
  solar : Option (Source ω Power)
  battery : Option (Source ω BatteryReading)

def pollIfPresent {ω ρ : Type} (s : Option (Source ω ρ)) (w : ω) : Option ρ × ω :=
  match s with
  | some s => s.poll w
  | none => (none, w)

/-- The larger world has no part in the poll of a device in it that may not be there. -/
theorem pollIfPresent_within {ω ω' ρ : Type} (s : Option (Source ω ρ)) {get : ω' → ω}
    {set : ω → ω' → ω'} (hget : ∀ x w, get (set x w) = x) (hset : ∀ w, set (get w) w = w)
    (w : ω') :
    pollIfPresent (s.map (·.within get set)) w =
      ((pollIfPresent s (get w)).1, set (pollIfPresent s (get w)).2 w) := by
  cases s with
  | none =>
    show (none, w) = (none, set (get w) w)
    rw [hset]
  | some s => exact s.poll_within hget w

/-- Polls every device once. A device that fails leaves only its own readings out. -/
def Devices.poll {ω : Type} (d : Devices ω) (now : Timestamp) (w : ω) : Snapshot × ω :=
  let (grid, w) := d.grid.poll w
  let (charger, w) := d.charger.poll w
  let (heatPump, w) := d.heatPump.poll w
  let (solar, w) := pollIfPresent d.solar w
  let (battery, w) := pollIfPresent d.battery w
  ({ gridPower := grid.map (·.power)
     gridVoltage := grid.map (·.voltage)
     chargerPower := charger
     heatPumpPower := heatPump
     solarPower := solar
     batteryPower := battery.map (·.power)
     batteryCharge := battery.map (·.stateOfCharge)
     timestamp := now }, w)

/-- The control loop between two steps. -/
structure Manager (ω : Type) where
  panel : Panel
  devices : ω
  latest : Published Snapshot

namespace Manager

variable {ω : Type}

def fresh (limits : CurrentLimits) (devices : ω) (now : Timestamp) : Manager ω :=
  ⟨.fresh limits, devices, .first (.empty now)⟩

/-- One cycle; gives the current that was asked of the charger, whether or not it obeyed. -/
def runCycle (d : Devices ω) (now : Timestamp) (m : Manager ω) : Current × Manager ω :=
  let (snapshot, w) := d.poll now m.devices
  let c := setpoint m.panel.mode m.panel.setpoint snapshot m.panel.limits
  let (_, w) := d.setMaxCurrent c w
  (c, ⟨m.panel.storeSetpoint c, w, m.latest.publish snapshot⟩)

theorem latest_runCycle (d : Devices ω) (now : Timestamp) (m : Manager ω) :
    (m.runCycle d now).2.latest.value = (d.poll now m.devices).1 := rfl

/-- A cycle leaves the devices polled, and asked for the current that it returns. -/
theorem devices_runCycle (d : Devices ω) (now : Timestamp) (m : Manager ω) :
    (m.runCycle d now).2.devices =
      (d.setMaxCurrent (m.runCycle d now).1 (d.poll now m.devices).2).2 := rfl

def runCycles (d : Devices ω) (now : Timestamp) : Nat → Manager ω → Manager ω
  | 0, m => m
  | n + 1, m => runCycles d now n (m.runCycle d now).2

end Manager

/-! ## Single steps -/

/-- How far a cycle has come, and what it has read so far. -/
inductive Cycle where
  | begun
  | polled (snapshot : Snapshot)
  | modeRead (snapshot : Snapshot) (mode : Mode)
  | heldRead (snapshot : Snapshot) (mode : Mode) (held : Current)
  | stored (snapshot : Snapshot) (setpoint : Current)
  | commanded (snapshot : Snapshot) (setpoint : Current)
  | done (setpoint : Current)
deriving DecidableEq

namespace Cycle

variable {ω : Type}

def advance (d : Devices ω) (now : Timestamp) : Cycle × Manager ω → Cycle × Manager ω
  | (.begun, m) =>
    let (snapshot, w) := d.poll now m.devices
    (.polled snapshot, { m with devices := w })
  | (.polled snapshot, m) => (.modeRead snapshot m.panel.mode, m)
  | (.modeRead snapshot mode, m) => (.heldRead snapshot mode m.panel.setpoint, m)
  | (.heldRead snapshot mode held, m) =>
    let c := setpoint mode held snapshot m.panel.limits
    (.stored snapshot c, { m with panel := m.panel.storeSetpoint c })
  | (.stored snapshot c, m) =>
    let (_, w) := d.setMaxCurrent c m.devices
    (.commanded snapshot c, { m with devices := w })
  | (.commanded snapshot c, m) => (.done c, { m with latest := m.latest.publish snapshot })
  | (.done c, m) => (.done c, m)

def steps (d : Devices ω) (now : Timestamp) : Nat → Cycle × Manager ω → Cycle × Manager ω
  | 0, s => s
  | n + 1, s => steps d now n (advance d now s)

/-- Six undisturbed steps are a cycle. -/
theorem runCycle_eq_steps (d : Devices ω) (now : Timestamp) (m : Manager ω) :
    steps d now 6 (.begun, m) =
      (.done (m.runCycle d now).1, (m.runCycle d now).2) :=
  rfl

end Cycle

end HomeEnergy.Control

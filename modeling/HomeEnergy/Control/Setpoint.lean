import HomeEnergy.Binary64.Magnitude
import HomeEnergy.Control.Mode
import HomeEnergy.Control.Snapshot

/-!
The current to ask of the charger. In automatic mode it is the power that the charger draws less the
power that the home takes from the grid, as a current: computed in double precision, then kept
within the limits, and only then rounded to whole amps.
-/

namespace HomeEnergy.Control

open Binary64 (Magnitude)

/-- The power that the charger could draw without anything being taken from the grid. -/
def available (grid charger : Power) : Int := charger.watts.toInt - grid.watts.toInt

/-- A power as a current within the limits; without voltage any current is possible. -/
def limitedCurrent (watts : Nat) (voltage : Voltage) (limits : CurrentLimits) : Current :=
  let raw := Magnitude.ofQuotient watts voltage.volts.toNat
  let limited := (raw.least (.ofNat limits.most.amps.toNat)).greatest
    (.ofNat limits.least.amps.toNat)
  ⟨UInt32.ofNat (limited.nearest?.getD 0)⟩

/-- The current in automatic mode: none unless grid and charger have both been read, the least
current if no power is available, and otherwise as much as the power allows. -/
def automaticSetpoint (s : Snapshot) (limits : CurrentLimits) : Current :=
  match s.gridPower, s.gridVoltage, s.chargerPower with
  | some grid, some voltage, some charger =>
    let watts := available grid charger
    if watts ≤ 0 then limits.least else limitedCurrent watts.toNat voltage limits
  | _, _, _ => .zero

def setpoint (mode : Mode) (held : Current) (s : Snapshot) (limits : CurrentLimits) : Current :=
  match mode with
  | .manual => held
  | .auto => automaticSetpoint s limits

end HomeEnergy.Control

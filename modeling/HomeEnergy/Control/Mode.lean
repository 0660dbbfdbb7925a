import HomeEnergy.Json.Decoder
import HomeEnergy.Quantity

/-!
The operator's hold on the charger: whether its current follows the power that is available or
stays where the operator put it.

The mode and the setpoint are two cells that the control loop and the operator both write to, each
on its own. `setManual?` is made of the two single writes.
-/

namespace HomeEnergy.Control

inductive Mode where
  /-- It follows the power that is available. -/
  | auto
  /-- It stays at the operator's value. -/
  | manual
deriving DecidableEq, Repr

namespace Mode

def name : Mode → String
  | .auto => "auto"
  | .manual => "manual"

def names : List (String × Mode) := [.auto, .manual].map fun m => (m.name, m)

def decode : Json.Decoder Mode := .variant names

end Mode

/-- The currents between which a charger is kept. -/
structure CurrentLimits where
  least : Current
  most : Current
deriving DecidableEq, Repr

def CurrentLimits.default : CurrentLimits := ⟨⟨6⟩, ⟨32⟩⟩

def CurrentLimits.toJson (l : CurrentLimits) : Json :=
  .ofMembers [("min", .ofNat l.least.amps.toNat), ("max", .ofNat l.most.amps.toNat)]

def CurrentLimits.Ordered (l : CurrentLimits) : Prop := l.least.amps ≤ l.most.amps

/-- The mode, the current that was last asked of the charger, and the limits. -/
structure Panel where
  mode : Mode
  setpoint : Current
  limits : CurrentLimits
deriving DecidableEq, Repr

namespace Panel

/-- A panel in automatic mode that has not asked for any current. -/
def fresh (limits : CurrentLimits) : Panel := ⟨.auto, .zero, limits⟩

def toJson (p : Panel) : Json :=
  .ofMembers
    [("mode", .string p.mode.name), ("setpoint", .ofNat p.setpoint.amps.toNat),
      ("min", .ofNat p.limits.least.amps.toNat), ("max", .ofNat p.limits.most.amps.toNat)]

def storeSetpoint (p : Panel) (c : Current) : Panel := { p with setpoint := c }

def storeMode (p : Panel) (m : Mode) : Panel := { p with mode := m }

/-- Goes to automatic mode; the setpoint stays. -/
def setAuto (p : Panel) : Panel := p.storeMode .auto

/-- The current that is held when the operator asks for `c`: zero as it is, to stop charging, and
any other current within the limits; none if there is no current within them. -/
def held? (l : CurrentLimits) (c : Current) : Option Current :=
  if c = .zero then some .zero else c.clamp? l.least l.most

def setManual? (p : Panel) (c : Current) : Option Panel :=
  (held? p.limits c).map fun held => (p.storeSetpoint held).storeMode .manual

end Panel

end HomeEnergy.Control

import HomeEnergy.Control.Manager
import HomeEnergy.Device.Battery
import HomeEnergy.Device.Charger
import HomeEnergy.Device.HeatPump
import HomeEnergy.Device.Solar

/-!
A home: a grid meter, a charger and a heat pump, and perhaps a solar inverter and a battery, each of
them behind its own line.
-/

namespace HomeEnergy.Control

open Bus (Line)
open Device

/-- A device with registers and the world at the other end of its line. -/
structure Attached (κ τ ω ρ : Type) where
  adapter : Adapter κ τ ρ
  world : ω

namespace Attached

variable {κ τ ω ρ α : Type}

def fresh (registers : κ) (world : ω) : Attached κ τ ω ρ := ⟨.fresh registers, world⟩

def source (poll : κ → Bus.Exchange τ ω ρ) : Source (Attached κ τ ω ρ) ρ where
  update a :=
    let (result, adapter, world) := a.adapter.update poll a.world
    (result, ⟨adapter, world⟩)
  reading a := a.adapter.reading

def perform (act : κ → Bus.Exchange τ ω α) (a : Attached κ τ ω ρ) :
    Except Bus.Fault α × Attached κ τ ω ρ :=
  let (result, adapter, world) := a.adapter.perform act a.world
  (result, ⟨adapter, world⟩)

end Attached

structure Lines (τ ω : Type) where
  charger : Line τ ω
  heatPump : Line τ ω
  solar : Option (Line τ ω)
  battery : Option (Line τ ω)

/-- The devices of a home; `γ` is the state of its grid meter. -/
structure Home (γ τ ω : Type) where
  grid : γ
  charger : Attached ChargerRegisters τ ω Power
  heatPump : Attached HeatPumpRegisters τ ω Power
  solar : Attached SolarRegisters τ ω Power
  battery : Attached BatteryRegisters τ ω BatteryReading

namespace Home

variable {γ τ ω : Type}

/-- The devices as the control loop sees them. A solar inverter or battery without a line is not
polled. -/
def devices (grid : Source γ GridReading) (lines : Lines τ ω) : Devices (Home γ τ ω) where
  grid := grid.within Home.grid fun g h => { h with grid := g }
  charger := (Attached.source (Charger.power lines.charger)).within Home.charger
    fun c h => { h with charger := c }
  setMaxCurrent c h :=
    let (result, charger) := h.charger.perform (Charger.setMaxCurrent lines.charger c)
    (result, { h with charger := charger })
  heatPump := (Attached.source (HeatPump.power lines.heatPump)).within Home.heatPump
    fun p h => { h with heatPump := p }
  solar := lines.solar.map fun line =>
    (Attached.source (Solar.power line)).within Home.solar fun s h => { h with solar := s }
  battery := lines.battery.map fun line =>
    (Attached.source (Battery.reading line)).within Home.battery fun b h => { h with battery := b }

end Home

end HomeEnergy.Control

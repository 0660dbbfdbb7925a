import HomeEnergy.Device.Adapter
import HomeEnergy.Json.Decoder
import HomeEnergy.Quantity

/-!
The heat pump. It reports its power in tens of watts.
-/

namespace HomeEnergy.Device

open Bus (Exchange Line)

structure HeatPumpRegisters where
  unitId : UInt8
  /-- Input register: the power in tens of watts, one signed word. -/
  power : UInt16
deriving DecidableEq, Repr

namespace HeatPumpRegisters

def default : HeatPumpRegisters := ⟨1, 50⟩

def fields : Json.Fields HeatPumpRegisters :=
  HeatPumpRegisters.mk
    <$> .withDefault "unit_id" .uint8 default.unitId
    <*> .withDefault "power" .uint16 default.power

def decode : Json.Decoder HeatPumpRegisters := .record "DaikinRegisters" fields

def toJson (r : HeatPumpRegisters) : Json :=
  .ofMembers [("unit_id", .ofNat r.unitId.toNat), ("power", .ofNat r.power.toNat)]

end HeatPumpRegisters

namespace HeatPump

variable {τ ω : Type}

/-- Watts in one unit of the register. -/
def scale : Int32 := 10

def power (line : Line τ ω) (r : HeatPumpRegisters) : Exchange τ ω Power := do
  let words ← line.execute (.readInput r.power 1)
  let tens ← line.decoded "empty power reply" (Bus.int16OfWords? words)
  return ⟨tens.toInt32 * scale⟩

end HeatPump

end HomeEnergy.Device

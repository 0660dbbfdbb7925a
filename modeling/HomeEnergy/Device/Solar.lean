import HomeEnergy.Device.Adapter
import HomeEnergy.Json.Decoder
import HomeEnergy.Quantity

/-!
The solar inverter. An inverter that stands still reports the smallest number there is.
-/

namespace HomeEnergy.Device

open Bus (Exchange Line)

structure SolarRegisters where
  unitId : UInt8
  /-- Input registers: the power, two words. -/
  power : UInt16
deriving DecidableEq, Repr

namespace SolarRegisters

def default : SolarRegisters := ⟨3, 30775⟩

def fields : Json.Fields SolarRegisters :=
  SolarRegisters.mk
    <$> .withDefault "unit_id" .uint8 default.unitId
    <*> .withDefault "power" .uint16 default.power

def decode : Json.Decoder SolarRegisters := .record "SmaSolarRegisters" fields

def toJson (r : SolarRegisters) : Json :=
  .ofMembers [("unit_id", .ofNat r.unitId.toNat), ("power", .ofNat r.power.toNat)]

end SolarRegisters

namespace Solar

variable {τ ω : Type}

/-- Reads the power that the sun gives, which is never negative. -/
def power (line : Line τ ω) (r : SolarRegisters) : Exchange τ ω Power := do
  let words ← line.execute (.readInput r.power 2)
  let watts ← line.decoded "short power reply" (Bus.int32OfWords? words)
  return ⟨max watts 0⟩

end Solar

end HomeEnergy.Device

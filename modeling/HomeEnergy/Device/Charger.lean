import HomeEnergy.Device.Adapter
import HomeEnergy.Json.Decoder
import HomeEnergy.Quantity

/-!
The car charger. It takes a limit for its charging current, and expects a sign of life in a register
of its own every few seconds.
-/

namespace HomeEnergy.Device

open Bus (Exchange Line Operation Word)

structure ChargerRegisters where
  unitId : UInt8
  /-- Input registers: the power, two words. -/
  totalPower : UInt16
  /-- Holding register: the largest charging current in amps. -/
  maxCurrent : UInt16
  /-- Holding register for the sign of life. -/
  keepAlive : UInt16
deriving DecidableEq, Repr

namespace ChargerRegisters

def default : ChargerRegisters := ⟨1, 1020, 5004, 6000⟩

def fields : Json.Fields ChargerRegisters :=
  ChargerRegisters.mk
    <$> .withDefault "unit_id" .uint8 default.unitId
    <*> .withDefault "total_power" .uint16 default.totalPower
    <*> .withDefault "max_current" .uint16 default.maxCurrent
    <*> .withDefault "keep_alive" .uint16 default.keepAlive

def decode : Json.Decoder ChargerRegisters := .record "WebastoRegisters" fields

def toJson (r : ChargerRegisters) : Json :=
  .ofMembers
    [("unit_id", .ofNat r.unitId.toNat), ("total_power", .ofNat r.totalPower.toNat),
      ("max_current", .ofNat r.maxCurrent.toNat), ("keep_alive", .ofNat r.keepAlive.toNat)]

end ChargerRegisters

namespace Charger

variable {τ ω : Type}

def power (line : Line τ ω) (r : ChargerRegisters) : Exchange τ ω Power := do
  let words ← line.execute (.readInput r.totalPower 2)
  let watts ← line.decoded "short total power reply" (Bus.int32OfWords? words)
  return ⟨watts⟩

/-- A current as a register holds it; what does not fit becomes the largest word. -/
def wordOfCurrent (c : Current) : Word := UInt16.ofNat (min c.amps.toNat 65535)

def setMaxCurrent (line : Line τ ω) (c : Current) (r : ChargerRegisters) : Exchange τ ω Unit :=
  line.write (.writeSingle r.maxCurrent (wordOfCurrent c))

def keepAlive (line : Line τ ω) (r : ChargerRegisters) : Exchange τ ω Unit :=
  line.write (.writeSingle r.keepAlive 1)

end Charger

end HomeEnergy.Device

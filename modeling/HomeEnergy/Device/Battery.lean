import HomeEnergy.Control.Snapshot
import HomeEnergy.Device.Adapter

/-!
The battery. Charging and discharging power are reported apart, each with the largest number there
is where it is not available. A power can be asked of the battery once external control has been
enabled.
-/

namespace HomeEnergy.Device

open Bus (Exchange Line)
open Control (BatteryReading)

structure BatteryRegisters where
  unitId : UInt8
  /-- Input registers: the state of charge in percent, two words. -/
  stateOfCharge : UInt16
  /-- Input registers: all energy that was ever charged, four words. -/
  lifetimeCharged : UInt16
  /-- Input registers: the charging power, two words. -/
  chargePower : UInt16
  /-- Input registers: the discharging power, two words. -/
  dischargePower : UInt16
  /-- Holding registers: the power asked for, two words. -/
  powerSetpoint : UInt16
  /-- Holding registers: whether the battery is controlled from outside, two words. -/
  controlMode : UInt16
deriving DecidableEq, Repr

namespace BatteryRegisters

def default : BatteryRegisters := ⟨3, 30845, 31397, 31393, 31395, 40149, 40151⟩

def fields : Json.Fields BatteryRegisters :=
  BatteryRegisters.mk
    <$> .withDefault "unit_id" .uint8 default.unitId
    <*> .withDefault "state_of_charge" .uint16 default.stateOfCharge
    <*> .withDefault "lifetime_charged" .uint16 default.lifetimeCharged
    <*> .withDefault "charge_power" .uint16 default.chargePower
    <*> .withDefault "discharge_power" .uint16 default.dischargePower
    <*> .withDefault "power_setpoint" .uint16 default.powerSetpoint
    <*> .withDefault "control_mode" .uint16 default.controlMode

def decode : Json.Decoder BatteryRegisters := .record "SmaBatteryRegisters" fields

def toJson (r : BatteryRegisters) : Json :=
  .ofMembers
    [("unit_id", .ofNat r.unitId.toNat),
      ("state_of_charge", .ofNat r.stateOfCharge.toNat),
      ("lifetime_charged", .ofNat r.lifetimeCharged.toNat),
      ("charge_power", .ofNat r.chargePower.toNat),
      ("discharge_power", .ofNat r.dischargePower.toNat),
      ("power_setpoint", .ofNat r.powerSetpoint.toNat),
      ("control_mode", .ofNat r.controlMode.toNat)]

end BatteryRegisters

namespace Battery

variable {τ ω : Type}

/-- What a battery reports for a number that is not available. -/
def notAvailable : UInt32 := 0xFFFFFFFF

/-- The value that enables external control. -/
def externalControl : UInt32 := 802

/-- The number reported, zero where it is not available. -/
def reported (n : UInt32) : UInt32 := if n = notAvailable then 0 else n

def number (line : Line τ ω) (address : UInt16) : Exchange τ ω UInt32 := do
  let words ← line.execute (.readInput address 2)
  let n ← line.decoded "short reply" (Bus.uint32OfWords? words)
  return reported n

def amount (line : Line τ ω) (address : UInt16) : Exchange τ ω UInt64 := do
  let words ← line.execute (.readInput address 4)
  line.decoded "short reply" (Bus.uint64OfWords? words)

/-- The power into the battery, kept within what a power can be. -/
def netPower (charging discharging : UInt32) : Power :=
  let net : Int := charging.toNat - discharging.toNat
  ⟨Int32.ofInt (max Int32.minValue.toInt (min net Int32.maxValue.toInt))⟩

/-- Reads the battery, in four requests one after another. -/
def reading (line : Line τ ω) (r : BatteryRegisters) : Exchange τ ω BatteryReading := do
  let stateOfCharge ← number line r.stateOfCharge
  let charging ← number line r.chargePower
  let discharging ← number line r.dischargePower
  let lifetimeCharged ← amount line r.lifetimeCharged
  return {
    power := netPower charging discharging
    stateOfCharge := UInt8.ofNat (min stateOfCharge.toNat 100)
    lifetimeCharged := ⟨lifetimeCharged⟩ }

/-- Enables external control and then asks for a power; positive power charges. -/
def setPower (line : Line τ ω) (p : Power) (r : BatteryRegisters) : Exchange τ ω Unit := do
  line.write (.writeMultiple r.controlMode (Bus.wordsOfUInt32 externalControl))
  line.write (.writeMultiple r.powerSetpoint (Bus.wordsOfInt32 p.watts))

end Battery

end HomeEnergy.Device

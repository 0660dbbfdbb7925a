import HomeEnergy.Json.Decoder
import HomeEnergy.Quantity

/-!
Readings of the devices, and the snapshot of all readings of one control cycle. Each reading of a
snapshot is absent on its own account.
-/

namespace HomeEnergy.Control

structure GridReading where
  power : Power
  voltage : Voltage
deriving DecidableEq, Repr

def GridReading.toJson (r : GridReading) : Json :=
  .ofMembers [("power", .ofInt r.power.watts.toInt), ("voltage", .ofNat r.voltage.volts.toNat)]

structure BatteryReading where
  /-- Positive while the battery is charged. -/
  power : Power
  /-- In percent. -/
  stateOfCharge : UInt8
  /-- All that was ever charged into the battery. -/
  lifetimeCharged : Energy
deriving DecidableEq, Repr

def BatteryReading.toJson (r : BatteryReading) : Json :=
  .ofMembers
    [("power", .ofInt r.power.watts.toInt), ("stateOfCharge", .ofNat r.stateOfCharge.toNat),
      ("lifetimeCharged", .ofNat r.lifetimeCharged.wattHours.toNat)]

/-- The readings of one control cycle. -/
structure Snapshot where
  gridPower : Option Power
  gridVoltage : Option Voltage
  chargerPower : Option Power
  heatPumpPower : Option Power
  solarPower : Option Power
  batteryPower : Option Power
  /-- In percent. -/
  batteryCharge : Option UInt8
  timestamp : Timestamp
deriving DecidableEq, Repr

namespace Snapshot

def empty (now : Timestamp) : Snapshot := ⟨none, none, none, none, none, none, none, now⟩

def decode : Json.Decoder Snapshot :=
  let power : Json.Decoder Power := fun j => (Json.Decoder.int32 j).map Power.mk
  let voltage : Json.Decoder Voltage := fun j => (Json.Decoder.uint32 j).map Voltage.mk
  .record "CombinedState" <|
    Snapshot.mk
      <$> .optional "gridPower" power
      <*> .optional "gridVoltage" voltage
      <*> .optional "chargerPower" power
      <*> .optional "heatPumpPower" power
      <*> .optional "solarPower" power
      <*> .optional "batteryPower" power
      <*> .optional "batteryCharge" .uint8
      <*> .required "timestamp" .moment

/-- The snapshot as a JSON object; absent readings are null. -/
def toJson (s : Snapshot) : Json :=
  let power (p : Option Power) : Json := (p.map fun p => Json.ofInt p.watts.toInt).getD .null
  .ofMembers
    [("gridPower", power s.gridPower),
      ("gridVoltage", (s.gridVoltage.map fun v => Json.ofNat v.volts.toNat).getD .null),
      ("chargerPower", power s.chargerPower),
      ("heatPumpPower", power s.heatPumpPower),
      ("solarPower", power s.solarPower),
      ("batteryPower", power s.batteryPower),
      ("batteryCharge", (s.batteryCharge.map fun c => Json.ofNat c.toNat).getD .null),
      ("timestamp", .string s.timestamp.text)]

end Snapshot

end HomeEnergy.Control

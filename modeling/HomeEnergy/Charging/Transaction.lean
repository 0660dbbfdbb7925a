import HomeEnergy.Json.Basic
import HomeEnergy.Time.Timestamp

/-!
Charging transactions: begun with a meter value, and ended at most with another one.
-/

namespace HomeEnergy.Charging

structure Ending where
  /-- The meter value in watt-hours. -/
  meter : Int32
  time : Timestamp
  reason : Option String
deriving DecidableEq

structure Transaction where
  id : Int32
  chargePointId : String
  connectorId : UInt32
  idTag : String
  /-- The meter value at the start in watt-hours. -/
  meterStart : Int32
  startedAt : Timestamp
  ending : Option Ending
deriving DecidableEq

namespace Transaction

def start (id : Int32) (chargePointId : String) (connectorId : UInt32) (idTag : String)
    (meterStart : Int32) (now : Timestamp) : Transaction :=
  ⟨id, chargePointId, connectorId, idTag, meterStart, now, none⟩

def stop (t : Transaction) (meter : Int32) (reason : Option String) (now : Timestamp) :
    Transaction :=
  { t with ending := some ⟨meter, now, reason⟩ }

def isActive (t : Transaction) : Bool := t.ending.isNone

/-- The energy delivered in watt-hours, once the transaction has ended. -/
def energyConsumed (t : Transaction) : Option Int :=
  t.ending.map fun e => e.meter.toInt - t.meterStart.toInt

def toJson (t : Transaction) : Json :=
  .ofMembers
    [("id", .ofInt t.id.toInt),
      ("chargePointId", .string t.chargePointId),
      ("connectorId", .ofNat t.connectorId.toNat),
      ("idTag", .string t.idTag),
      ("meterStart", .ofInt t.meterStart.toInt),
      ("startedAt", .string t.startedAt.text),
      ("meterStop", (t.ending.map fun e => Json.ofInt e.meter.toInt).getD .null),
      ("stoppedAt", (t.ending.map fun e => Json.string e.time.text).getD .null),
      ("stopReason", ((t.ending.bind Ending.reason).map Json.string).getD .null)]

end Transaction

end HomeEnergy.Charging

import HomeEnergy.Ocpp.Vocabulary
import HomeEnergy.Time.Timestamp

/-!
The state of one connector of a charge point: what it last reported, and the transaction that was
last begun on it.
-/

namespace HomeEnergy.Charging

open Ocpp (ConnectorStatus)

structure Connector where
  id : UInt32
  status : ConnectorStatus
  /-- The error code that was last reported. -/
  errorCode : String
  updatedAt : Timestamp
  transactionId : Option Int32
deriving DecidableEq

namespace Connector

/-- The error code of a connector that has not reported any. -/
def noError : String := "NoError"

/-- A connector of which nothing is known but its number. -/
def fresh (id : UInt32) (now : Timestamp) : Connector :=
  ⟨id, .available, noError, now, none⟩

def beginTransaction (c : Connector) (transactionId : Int32) (now : Timestamp) : Connector :=
  { c with status := .charging, updatedAt := now, transactionId := some transactionId }

def endTransaction (c : Connector) (now : Timestamp) : Connector :=
  { c with status := .available, updatedAt := now, transactionId := none }

/-- The connector reports its status; any change is taken as it comes. -/
def report (c : Connector) (status : ConnectorStatus) (errorCode : String) (now : Timestamp) :
    Connector :=
  { c with status := status, errorCode := errorCode, updatedAt := now }

end Connector

end HomeEnergy.Charging

import HomeEnergy.Charging.Connector
import HomeEnergy.Charging.Transaction
import HomeEnergy.Table

/-!
The session of a connected charge point. It begins with one connection and is not continued by
another.
-/

namespace HomeEnergy.Charging

inductive Registration where
  | pending
  | accepted
deriving DecidableEq, Repr

/-- A request to the charge point that it has not answered yet. -/
structure PendingCall where
  action : String
  sentAt : Timestamp
deriving DecidableEq

structure Session where
  connectionId : UInt64
  chargePointId : String
  connectedAt : Timestamp
  /-- The time of the last heartbeat, to the millisecond. -/
  lastHeartbeat : Timestamp
  registration : Registration
  connectors : Table UInt32 Connector
  /-- The transactions that have not ended, by their ids. -/
  transactions : Table Int32 Transaction
  configuration : Table String String
  /-- The requests that are not answered yet, by their unique ids. -/
  pending : Table String PendingCall
deriving DecidableEq

namespace Session

def fresh (connectionId : UInt64) (chargePointId : String) (now : Timestamp) : Session where
  connectionId := connectionId
  chargePointId := chargePointId
  connectedAt := now
  lastHeartbeat := now.toMillisecond
  registration := .pending
  connectors := .empty
  transactions := .empty
  configuration := .empty
  pending := .empty

def acceptRegistration (s : Session) : Session := { s with registration := .accepted }

def touchHeartbeat (s : Session) (now : Timestamp) : Session :=
  { s with lastHeartbeat := now.toMillisecond }

/-- Whether the last heartbeat is more than the given number of seconds ago. -/
def isStale (s : Session) (timeout : Int) (now : Timestamp) : Bool :=
  timeout < now.secondsSince s.lastHeartbeat

/-- Changes a connector, which begins to exist when it is first spoken of. -/
def updateConnector (s : Session) (id : UInt32) (now : Timestamp) (f : Connector → Connector) :
    Session :=
  { s with
    connectors := s.connectors.put id (f ((s.connectors.get? id).getD (.fresh id now))) }

def addTransaction (s : Session) (t : Transaction) : Session :=
  { s with transactions := s.transactions.put t.id t }

def removeTransaction (s : Session) (id : Int32) : Session :=
  { s with transactions := s.transactions.erase id }

def setConfiguration (s : Session) (key value : String) : Session :=
  { s with configuration := s.configuration.put key value }

def addPending (s : Session) (uniqueId action : String) (now : Timestamp) : Session :=
  { s with pending := s.pending.put uniqueId ⟨action, now⟩ }

/-- Strikes a request off, whether it was noted or not. -/
def removePending (s : Session) (uniqueId : String) : Session :=
  { s with pending := s.pending.erase uniqueId }

end Session

end HomeEnergy.Charging

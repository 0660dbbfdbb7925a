import HomeEnergy.Charging.Session

/-!
The central system: the sessions of the charge points that are connected, the channels on which
messages go out to them, and the two counters from which ids are taken.

A charge point that connects again gets a new session in place of its old one. The old connection
stays open until its own end, but it has no session any more, and its end leaves the new session
alone.
-/

namespace HomeEnergy.Charging

/-- The way out to one connection: the messages that wait to be written, oldest first. -/
structure Channel where
  isOpen : Bool
  queue : List String
deriving DecidableEq

structure Central where
  /-- The session of each charge point that is connected. -/
  sessions : Table String Session
  /-- The sessions that have ended, the last one first. -/
  former : List Session
  /-- The channel of each connection there has been. -/
  channels : Table UInt64 Channel
  nextConnectionId : UInt64
  nextTransactionId : Int32
  /-- Seconds between heartbeats, as charge points are told. -/
  heartbeatInterval : UInt32
deriving DecidableEq

inductive SendFault where
  | notConnected (chargePointId : String)
  | closed
deriving DecidableEq, Repr

def SendFault.message : SendFault → String
  | .notConnected chargePointId => "Charge point " ++ chargePointId ++ " not connected"
  | .closed => "Failed to send message: channel closed"

namespace Central

def defaultHeartbeatInterval : UInt32 := 300

/-- A central system that nobody has connected to. Ids count from one. -/
def fresh (heartbeatInterval : UInt32) : Central where
  sessions := .empty
  former := []
  channels := .empty
  nextConnectionId := 1
  nextTransactionId := 1
  heartbeatInterval := heartbeatInterval

def session? (c : Central) (chargePointId : String) : Option Session :=
  c.sessions.get? chargePointId

def isConnected (c : Central) (chargePointId : String) : Bool :=
  c.sessions.contains chargePointId

def connectedIds (c : Central) : List String := c.sessions.keys

def count (c : Central) : Nat := c.sessions.size

/-- Changes the session of a charge point, if it is connected. -/
def updateSession (c : Central) (chargePointId : String) (f : Session → Session) : Central :=
  match c.session? chargePointId with
  | some session => { c with sessions := c.sessions.put chargePointId (f session) }
  | none => c

/-! ## Connecting -/

/-- A charge point connects. Its id is bound to the new connection from now on. -/
def register (c : Central) (chargePointId : String) (now : Timestamp) : UInt64 × Central :=
  let id := c.nextConnectionId
  (id,
    { c with
      sessions := c.sessions.put chargePointId (.fresh id chargePointId now)
      former := (c.session? chargePointId).toList ++ c.former
      channels := c.channels.put id ⟨true, []⟩
      nextConnectionId := id + 1 })

/-- A connection ends. The session goes if it is this connection's; the answer says whether it
did. -/
def unregister (c : Central) (chargePointId : String) (connectionId : UInt64) : Bool × Central :=
  match c.session? chargePointId with
  | some session =>
    if session.connectionId = connectionId then
      (true,
        { c with sessions := c.sessions.erase chargePointId, former := session :: c.former })
    else (false, c)
  | none => (false, c)

/-- The session of a connection, present or former. -/
def sessionOf? (c : Central) (connectionId : UInt64) : Option Session :=
  (c.sessions.values ++ c.former).find? fun s => s.connectionId = connectionId

/-! ## Sending -/

/-- Puts a message into the queue of a connection, unless its channel is closed. -/
def send (c : Central) (connectionId : UInt64) (message : String) : Except SendFault Central :=
  match c.channels.get? connectionId with
  | some ⟨true, queue⟩ =>
    .ok { c with channels := c.channels.put connectionId ⟨true, queue ++ [message]⟩ }
  | _ => .error .closed

def sendTo (c : Central) (chargePointId : String) (message : String) : Except SendFault Central :=
  match c.session? chargePointId with
  | some session => c.send session.connectionId message
  | none => .error (.notConnected chargePointId)

/-- Closes the channel of a connection; what waits in its queue is dropped. -/
def hangUp (c : Central) (connectionId : UInt64) : Central :=
  if c.channels.contains connectionId then
    { c with channels := c.channels.put connectionId ⟨false, []⟩ }
  else c

def takeQueue (c : Central) (connectionId : UInt64) : List String × Central :=
  match c.channels.get? connectionId with
  | some ⟨isOpen, queue⟩ =>
    (queue, { c with channels := c.channels.put connectionId ⟨isOpen, []⟩ })
  | none => ([], c)

/-! ## Transaction ids -/

def allocateTransactionId (c : Central) : Int32 × Central :=
  (c.nextTransactionId, { c with nextTransactionId := c.nextTransactionId + 1 })

end Central

end HomeEnergy.Charging

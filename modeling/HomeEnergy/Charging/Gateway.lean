import HomeEnergy.Charging.Endpoint
import HomeEnergy.Charging.Routing

/-!
The gateway: the connections of charge points and what happens on them. A frame is taken in for the
charge point that the connection was opened for; its answer goes out on the same connection. The end
of a connection closes its channel and takes away the session if it is still this connection's.
-/

namespace HomeEnergy.Charging

/-- A central system with its records, and the charge point of each open connection. -/
structure Gateway (σ : Type) where
  recorder : Recorder σ
  connections : Table UInt64 String

namespace Gateway

variable {σ : Type}

def fresh (heartbeatInterval : UInt32) (records : σ) : Gateway σ :=
  ⟨⟨.fresh heartbeatInterval, records⟩, .empty⟩

def withCentral (g : Gateway σ) (c : Central) : Gateway σ :=
  { g with recorder := { g.recorder with central := c } }

def connect (g : Gateway σ) (chargePointId : String) (now : Timestamp) : UInt64 × Gateway σ :=
  let (id, c) := g.recorder.central.register chargePointId now
  (id, { g.withCentral c with connections := g.connections.put id chargePointId })

/-- A client asks to connect. Where its path names a charge point it gets a connection, else nothing
changes. -/
def handshake (g : Gateway σ) (path : List Char) (offer : Option String) (now : Timestamp) :
    Endpoint.Answer × Option UInt64 × Gateway σ :=
  match Endpoint.answer path offer with
  | .notFound body => (.notFound body, none, g)
  | .accepted chargePointId protocol =>
    let (id, g) := g.connect chargePointId now
    (.accepted chargePointId protocol, some id, g)

def disconnect (g : Gateway σ) (connectionId : UInt64) : Gateway σ :=
  match g.connections.get? connectionId with
  | none => g
  | some chargePointId =>
    let c := g.recorder.central.hangUp connectionId
    let (_, c) := c.unregister chargePointId connectionId
    { g.withCentral c with connections := g.connections.erase connectionId }

/-- A text frame is read on a connection. If the answer cannot go out the connection ends. -/
def read (g : Gateway σ) (store : RecordStore σ) (connectionId : UInt64) (now : Timestamp)
    (text : String) : Gateway σ :=
  match g.connections.get? connectionId with
  | none => g
  | some chargePointId =>
    let (reply, recorder) := g.recorder.receive store chargePointId now text
    let g := { g with recorder := recorder }
    match reply with
    | none => g
    | some message =>
      match recorder.central.send connectionId message with
      | .ok c => g.withCentral c
      | .error _ => g.disconnect connectionId

/-- Sends a command to a charge point; the answer says whether it is on its way. -/
def command (g : Gateway σ) (chargePointId uniqueId : String) (command : Ocpp.Command)
    (now : Timestamp) : Bool × Gateway σ :=
  let (accepted, c) := g.recorder.central.command chargePointId uniqueId command now
  (accepted, g.withCentral c)

def flush (g : Gateway σ) (connectionId : UInt64) : List String × Gateway σ :=
  let (messages, c) := g.recorder.central.takeQueue connectionId
  (messages, g.withCentral c)

def shutDown (g : Gateway σ) : Gateway σ := g.connections.keys.foldl disconnect g

end Gateway

end HomeEnergy.Charging

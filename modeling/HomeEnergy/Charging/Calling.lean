import HomeEnergy.Charging.Central
import HomeEnergy.Ocpp.Frame
import HomeEnergy.Ocpp.Response

/-!
Requests of the central system to a charge point. A request is noted in the session before it is
queued, so that its answer can never come before the note, and struck off again if it cannot be
queued. Nobody waits for the answer; when it comes the request is struck off.

Other things can happen between the steps of a call. They are listed in `callSteps`, and a call is
what they come to where nothing does (`Central.call_eq_steps`).
-/

namespace HomeEnergy.Charging

open Ocpp (Command Frame)

inductive CallFault where
  | notConnected (chargePointId : String)
  | unwritable (reason : String)
  | notSent (reason : String)
deriving DecidableEq, Repr

def CallFault.message : CallFault → String
  | .notConnected chargePointId => "charge point " ++ chargePointId ++ " not connected"
  | .unwritable reason => "serialization failed: " ++ reason
  | .notSent reason => "failed to send: " ++ reason

namespace Central

/-- Sends a request under the given unique id, which must be a new one. -/
def call (c : Central) (chargePointId uniqueId action : String) (payload : Json)
    (now : Timestamp) : Except CallFault Unit × Central :=
  match c.session? chargePointId with
  | none => (.error (.notConnected chargePointId), c)
  | some session =>
    let noted := c.updateSession chargePointId (·.addPending uniqueId action now)
    match noted.send session.connectionId (Frame.call uniqueId action payload).serialize with
    | .ok sent => (.ok (), sent)
    | .error fault =>
      (.error (.notSent fault.message),
        noted.updateSession chargePointId (·.removePending uniqueId))

/-- Sends a command; the answer says whether it is on its way. -/
def command (c : Central) (chargePointId uniqueId : String) (command : Command)
    (now : Timestamp) : Bool × Central :=
  match c.call chargePointId uniqueId command.action command.payload now with
  | (.ok _, c) => (true, c)
  | (.error _, c) => (false, c)

def settle (c : Central) (chargePointId uniqueId : String) : Central :=
  c.updateSession chargePointId (·.removePending uniqueId)

end Central

/-! ## Single steps -/

/-- A step of a call. The session is looked up once, so all steps concern the session of that
connection, even if it has ended in between. -/
inductive CallStep where
  | note (chargePointId : String) (connectionId : UInt64) (uniqueId action : String)
    (now : Timestamp)
  | send (connectionId : UInt64) (message : String)
  | withdraw (chargePointId : String) (connectionId : UInt64) (uniqueId : String)

namespace Central

/-- Changes the session of a connection where it is, among those that are connected or those that
have ended. -/
def updateHeld (c : Central) (chargePointId : String) (connectionId : UInt64)
    (f : Session → Session) : Central :=
  if (c.session? chargePointId).any (·.connectionId = connectionId) then
    c.updateSession chargePointId f
  else
    { c with former := c.former.map fun s => if s.connectionId = connectionId then f s else s }

/-- What cannot be sent is dropped. -/
def take (c : Central) : CallStep → Central
  | .note cp connectionId id action now => c.updateHeld cp connectionId (·.addPending id action now)
  | .send connectionId message =>
    match c.send connectionId message with
    | .ok c' => c'
    | .error _ => c
  | .withdraw cp connectionId id => c.updateHeld cp connectionId (·.removePending id)

end Central

end HomeEnergy.Charging

import HomeEnergy.Charging.Answering
import HomeEnergy.Charging.Calling

/-!
What becomes of a text that a charge point sends. A request is answered, and so is a text that is no
frame; an answer to one of the central system's own requests strikes that request off and is not
answered.
-/

namespace HomeEnergy.Charging

open Ocpp (Action Frame Request)

inductive Refusal where
  | malformed (reason : String)
  | undecodable (action reason : String)
  | unencodable (action reason : String)
  | unsupported (action : String)
deriving DecidableEq, Repr

namespace Refusal

def message : Refusal → String
  | .malformed reason => "malformed message: " ++ reason
  | .undecodable action reason => action ++ " payload could not be decoded: " ++ reason
  | .unencodable action reason => action ++ " response could not be encoded: " ++ reason
  | .unsupported action => "action " ++ action ++ " is not supported"

def code : Refusal → String
  | .unsupported _ => "NotSupported"
  | _ => "InternalError"

def frame (r : Refusal) (uniqueId : String) : Frame :=
  .errorResponse uniqueId r.code r.message

end Refusal

/-- Decodes the payload of a request by the name of its action. -/
def decodeRequest (action : String) (payload : Json) : Except Refusal Request :=
  match Action.ofName? action with
  | none => .error (.unsupported action)
  | some a =>
    match Request.decode a payload with
    | .ok req => .ok req
    | .error mismatch => .error (.undecodable action mismatch.message)

/-- What a text leads to: the reply, the central system afterwards, and something to be kept. -/
structure Outcome where
  reply : Option Frame
  central : Central
  record : Option Record

namespace Central

def receiveFrame (c : Central) (chargePointId : String) (now : Timestamp) : Frame → Outcome
  | .call uniqueId action payload =>
    match decodeRequest action payload with
    | .error refusal => ⟨some (refusal.frame uniqueId), c, none⟩
    | .ok req =>
      let a := c.answer chargePointId now req
      ⟨some (.callResult uniqueId a.response.payload), a.central, a.record⟩
  | .callResult uniqueId _ => ⟨none, c.settle chargePointId uniqueId, none⟩
  | .callError uniqueId _ _ _ => ⟨none, c.settle chargePointId uniqueId, none⟩

def receive (c : Central) (chargePointId : String) (now : Timestamp) (text : String) : Outcome :=
  match Frame.parse text with
  | .ok frame => c.receiveFrame chargePointId now frame
  | .error fault =>
    let refusal := Refusal.malformed fault.message
    ⟨some (refusal.frame (Frame.recoverUniqueId text)), c, none⟩

end Central

/-- A central system together with the records it has handed over. -/
structure Recorder (σ : Type) where
  central : Central
  records : σ

/-- Takes in a text of a charge point and keeps what there is to keep; whether the store could keep
it makes no difference to anything else. -/
def Recorder.receive {σ : Type} (r : Recorder σ) (store : RecordStore σ) (chargePointId : String)
    (now : Timestamp) (text : String) : Option String × Recorder σ :=
  let o := r.central.receive chargePointId now text
  let records := match o.record with
    | some record => (store.save record r.records).2
    | none => r.records
  (o.reply.map Frame.serialize, ⟨o.central, records⟩)

end HomeEnergy.Charging

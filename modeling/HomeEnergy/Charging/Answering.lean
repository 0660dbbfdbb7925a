import HomeEnergy.Charging.Central
import HomeEnergy.Charging.Record
import HomeEnergy.Ocpp.Request
import HomeEnergy.Ocpp.Response
import HomeEnergy.Text.Blank

/-!
Answering the requests of charge points. Each request is answered and changes the session of the
charge point that sent it. A charge point whose session is gone is answered all the same; only its
session is not changed.
-/

namespace HomeEnergy.Charging

open Ocpp (Response TagStatus)

/-- What a request leads to: the answer, the central system afterwards, and something to be kept. -/
structure Answer where
  response : Response
  central : Central
  record : Option Record

namespace Central

/-- An announcement accepts the charge point and notes who it is. -/
def onBootNotification (c : Central) (chargePointId : String) (now : Timestamp)
    (req : Ocpp.BootNotification) : Answer :=
  let note (s : Session) : Session :=
    let s := s.acceptRegistration.setConfiguration "ChargePointVendor" req.chargePointVendor
    let s := s.setConfiguration "ChargePointModel" req.chargePointModel
    match req.firmwareVersion with
    | some version => s.setConfiguration "FirmwareVersion" version
    | none => s
  ⟨.bootNotification now c.heartbeatInterval, c.updateSession chargePointId note, none⟩

def onHeartbeat (c : Central) (chargePointId : String) (now : Timestamp) : Answer :=
  ⟨.heartbeat now, c.updateSession chargePointId (·.touchHeartbeat now), none⟩

/-- Every tag that is not blank is accepted. -/
def tagStatus (idTag : String) : TagStatus :=
  if (Text.trim idTag.toList).isEmpty then .invalid else .accepted

def onAuthorize (c : Central) (req : Ocpp.Authorize) : Answer :=
  ⟨.authorize (tagStatus req.idTag), c, none⟩

/-- A transaction begins under a new id, which is used up whether or not there is a session. -/
def onStartTransaction (c : Central) (chargePointId : String) (now : Timestamp)
    (req : Ocpp.StartTransaction) : Answer :=
  let (id, c) := c.allocateTransactionId
  let t := Transaction.start id chargePointId req.connectorId req.idTag req.meterStart now
  let note (s : Session) : Session :=
    (s.addTransaction t).updateConnector req.connectorId now (·.beginTransaction id now)
  ⟨.startTransaction id .accepted, c.updateSession chargePointId note, none⟩

/-- The transaction of an id ends, if it belongs to the charge point's session; the request is
accepted in any case. -/
def onStopTransaction (c : Central) (chargePointId : String) (now : Timestamp)
    (req : Ocpp.StopTransaction) : Answer :=
  match (c.session? chargePointId).bind (·.transactions.get? req.transactionId) with
  | some t =>
    let note (s : Session) : Session :=
      (s.removeTransaction req.transactionId).updateConnector t.connectorId now
        (·.endTransaction now)
    ⟨.stopTransaction .accepted, c.updateSession chargePointId note,
      some (.transaction (t.stop req.meterStop (req.reason.map Ocpp.StopReason.name) now))⟩
  | none => ⟨.stopTransaction .accepted, c, none⟩

def onStatusNotification (c : Central) (chargePointId : String) (now : Timestamp)
    (req : Ocpp.StatusNotification) : Answer :=
  let note (s : Session) : Session :=
    s.updateConnector req.connectorId now (·.report req.status req.errorCode.name now)
  ⟨.statusNotification, c.updateSession chargePointId note, none⟩

/-- What a value measures if it does not say so. -/
def defaultMeasurand : Ocpp.Measurand := .energyActiveImportRegister

/-- The samples of one meter value, each with the time of the whole. -/
def samples (v : Ocpp.MeterValue) : List MeterSample :=
  v.sampledValue.map fun s =>
    { timestamp := v.timestamp
      measurand := (s.measurand.getD defaultMeasurand).name
      value := s.value
      unit := s.unit.map Ocpp.Measure.name }

def onMeterValues (c : Central) (chargePointId : String) (req : Ocpp.MeterValues) : Answer :=
  ⟨.meterValues, c,
    some (.meterValues
      ⟨chargePointId, req.connectorId, req.transactionId, req.meterValue.flatMap samples⟩)⟩

def answer (c : Central) (chargePointId : String) (now : Timestamp) : Ocpp.Request → Answer
  | .bootNotification req => c.onBootNotification chargePointId now req
  | .heartbeat => c.onHeartbeat chargePointId now
  | .authorize req => c.onAuthorize req
  | .startTransaction req => c.onStartTransaction chargePointId now req
  | .stopTransaction req => c.onStopTransaction chargePointId now req
  | .statusNotification req => c.onStatusNotification chargePointId now req
  | .meterValues req => c.onMeterValues chargePointId req
  | .dataTransfer _ => ⟨.dataTransfer, c, none⟩

end Central

end HomeEnergy.Charging

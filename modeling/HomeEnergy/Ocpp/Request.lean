import HomeEnergy.Json.Decoder
import HomeEnergy.Ocpp.Vocabulary

/-!
The requests that a charge point sends, and how their payloads are decoded. No length limits are
placed on the texts.
-/

namespace HomeEnergy.Ocpp

open Json (Decoder Fields)

structure Authorize where
  idTag : String
deriving DecidableEq

/-- The announcement of a charge point that has started. -/
structure BootNotification where
  chargeBoxSerialNumber : Option String
  chargePointModel : String
  chargePointSerialNumber : Option String
  chargePointVendor : String
  firmwareVersion : Option String
  iccid : Option String
  imsi : Option String
  meterSerialNumber : Option String
  meterType : Option String
deriving DecidableEq

/-- A message that only its vendor understands. -/
structure DataTransfer where
  vendorId : String
  messageId : Option String
  data : Option String
deriving DecidableEq

/-- One value of a meter, as text. -/
structure SampledValue where
  value : String
  context : Option ReadingContext
  format : Option ValueFormat
  measurand : Option Measurand
  phase : Option Phase
  location : Option Location
  unit : Option Measure
deriving DecidableEq

/-- The values of a meter at one time. -/
structure MeterValue where
  timestamp : Timestamp
  sampledValue : List SampledValue
deriving DecidableEq

structure MeterValues where
  connectorId : UInt32
  transactionId : Option Int32
  meterValue : List MeterValue
deriving DecidableEq

structure StartTransaction where
  connectorId : UInt32
  idTag : String
  meterStart : Int32
  reservationId : Option Int32
  timestamp : Timestamp
deriving DecidableEq

structure StatusNotification where
  connectorId : UInt32
  errorCode : ErrorCode
  info : Option String
  status : ConnectorStatus
  timestamp : Option Timestamp
  vendorId : Option String
  vendorErrorCode : Option String
deriving DecidableEq

structure StopTransaction where
  idTag : Option String
  meterStop : Int32
  timestamp : Timestamp
  transactionId : Int32
  reason : Option StopReason
  transactionData : Option (List MeterValue)
deriving DecidableEq

/-! ## Payloads -/

def Authorize.decode : Decoder Authorize :=
  .record "AuthorizeRequest" (Authorize.mk <$> .required "idTag" .text)

def BootNotification.decode : Decoder BootNotification :=
  .record "BootNotificationRequest" <|
    BootNotification.mk
      <$> .optional "chargeBoxSerialNumber" .text
      <*> .required "chargePointModel" .text
      <*> .optional "chargePointSerialNumber" .text
      <*> .required "chargePointVendor" .text
      <*> .optional "firmwareVersion" .text
      <*> .optional "iccid" .text
      <*> .optional "imsi" .text
      <*> .optional "meterSerialNumber" .text
      <*> .optional "meterType" .text

def DataTransfer.decode : Decoder DataTransfer :=
  .record "DataTransferRequest" <|
    DataTransfer.mk
      <$> .required "vendorId" .text
      <*> .optional "messageId" .text
      <*> .optional "data" .text

def SampledValue.decode : Decoder SampledValue :=
  .record "SampledValue" <|
    SampledValue.mk
      <$> .required "value" .text
      <*> .optional "context" (.variant ReadingContext.names)
      <*> .optional "format" (.variant ValueFormat.names)
      <*> .optional "measurand" (.variant Measurand.names)
      <*> .optional "phase" (.variant Phase.names)
      <*> .optional "location" (.variant Location.names)
      <*> .optional "unit" (.variant Measure.names)

def MeterValue.decode : Decoder MeterValue :=
  .record "MeterValue" <|
    MeterValue.mk
      <$> .required "timestamp" .moment
      <*> .required "sampledValue" (.listOf SampledValue.decode)

def MeterValues.decode : Decoder MeterValues :=
  .record "MeterValuesRequest" <|
    MeterValues.mk
      <$> .required "connectorId" .uint32
      <*> .optional "transactionId" .int32
      <*> .required "meterValue" (.listOf MeterValue.decode)

def StartTransaction.decode : Decoder StartTransaction :=
  .record "StartTransactionRequest" <|
    StartTransaction.mk
      <$> .required "connectorId" .uint32
      <*> .required "idTag" .text
      <*> .required "meterStart" .int32
      <*> .optional "reservationId" .int32
      <*> .required "timestamp" .moment

def StatusNotification.decode : Decoder StatusNotification :=
  .record "StatusNotificationRequest" <|
    StatusNotification.mk
      <$> .required "connectorId" .uint32
      <*> .required "errorCode" (.variant ErrorCode.names)
      <*> .optional "info" .text
      <*> .required "status" (.variant ConnectorStatus.names)
      <*> .optional "timestamp" .moment
      <*> .optional "vendorId" .text
      <*> .optional "vendorErrorCode" .text

def StopTransaction.decode : Decoder StopTransaction :=
  .record "StopTransactionRequest" <|
    StopTransaction.mk
      <$> .optional "idTag" .text
      <*> .required "meterStop" .int32
      <*> .required "timestamp" .moment
      <*> .required "transactionId" .int32
      <*> .optional "reason" (.variant StopReason.names)
      <*> .optional "transactionData" (.listOf MeterValue.decode)

/-! ## Actions -/

/-- The actions that a charge point may ask for. -/
inductive Action where
  | bootNotification
  | heartbeat
  | authorize
  | startTransaction
  | stopTransaction
  | statusNotification
  | meterValues
  | dataTransfer
deriving DecidableEq, Repr

def Action.name : Action → String
  | .bootNotification => "BootNotification"
  | .heartbeat => "Heartbeat"
  | .authorize => "Authorize"
  | .startTransaction => "StartTransaction"
  | .stopTransaction => "StopTransaction"
  | .statusNotification => "StatusNotification"
  | .meterValues => "MeterValues"
  | .dataTransfer => "DataTransfer"

def Action.all : List Action :=
  [.bootNotification, .heartbeat, .authorize, .startTransaction, .stopTransaction,
    .statusNotification, .meterValues, .dataTransfer]

def Action.ofName? (name : String) : Option Action := all.find? fun a => a.name = name

inductive Request where
  | bootNotification (payload : BootNotification)
  | heartbeat
  | authorize (payload : Authorize)
  | startTransaction (payload : StartTransaction)
  | stopTransaction (payload : StopTransaction)
  | statusNotification (payload : StatusNotification)
  | meterValues (payload : MeterValues)
  | dataTransfer (payload : DataTransfer)
deriving DecidableEq

def Request.decode : Action → Decoder Request
  | .bootNotification => fun j => (BootNotification.decode j).map .bootNotification
  | .heartbeat => .record "HeartbeatRequest" (.just .heartbeat)
  | .authorize => fun j => (Authorize.decode j).map .authorize
  | .startTransaction => fun j => (StartTransaction.decode j).map .startTransaction
  | .stopTransaction => fun j => (StopTransaction.decode j).map .stopTransaction
  | .statusNotification => fun j => (StatusNotification.decode j).map .statusNotification
  | .meterValues => fun j => (MeterValues.decode j).map .meterValues
  | .dataTransfer => fun j => (DataTransfer.decode j).map .dataTransfer

end HomeEnergy.Ocpp

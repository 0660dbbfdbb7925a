import HomeEnergy.Json.Basic
import HomeEnergy.Time.Timestamp

/-!
The answers to the requests of a charge point, and the requests that the central system itself
sends. Parts that are not given are not written.
-/

namespace HomeEnergy.Ocpp

/-- Whether an id tag may charge. -/
inductive TagStatus where
  | accepted
  | invalid
deriving DecidableEq, Repr

def TagStatus.name : TagStatus → String
  | .accepted => "Accepted"
  | .invalid => "Invalid"

inductive Response where
  | bootNotification (currentTime : Timestamp) (interval : UInt32)
  | heartbeat (currentTime : Timestamp)
  | authorize (status : TagStatus)
  | startTransaction (transactionId : Int32) (status : TagStatus)
  | stopTransaction (status : TagStatus)
  | statusNotification
  | meterValues
  | dataTransfer
deriving DecidableEq

def tagInfo (status : TagStatus) : String × Json :=
  ("idTagInfo", .object [("status", .string status.name)])

def Response.payload : Response → Json
  | .bootNotification currentTime interval =>
    .ofMembers
      [("currentTime", .string currentTime.text), ("interval", .ofNat interval.toNat),
        ("status", .string "Accepted")]
  | .heartbeat currentTime => .ofMembers [("currentTime", .string currentTime.text)]
  | .authorize status => .ofMembers [tagInfo status]
  | .startTransaction transactionId status =>
    .ofMembers [("transactionId", .ofInt transactionId.toInt), tagInfo status]
  | .stopTransaction status => .ofMembers [tagInfo status]
  | .statusNotification => .ofMembers []
  | .meterValues => .ofMembers []
  | .dataTransfer => .ofMembers [("status", .string "Accepted")]

/-- How thoroughly a charge point restarts: its software alone, or with a power cycle. -/
inductive ResetKind where
  | soft
  | hard
deriving DecidableEq, Repr

def ResetKind.name : ResetKind → String
  | .soft => "Soft"
  | .hard => "Hard"

/-- A request of the central system to a charge point. -/
inductive Command where
  | remoteStart (idTag : String) (connectorId : Option UInt32)
  | remoteStop (transactionId : Int32)
  | reset (kind : ResetKind)
deriving DecidableEq, Repr

def Command.action : Command → String
  | .remoteStart _ _ => "RemoteStartTransaction"
  | .remoteStop _ => "RemoteStopTransaction"
  | .reset _ => "Reset"

def Command.payload : Command → Json
  | .remoteStart idTag connectorId =>
    .ofMembers <|
      ("idTag", .string idTag) ::
        match connectorId with
        | some id => [("connectorId", .ofNat id.toNat)]
        | none => []
  | .remoteStop transactionId => .ofMembers [("transactionId", .ofInt transactionId.toInt)]
  | .reset kind => .ofMembers [("type", .string kind.name)]

end HomeEnergy.Ocpp

import HomeEnergy.Json.Parser
import HomeEnergy.Json.Printer

/-!
OCPP-J frames: the three kinds of message, their reading from JSON text and their written form,
and the unique id that can still be made out in a text that is no frame.
-/

namespace HomeEnergy.Ocpp

/-- A message: a request, its answer, or the report that it failed. -/
inductive Frame where
  | call (uniqueId action : String) (payload : Json)
  | callResult (uniqueId : String) (payload : Json)
  | callError (uniqueId code description : String) (details : Json)
deriving DecidableEq

namespace Frame

/-- A field of a frame whose kind of value is fixed. -/
inductive Field where
  | uniqueId
  | action
  | payload
deriving DecidableEq, Repr

def Field.requirement : Field → String
  | .uniqueId => "uniqueId must be a string"
  | .action => "action must be a string"
  | .payload => "payload must be an object"

inductive Fault where
  | invalidJson (fault : Json.Fault)
  | notAnArray
  | missingFields (expected got : Nat)
  | invalidMessageType
  | unknownMessageType (type : Nat)
  | fieldMismatch (field : Field)
deriving DecidableEq, Repr

def Fault.message : Fault → String
  | .invalidJson fault => "Invalid JSON: " ++ fault.message
  | .notAnArray => "OCPP message is not a JSON array"
  | .missingFields expected got =>
    "Expected at least " ++ Text.natText expected ++ " fields, got " ++ Text.natText got
  | .invalidMessageType => "Message type is not a number"
  | .unknownMessageType type => "Unknown message type: " ++ Text.natText type
  | .fieldMismatch field => "Field type mismatch: " ++ field.requirement

/-- The id that ties an answer to its request. -/
def uniqueId : Frame → String
  | .call id _ _ => id
  | .callResult id _ => id
  | .callError id _ _ _ => id

def isCall : Frame → Bool
  | .call _ _ _ => true
  | _ => false

def errorResponse (id code description : String) : Frame :=
  .callError id code description (.object [])

/-- The largest message type number that is told apart from a value that is no number. -/
def largestMessageType : Nat := UInt64.size - 1

def messageType? : Json → Option Nat
  | .number n =>
    match n.natural? with
    | some t => if t ≤ largestMessageType then some t else none
    | none => none
  | _ => none

def text? : Json → Option String
  | .string s => some s
  | _ => none

/-- Reads a request from the fields after its id; a missing payload is the empty object. -/
def callOfFields (id : String) (action : Json) (rest : List Json) : Except Fault Frame :=
  match text? action with
  | none => .error (.fieldMismatch .action)
  | some action =>
    match rest with
    | [] => .ok (.call id action (.object []))
    | .object members :: _ => .ok (.call id action (.object members))
    | _ :: _ => .error (.fieldMismatch .payload)

/-- Reads an error report from the fields after its id; whatever is missing has a default. -/
def callErrorOfFields (id : String) (code : Json) (rest : List Json) : Frame :=
  .callError id ((text? code).getD "InternalError")
    (((rest[0]?).bind text?).getD "") ((rest[1]?).getD (.object []))

def ofJson : Json → Except Fault Frame
  | .array items =>
    match items with
    | type :: id :: third :: rest =>
      match messageType? type with
      | none => .error .invalidMessageType
      | some type =>
        match text? id with
        | none => .error (.fieldMismatch .uniqueId)
        | some id =>
          if type = 2 then callOfFields id third rest
          else if type = 3 then .ok (.callResult id third)
          else if type = 4 then .ok (callErrorOfFields id third rest)
          else .error (.unknownMessageType type)
    | few => .error (.missingFields 3 few.length)
  | _ => .error .notAnArray

def parse (text : String) : Except Fault Frame :=
  match Json.parse text with
  | .error fault => .error (.invalidJson fault)
  | .ok j => ofJson j

def toJson : Frame → Json
  | .call id action payload => .array [.ofNat 2, .string id, .string action, payload]
  | .callResult id payload => .array [.ofNat 3, .string id, payload]
  | .callError id code description details =>
    .array [.ofNat 4, .string id, .string code, .string description, details]

def serialize (f : Frame) : String := f.toJson.render

/-- The id for a text in which none can be made out. -/
def unknownId : String := "unknown"

/-- The second item of an array where it is a string, or a number as it is written. -/
def idOfJson : Json → String
  | .array (_ :: .string s :: _) => s
  | .array (_ :: .number n :: _) => String.ofList n.text
  | _ => unknownId

/-- The id to answer a text with, whether or not it is a frame. -/
def recoverUniqueId (text : String) : String :=
  match Json.parse text with
  | .error _ => unknownId
  | .ok j => idOfJson j

end Frame

end HomeEnergy.Ocpp

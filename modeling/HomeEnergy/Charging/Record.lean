import HomeEnergy.Charging.Transaction
import HomeEnergy.Table

/-!
What the central system hands over to be kept, finished transactions and meter values, and the
places that take it. A store answers whether it could keep a record; it decides nothing else.
-/

namespace HomeEnergy.Charging

structure MeterSample where
  timestamp : Timestamp
  measurand : String
  value : String
  unit : Option String
deriving DecidableEq

/-- The meter values that were reported for a connector. -/
structure MeterRecord where
  chargePointId : String
  connectorId : UInt32
  transactionId : Option Int32
  samples : List MeterSample
deriving DecidableEq

def MeterSample.toJson (s : MeterSample) : Json :=
  .ofMembers
    [("timestamp", .string s.timestamp.text), ("measurand", .string s.measurand),
      ("value", .string s.value), ("unit", (s.unit.map Json.string).getD .null)]

def MeterRecord.toJson (r : MeterRecord) : Json :=
  .ofMembers
    [("chargePointId", .string r.chargePointId),
      ("connectorId", .ofNat r.connectorId.toNat),
      ("transactionId", (r.transactionId.map fun id => Json.ofInt id.toInt).getD .null),
      ("samples", .array (r.samples.map MeterSample.toJson))]

inductive Record where
  | transaction (t : Transaction)
  | meterValues (r : MeterRecord)
deriving DecidableEq

inductive StoreFault where
  | unavailable (reason : String)
deriving DecidableEq, Repr

def StoreFault.message : StoreFault → String
  | .unavailable reason => "storage backend unavailable: " ++ reason

/-- A place for records, with contents `σ`. -/
structure RecordStore (σ : Type) where
  save : Record → σ → Except StoreFault Unit × σ

namespace RecordStore

def discarding {σ : Type} : RecordStore σ := ⟨fun _ s => (.ok (), s)⟩

def failing (reason : String) : RecordStore Unit :=
  ⟨fun _ s => (.error (.unavailable reason), s)⟩

end RecordStore

/-- The records kept in memory: transactions by their id, meter values in the order of arrival. -/
structure History where
  transactions : Table Int32 Transaction
  meterValues : List MeterRecord

namespace History

def empty : History := ⟨.empty, []⟩

/-- Keeps a record; a transaction takes the place of an earlier one with its id. -/
def add (h : History) : Record → History
  | .transaction t => { h with transactions := h.transactions.put t.id t }
  | .meterValues r => { h with meterValues := h.meterValues ++ [r] }

end History

def RecordStore.memory : RecordStore History := ⟨fun r h => (.ok (), h.add r)⟩

end HomeEnergy.Charging

import HomeEnergy.Binary64.Scaled
import HomeEnergy.Control.Snapshot
import HomeEnergy.Json.Skimming

/-!
The report of a grid meter: a JSON object, or an array that holds the values in order. Only the
values that have a name here are read; everything else in the report is passed over.
-/

namespace HomeEnergy.Device

open Control (GridReading)
open Json (skipSpace)

/-- A value of a report: its sign, and its size without what is behind the point. -/
structure Quantity where
  negative : Bool
  size : Nat
deriving DecidableEq, Repr

namespace Quantity

def toInt32 (q : Quantity) : Int32 :=
  if q.negative then Int32.ofInt (max Int32.minValue.toInt (-(q.size : Int)))
  else Int32.ofInt (min (q.size : Int) Int32.maxValue.toInt)

def toUInt32 (q : Quantity) : UInt32 :=
  if q.negative then 0 else UInt32.ofNat (min q.size (UInt32.size - 1))

/-- The value of a number in double precision; none if it is too large. -/
def ofNumber? (n : Json.Number) : Option Quantity := do
  let m ← Binary64.Decimal.hurried? n.whole n.fraction n.exponent
  some ⟨n.negative, ← m.floor?⟩

def read? (cs : List Char) : Option (Quantity × List Char) := do
  let (n, rest) ← (Json.numberLiteral (skipSpace cs)).toOption
  some (← ofNumber? n, rest.1)

end Quantity

namespace Report

/-- The names of the values; the last two need not be there. -/
def fields : List String :=
  ["active_power_w", "active_voltage_l1_v", "active_voltage_l2_v", "active_voltage_l3_v"]

def required : Nat := 2

/-- The values read so far, by their places among the fields. -/
abbrev Values := List (Nat × Option Quantity)

/-- Reads the value of a field; one that need not be there may be null. -/
def value? (field : Nat) (cs : List Char) : Option (Option Quantity × List Char) :=
  let number := (Quantity.read? cs).map fun (q, rest) => (some q, rest)
  match skipSpace cs with
  | 'n' :: rest =>
    if required ≤ field then
      (Json.word "ull".toList rest).toOption.map fun rest => (none, rest.1)
    else none
  | _ => number

/-- Reads the members of an object from the opening quote of a key on, up to its closing brace. -/
def members? : (steps : Nat) → Values → List Char → Option (Values × List Char)
  | 0, _, _ => none
  | steps + 1, read, cs =>
    match skipSpace cs with
    | '"' :: rest => do
      let (key, rest) ← (Json.memberKey rest).toOption
      let (read, rest) ← match fields.idxOf? key with
        | some field =>
          if read.any (·.1 = field) then none
          else (value? field rest.1).map fun (v, rest) => ((field, v) :: read, rest)
        | none => (Json.skimValue rest.1).map (read, ·)
      match skipSpace rest with
      | ',' :: rest => members? steps read rest
      | '\x7d' :: rest => some (read, rest)
      | _ => none
    | _ => none

/-- Reads the items of an array from the given field on, up to its closing bracket. -/
def items? : (fields : List Nat) → Values → List Char → Option (Values × List Char)
  | [], _, _ => none
  | field :: fields, read, cs => do
    let (v, rest) ← value? field cs
    match skipSpace rest with
    | ',' :: rest => items? fields ((field, v) :: read) rest
    | ']' :: rest => some ((field, v) :: read, rest)
    | _ => none

def values? (cs : List Char) : Option (Values × List Char) :=
  match skipSpace cs with
  | '\x7b' :: rest => members? rest.length [] rest
  | '[' :: rest => items? (List.range fields.length) [] rest
  | _ => none

def read? (body : String) : Option GridReading := do
  let (values, rest) ← values? body.toList
  if !(skipSpace rest).isEmpty then none
  else
    let power ← (← values.lookup 0)
    let voltage ← (← values.lookup 1)
    some ⟨⟨power.toInt32⟩, ⟨voltage.toUInt32⟩⟩

end Report

end HomeEnergy.Device

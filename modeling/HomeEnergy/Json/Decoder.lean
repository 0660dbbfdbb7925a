import HomeEnergy.Json.Basic
import HomeEnergy.Text.Quoted
import HomeEnergy.Time.Reader

/-!
Decoding JSON values into typed data.

A record is decoded from an object or from an array that holds its fields in order. Of an object the
members are looked at in the order of their keys and the first one that does not fit is the fault;
a field that is missing is noticed after that, in the order in which the record declares its fields.
-/

namespace HomeEnergy.Json

/-- A range of integers that a number may be decoded into. -/
structure Width where
  isSigned : Bool
  bits : Nat
deriving DecidableEq, Repr

def Width.signed (bits : Nat) : Width := ⟨true, bits⟩

def Width.unsigned (bits : Nat) : Width := ⟨false, bits⟩

def Width.name (w : Width) : String :=
  (if w.isSigned then "i" else "u") ++ Text.natText w.bits

/-- The value of a number that lies in a range. A range of natural numbers refuses a minus sign even
before zero. -/
def Width.read? (w : Width) (n : Number) : Option Int :=
  if w.isSigned then
    let half : Nat := 1 <<< (w.bits - 1)
    n.integer?.filter fun v => -(half : Int) ≤ v ∧ v < half
  else (n.natural?.filter (· < 1 <<< w.bits)).map Int.ofNat

/-- What a decoder can take. -/
inductive Wanted where
  | text
  | list
  | integer (width : Width)
  | variant
  | nothing
  | moment
  | record (name : String)
deriving DecidableEq, Repr

def Wanted.words : Wanted → String
  | .text => "a string"
  | .list => "a sequence"
  | .integer width => width.name
  | .variant => "string or map"
  | .nothing => "unit"
  | .moment => "an RFC 3339 formatted date and time string"
  | .record name => "struct " ++ name

/-- The kind of a value in words; truth values and strings are shown. -/
def kindText : Json → String
  | .null => "null"
  | .bool true => "boolean `true`"
  | .bool false => "boolean `false`"
  | .number _ => "number"
  | .string s => "string " ++ Text.quoted s
  | .array _ => "sequence"
  | .object _ => "map"

inductive Mismatch where
  | wrongKind (found : Json) (wanted : Wanted)
  | invalidNumber
  | unknownVariant (given : String) (known : List String)
  | severalKeys
  | missingField (name : String)
  | tooFewItems (got : Nat) (record : String) (fields : Nat)
  | tooManyItems (got : Nat)
  | invalidMoment (fault : Timestamp.Fault)
deriving DecidableEq

/-- The names that were possible: one, either of two, or one of several. -/
def alternatives : List String → String
  | [] => "there are no variants"
  | [a] => "expected `" ++ a ++ "`"
  | [a, b] => "expected `" ++ a ++ "` or `" ++ b ++ "`"
  | names => "expected one of " ++ ", ".intercalate (names.map fun name => "`" ++ name ++ "`")

def Mismatch.message : Mismatch → String
  | .wrongKind found wanted =>
    "invalid type: " ++ found.kindText ++ ", expected " ++ wanted.words
  | .invalidNumber => "invalid number"
  | .unknownVariant given known =>
    "unknown variant `" ++ given ++ "`, " ++ alternatives known
  | .severalKeys => "invalid value: map, expected map with a single key"
  | .missingField name => "missing field `" ++ name ++ "`"
  | .tooFewItems got record fields =>
    "invalid length " ++ Text.natText got ++ ", expected struct " ++ record ++ " with " ++
      Text.natText fields ++ (if fields = 1 then " element" else " elements")
  | .tooManyItems got =>
    "invalid length " ++ Text.natText got ++ ", expected fewer elements in array"
  | .invalidMoment fault => fault.message

/-- Makes typed data of a value. -/
abbrev Decoder (α : Type) := Json → Except Mismatch α

namespace Decoder

/-! ## Simple values -/

def text : Decoder String
  | .string s => .ok s
  | j => .error (.wrongKind j .text)

def integer (width : Width) : Decoder Int
  | .number n =>
    match width.read? n with
    | some v => .ok v
    | none => .error .invalidNumber
  | j => .error (.wrongKind j (.integer width))

def int32 : Decoder Int32 := fun j => (integer (.signed 32) j).map Int32.ofInt

def uint8 : Decoder UInt8 := fun j => (integer (.unsigned 8) j).map fun v => UInt8.ofNat v.toNat

def uint16 : Decoder UInt16 := fun j => (integer (.unsigned 16) j).map fun v => UInt16.ofNat v.toNat

def uint32 : Decoder UInt32 := fun j => (integer (.unsigned 32) j).map fun v => UInt32.ofNat v.toNat

def uint64 : Decoder UInt64 := fun j => (integer (.unsigned 64) j).map fun v => UInt64.ofNat v.toNat

def moment : Decoder Timestamp
  | .string s =>
    match Timestamp.parse s with
    | .ok t => .ok t
    | .error fault => .error (.invalidMoment fault)
  | j => .error (.wrongKind j .moment)

def nullable {α : Type} (d : Decoder α) : Decoder (Option α)
  | .null => .ok none
  | j => (d j).map some

/-- An array of what the decoder takes; the first item that does not fit is the fault. -/
def listOf {α : Type} (d : Decoder α) : Decoder (List α)
  | .array items => items.mapM d
  | j => .error (.wrongKind j .list)

def named {α : Type} (names : List (String × α)) (given : String) : Except Mismatch α :=
  match Entries.get? given names with
  | some a => .ok a
  | none => .error (.unknownVariant given (names.map Prod.fst))

/-- One of several names, as a string or as an object with null under the name. -/
def variant {α : Type} (names : List (String × α)) : Decoder α
  | .string s => named names s
  | .object [(key, value)] => do
    let a ← named names key
    if value = .null then .ok a else .error (.wrongKind value .nothing)
  | .object _ => .error .severalKeys
  | j => .error (.wrongKind j .variant)

end Decoder

/-! ## Records -/

/-- How the fields of a record are decoded, in the order of their declaration. -/
structure Fields (α : Type) where
  keys : List String
  /-- Whether a member fits the field it belongs to; members that are no fields always fit. -/
  check : String → Json → Except Mismatch Unit
  /-- The record that an object's members make up. -/
  ofMembers : List (String × Json) → Except Mismatch α
  /-- The record that the items at the start of an array make up, and the items behind them; the
  first argument is the fault of an array that is too short. -/
  ofItems : Mismatch → List Json → Except Mismatch (α × List Json)

namespace Fields

variable {α β : Type}

def just (a : α) : Fields α where
  keys := []
  check _ _ := .ok ()
  ofMembers _ := .ok a
  ofItems _ items := .ok (a, items)

/-- One field, with a value for the case that an object lacks it and one for the case that an array
ends before it. -/
def single (key : String) (d : Decoder α) (absent : Except Mismatch α)
    (beyond : Mismatch → Except Mismatch α) : Fields α where
  keys := [key]
  check k j := if k = key then (d j).map fun _ => () else .ok ()
  ofMembers members :=
    match Entries.get? key members with
    | some j => d j
    | none => absent
  ofItems short items :=
    match items with
    | j :: rest => (d j).map (·, rest)
    | [] => (beyond short).map (·, [])

def required (key : String) (d : Decoder α) : Fields α :=
  single key d (.error (.missingField key)) .error

/-- A field that an object may lack or hold null for. -/
def optional (key : String) (d : Decoder α) : Fields (Option α) :=
  single key d.nullable (.ok none) .error

/-- A field with a value that stands in where it is not given. -/
def withDefault (key : String) (d : Decoder α) (a : α) : Fields α :=
  single key d (.ok a) fun _ => .ok a

def seq (f : Fields (α → β)) (g : Unit → Fields α) : Fields β where
  keys := f.keys ++ (g ()).keys
  check k j := do
    f.check k j
    (g ()).check k j
  ofMembers members := do
    let h ← f.ofMembers members
    let a ← (g ()).ofMembers members
    return h a
  ofItems short items := do
    let (h, items) ← f.ofItems short items
    let (a, items) ← (g ()).ofItems short items
    return (h a, items)

instance : Applicative Fields where
  pure := just
  seq := seq

end Fields

def Decoder.record {α : Type} (name : String) (fields : Fields α) : Decoder α
  | .object members => do
    members.forM fun m => fields.check m.1 m.2
    fields.ofMembers members
  | .array items => do
    let short := .tooFewItems items.length name fields.keys.length
    let (a, rest) ← fields.ofItems short items
    if rest.isEmpty then .ok a else .error (.tooManyItems items.length)
  | j => .error (.wrongKind j (.record name))

end HomeEnergy.Json

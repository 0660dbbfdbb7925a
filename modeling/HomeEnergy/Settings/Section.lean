import HomeEnergy.Json.Decoder
import HomeEnergy.Toml.Printer

/-!
Sections of the settings. A section is decoded from what its TOML value is in JSON: tables become
objects and a date is an object with one member. A section need not be given, nor any of its keys,
and keys that it does not know are passed over.
-/

namespace HomeEnergy.Settings

mutual

/-- A TOML value in JSON. No setting is a float, so a float becomes null, which none is either. -/
def toJson : Toml.Value → Json
  | .string s => .string s
  | .integer i => .ofInt i
  | .float _ => .null
  | .boolean b => .bool b
  | .datetime d => .object [(Toml.Value.datetimeKey, .string (String.ofList d.text))]
  | .array items => .array (toItems items)
  | .table entries => .ofMembers (toMembers entries)

def toItems : List Toml.Value → List Json
  | [] => []
  | v :: rest => toJson v :: toItems rest

def toMembers : List (String × Toml.Value) → List (String × Json)
  | [] => []
  | e :: rest => toMember e :: toMembers rest

def toMember : String × Toml.Value → String × Json
  | (key, v) => (key, toJson v)

end

/-- A section of the given name: fields in an object, or in order in an array, which may hold more
items than there are fields. -/
def sectionOf {α : Type} (name : String) (fields : Json.Fields α) : Json.Decoder α
  | .array items => (fields.ofItems .severalKeys items).map Prod.fst
  | j => Json.Decoder.record name fields j

/-- One of several names, as a string or as the one key of an object with an empty value. -/
def choice {α : Type} (names : List (String × α)) : Json.Decoder α
  | .object [(key, value)] =>
    if value = .object [] ∨ value = .array [] then Json.Decoder.named names key
    else .error (.wrongKind value .nothing)
  | j => Json.Decoder.variant names j

def boolean : Json.Decoder Bool
  | .bool b => .ok b
  | j => .error (.wrongKind j .nothing)

end HomeEnergy.Settings

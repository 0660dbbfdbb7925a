import HomeEnergy.Toml.Scalar

/-!
Dates given as tables. Where any value may stand, a table whose first key is `datetimeKey` stands
for the date that is written under that key. Such a key without the text of a date is a fault, and
whatever else the table holds does not count. In a table that begins with another key the key has no
meaning.
-/

namespace HomeEnergy.Toml

namespace Value

/-- The key under which the text of a date stands. -/
def datetimeKey : String := "$__toml_private_datetime"

def dated : Value → Option Value
  | .string s => (datetime? s.toList).map .datetime
  | _ => none

mutual

/-- The value with a date for every table that stands for one. -/
def withDates : Value → Option Value
  | .array items => (withDatesInItems items).map .array
  | .table [] => some (.table [])
  | .table ((key, v) :: rest) =>
    if key = datetimeKey then dated v
    else do
      let v ← withDates v
      let rest ← withDatesInEntries rest
      some (.table ((key, v) :: rest))
  | v => some v

def withDatesInItems : List Value → Option (List Value)
  | [] => some []
  | v :: rest => do
    let v ← withDates v
    let rest ← withDatesInItems rest
    some (v :: rest)

def withDatesInEntries : List (String × Value) → Option (List (String × Value))
  | [] => some []
  | (key, v) :: rest => do
    let v ← withDates v
    let rest ← withDatesInEntries rest
    some ((key, v) :: rest)

end

end Value

end HomeEnergy.Toml

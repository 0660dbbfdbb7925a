import HomeEnergy.Binary64.Decimal
import HomeEnergy.Table

/-!
TOML values, and the dates and times among them.
-/

namespace HomeEnergy.Toml

structure Date where
  year : Nat
  month : Nat
  day : Nat
deriving DecidableEq, Repr

structure Time where
  hour : Nat
  minute : Nat
  second : Nat
  nanosecond : Nat
deriving DecidableEq, Repr

/-- The offset of a clock from UTC: the letter `Z`, or minutes. -/
inductive Offset where
  | zulu
  | minutes (n : Int)
deriving DecidableEq, Repr

/-- A date, a time, or both; an offset belongs to both. -/
inductive Datetime where
  | date (d : Date)
  | time (t : Time)
  | full (d : Date) (t : Time) (offset : Option Offset)
deriving DecidableEq, Repr

namespace Datetime

open Text (padded)

def dateText (d : Date) : List Char :=
  padded 4 d.year ++ '-' :: padded 2 d.month ++ '-' :: padded 2 d.day

/-- The written form of a time; a fraction has no zeros at its end. -/
def timeText (t : Time) : List Char :=
  let fraction := ((padded 9 t.nanosecond).reverse.dropWhile (· == '0')).reverse
  padded 2 t.hour ++ ':' :: padded 2 t.minute ++ ':' :: padded 2 t.second ++
    (if fraction.isEmpty then [] else '.' :: fraction)

def offsetText : Offset → List Char
  | .zulu => ['Z']
  | .minutes n =>
    (if n < 0 then '-' else '+') :: padded 2 (n.natAbs / 60) ++ ':' :: padded 2 (n.natAbs % 60)

def text : Datetime → List Char
  | .date d => dateText d
  | .time t => timeText t
  | .full d t offset =>
    dateText d ++ 'T' :: timeText t ++ (offset.map offsetText).getD []

end Datetime

/-- A TOML value. The entries of a table stand in the order in which they came about. -/
inductive Value where
  | string (s : String)
  | integer (i : Int)
  | float (x : Binary64.Value)
  | boolean (b : Bool)
  | datetime (d : Datetime)
  | array (items : List Value)
  | table (entries : List (String × Value))
deriving Inhabited

end HomeEnergy.Toml

import HomeEnergy.Table
import HomeEnergy.Text.Numeral

/-!
JSON values. Numbers keep the digits they were written with, so a value of any size and precision
passes through unchanged, and the members of an object stand in increasing order of their keys.
-/

namespace HomeEnergy

/-- A number as it is written. An exponent always has a sign; no fraction means no point. -/
structure Json.Number where
  negative : Bool
  whole : List Char
  fraction : List Char
  exponent : Option (Bool × List Char)
deriving DecidableEq, Inhabited

inductive Json where
  | null
  | bool (b : Bool)
  | number (n : Json.Number)
  | string (s : String)
  | array (items : List Json)
  | object (members : List (String × Json))
deriving Inhabited

namespace Json

namespace Number

def ofNat (n : Nat) : Number := ⟨false, Text.digits n, [], none⟩

def ofInt : Int → Number
  | .ofNat n => ofNat n
  | .negSucc n => ⟨true, Text.digits (n + 1), [], none⟩

def text (n : Number) : List Char :=
  (if n.negative then ['-'] else []) ++ n.whole ++
    (if n.fraction.isEmpty then [] else '.' :: n.fraction) ++
    match n.exponent with
    | none => []
    | some (negative, digits) => 'e' :: (if negative then '-' else '+') :: digits

/-- Whether the number is written with neither fraction nor exponent. -/
def isWhole (n : Number) : Bool := n.fraction.isEmpty && n.exponent.isNone

/-- The value of a number written as digits alone. -/
def natural? (n : Number) : Option Nat :=
  if n.isWhole && !n.negative then Text.natOfDigits? n.whole else none

/-- The value of a number written as digits with or without a minus sign. -/
def integer? (n : Number) : Option Int :=
  if n.isWhole then
    (Text.natOfDigits? n.whole).map (fun v => if n.negative then -(v : Int) else v)
  else none

/-- The rules of the written form: digits only, no leading zero, no empty part. -/
def WellFormed (n : Number) : Prop :=
  (∀ c ∈ n.whole, c.isDigit) ∧ n.whole ≠ [] ∧ (n.whole.head? = some '0' → n.whole = ['0']) ∧
    (∀ c ∈ n.fraction, c.isDigit) ∧
    ∀ negative digits, n.exponent = some (negative, digits) →
      digits ≠ [] ∧ ∀ c ∈ digits, c.isDigit

end Number

def ofNat (n : Nat) : Json := .number (.ofNat n)

def ofInt (i : Int) : Json := .number (.ofInt i)

/-- The object with the given members; of two members with one key the later counts. -/
def ofMembers (members : List (String × Json)) : Json :=
  .object (members.foldl (fun o m => Entries.put m.1 m.2 o) [])

def member? (key : String) : Json → Option Json
  | .object members => Entries.get? key members
  | _ => none

/-! ## Equality -/

mutual

def same : Json → Json → Bool
  | .null, .null => true
  | .bool a, .bool b => a == b
  | .number a, .number b => a == b
  | .string a, .string b => a == b
  | .array a, .array b => sameItems a b
  | .object a, .object b => sameMembers a b
  | _, _ => false

def sameItems : List Json → List Json → Bool
  | [], [] => true
  | a :: as, b :: bs => same a b && sameItems as bs
  | _, _ => false

def sameMembers : List (String × Json) → List (String × Json) → Bool
  | [], [] => true
  | a :: as, b :: bs => sameMember a b && sameMembers as bs
  | _, _ => false

def sameMember : String × Json → String × Json → Bool
  | (k, a), (j, b) => k == j && same a b

end

mutual

theorem same_iff : ∀ a b : Json, same a b = true ↔ a = b
  | .array a, b => by cases b <;> simp [same, sameItems_iff a]
  | .object a, b => by cases b <;> simp [same, sameMembers_iff a]
  | .null, b => by cases b <;> simp [same]
  | .bool _, b => by cases b <;> simp [same]
  | .number _, b => by cases b <;> simp [same]
  | .string _, b => by cases b <;> simp [same]

theorem sameItems_iff : ∀ a b : List Json, sameItems a b = true ↔ a = b
  | [], b => by cases b <;> simp [sameItems]
  | x :: xs, b => by cases b <;> simp [sameItems, same_iff x, sameItems_iff xs]

theorem sameMembers_iff : ∀ a b : List (String × Json), sameMembers a b = true ↔ a = b
  | [], b => by cases b <;> simp [sameMembers]
  | x :: xs, b => by cases b <;> simp [sameMembers, sameMember_iff x, sameMembers_iff xs]

theorem sameMember_iff : ∀ a b : String × Json, sameMember a b = true ↔ a = b
  | (k, x), (j, y) => by simp [sameMember, same_iff x]

end

instance : DecidableEq Json := fun a b => decidable_of_iff _ (same_iff a b)

/-! ## Shape -/

mutual

/-- The number of arrays and objects that stand inside one another, this value included. -/
def depth : Json → Nat
  | .array items => itemsDepth items + 1
  | .object members => membersDepth members + 1
  | _ => 0

def itemsDepth : List Json → Nat
  | [] => 0
  | j :: rest => max (depth j) (itemsDepth rest)

def membersDepth : List (String × Json) → Nat
  | [] => 0
  | (_, j) :: rest => max (depth j) (membersDepth rest)

end

mutual

/-- Every number is well formed and the keys of every object grow strictly. -/
def Canonical : Json → Prop
  | .number n => n.WellFormed
  | .array items => CanonicalItems items
  | .object members => Entries.Increasing members ∧ CanonicalMembers members
  | _ => True

def CanonicalItems : List Json → Prop
  | [] => True
  | j :: rest => Canonical j ∧ CanonicalItems rest

def CanonicalMembers : List (String × Json) → Prop
  | [] => True
  | (_, j) :: rest => Canonical j ∧ CanonicalMembers rest

end

end Json

end HomeEnergy

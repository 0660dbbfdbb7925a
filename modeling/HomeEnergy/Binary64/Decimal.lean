import HomeEnergy.Binary64.Magnitude
import HomeEnergy.Text.Numeral

/-!
Double precision in decimal. A decimal number is read as the nearest number of the format, and a
number of the format is written with the fewest digits that are read as that number again.
-/

namespace HomeEnergy.Binary64

/-- The part of a power of ten that multiplies. -/
def raisedTen (e : Int) : Nat := Nat.pow 10 e.toNat

/-- The decimal number `digits * 10 ^ exponent`. -/
structure Decimal where
  digits : Nat
  exponent : Int
deriving DecidableEq, Repr

namespace Decimal

/-- The powers of ten beyond which a number is infinite or zero, whatever its digits are. -/
def farthest : Int := 400

def magnitude (d : Decimal) : Magnitude :=
  let order : Int := (Text.digits d.digits).length + d.exponent
  if d.digits = 0 ∨ order < -farthest then .zero
  else if farthest < order then .infinite
  else .ofQuotient (d.digits * raisedTen d.exponent) (raisedTen (-d.exponent))

/-- The number in digits, with a point and at least one digit on each side of it. -/
def positional (d : Decimal) : List Char :=
  if 0 ≤ d.exponent then
    Text.digits d.digits ++ (if d.digits = 0 then [] else List.replicate d.exponent.toNat '0') ++
      ".0".toList
  else
    let places := (-d.exponent).toNat
    let ds := Text.padded (places + 1) d.digits
    ds.take (ds.length - places) ++ '.' :: ds.drop (ds.length - places)

end Decimal

namespace Magnitude

/-- The bounds, in quarters of the last bit, of the numbers that are rounded to this one. -/
def bounds (s : Nat) (e : Int) : Nat × Nat :=
  (if s = raised fractionBits ∧ leastExponent < e then 4 * s - 1 else 4 * s - 2, 4 * s + 2)

def isReadAs (s : Nat) (e : Int) (d : Decimal) : Bool :=
  let (low, high) := bounds s e
  let up := 4 * (d.digits * raisedTen d.exponent) * raised (-e)
  let scale := raisedTen (-d.exponent) * raised e
  if s % 2 = 0 then low * scale ≤ up && up ≤ high * scale
  else low * scale < up && up < high * scale

/-- The nearer of the two numbers with the given power of ten that stand around `s * 2 ^ e`, if it
is rounded to it, and else the other one; where both are equally near, the larger. -/
def neighbour? (s : Nat) (e : Int) (k : Int) : Option Decimal :=
  let n := s * raised e * raisedTen (-k)
  let d := raised (-e) * raisedTen k
  let below : Decimal := ⟨n / d, k⟩
  let above : Decimal := ⟨n / d + 1, k⟩
  match isReadAs s e below, isReadAs s e above with
  | true, true => if 2 * (n % d) < d then some below else some above
  | true, false => some below
  | false, true => some above
  | false, false => none

def search (s : Nat) (e : Int) : (tries : Nat) → (k : Int) → Decimal
  | 0, k => ⟨s * raised e * raisedTen (-k) / raised (-e), k⟩
  | tries + 1, k =>
    match neighbour? s e k with
    | some d => d
    | none => search s e tries (k - 1)

/-- The number of powers of ten to try: 17 digits always suffice. -/
def mostTries : Nat := 20

/-- The shortest decimal number that is rounded to `s * 2 ^ e`; of several the nearest, and of two
that are equally near the larger. -/
def shortest (s : Nat) (e : Int) : Decimal :=
  if s = 0 then ⟨0, 0⟩
  else search s e mostTries (floorLog2 (s * raised e) (raised (-e)) * 30103 / 100000 + 2)

end Magnitude

inductive Value where
  | number (negative : Bool) (magnitude : Magnitude)
  | nan
deriving DecidableEq, Repr

def Value.text : Value → List Char
  | .nan => "nan".toList
  | .number negative magnitude =>
    (if negative then ['-'] else []) ++
      match magnitude with
      | .infinite => "inf".toList
      | .finite s e => (Magnitude.shortest s e).positional

end HomeEnergy.Binary64

/-!
Double precision without the sign: the numbers of 53 significant bits that lie between the powers
of two that the format allows, and infinity.

A quotient of natural numbers is rounded to the nearest of them, and to the one with the even
significand where two are equally near. Everything else here is exact.
-/

namespace HomeEnergy.Binary64

/-- The number `significand * 2 ^ exponent`, or infinity. -/
inductive Magnitude where
  | finite (significand : Nat) (exponent : Int)
  | infinite
deriving DecidableEq, Repr

/-- The integer nearest to `n / d`, the even one if two are. -/
def nearestEven (n d : Nat) : Nat :=
  let q := n / d
  let r := n % d
  if 2 * r < d ∨ (2 * r = d ∧ q % 2 = 0) then q else q + 1

/-- The part of a power of two that multiplies, and the part that divides. -/
def raised (e : Int) : Nat := 1 <<< e.toNat

/-- The largest `e` with `2 ^ e ≤ n / d`. -/
def floorLog2 (n d : Nat) : Int :=
  let e := (n.log2 : Int) - d.log2
  if d * raised e ≤ n * raised (-e) then e else e - 1

/-- The bits of a significand, not counting the first. -/
def fractionBits : Nat := 52

def leastExponent : Int := -1074

def greatestExponent : Int := 971

namespace Magnitude

def zero : Magnitude := .finite 0 0

/-- A natural number of at most 53 bits. -/
def ofNat (n : Nat) : Magnitude := .finite n 0

def ofQuotient (n d : Nat) : Magnitude :=
  if d = 0 then .infinite
  else if n = 0 then .zero
  else
    let e := max leastExponent (floorLog2 n d - fractionBits)
    let s := nearestEven (n * raised (-e)) (d * raised e)
    let (s, e) := if s = raised (fractionBits + 1) then (raised fractionBits, e + 1) else (s, e)
    if greatestExponent < e then .infinite else .finite s e

def le : Magnitude → Magnitude → Bool
  | _, .infinite => true
  | .infinite, .finite _ _ => false
  | .finite s e, .finite s' e' => s * raised (e - e') ≤ s' * raised (e' - e)

def least (a b : Magnitude) : Magnitude := if a.le b then a else b

def greatest (a b : Magnitude) : Magnitude := if a.le b then b else a

def floor? : Magnitude → Option Nat
  | .finite s e => some (s * raised e / raised (-e))
  | .infinite => none

/-- The integer nearest to a finite number, the larger one if two are. -/
def nearest? : Magnitude → Option Nat
  | .finite s e => some ((2 * (s * raised e) + raised (-e)) / (2 * raised (-e)))
  | .infinite => none

end Magnitude

end HomeEnergy.Binary64

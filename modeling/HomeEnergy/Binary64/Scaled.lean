import HomeEnergy.Binary64.Decimal

/-!
Reading decimal numbers in a hurry. Of the digits only as many are kept as fit into 64 bits, and the
power of ten is multiplied with or divided by in steps, each of which is rounded. The outcome is
near the number, but not always the number of the format that is nearest to it.
-/

namespace HomeEnergy.Binary64

namespace Magnitude

def isZero : Magnitude → Bool
  | .finite s _ => s = 0
  | .infinite => false

def multiply : Magnitude → Magnitude → Magnitude
  | .finite s e, .finite s' e' => .ofQuotient (s * s' * raised (e + e')) (raised (-(e + e')))
  | _, _ => .infinite

def divide : Magnitude → Magnitude → Magnitude
  | .finite s e, .finite s' e' => .ofQuotient (s * raised (e - e')) (s' * raised (e' - e))
  | m, _ => m

/-- The largest exponent of a power of ten that is finite. -/
def largestPower : Nat := 308

def powerOfTen (k : Nat) : Magnitude := Decimal.magnitude ⟨1, k⟩

/-- A number times a power of ten, unless it is too large. Where the power is too small to be
divided by at once the number is divided in several steps, and is zero soon. -/
def scaled : (steps : Nat) → Magnitude → (exponent : Int) → Option Magnitude
  | 0, _, _ => none
  | steps + 1, m, exponent =>
    if exponent.natAbs ≤ largestPower then
      if exponent < 0 then some (m.divide (powerOfTen exponent.natAbs))
      else
        match m.multiply (powerOfTen exponent.natAbs) with
        | .infinite => none
        | product => some product
    else if m.isZero then some m
    else if 0 ≤ exponent then none
    else scaled steps (m.divide (powerOfTen largestPower)) (exponent + largestPower)

/-- How many steps there are at most: two divisions make zero of any 64 bits. -/
def mostSteps : Nat := 4

end Magnitude

namespace Decimal

def wordBound : Nat := UInt64.size

/-- As many digits as fit into 64 bits behind the digits of `n`, and how many are left over. -/
def leadingDigits (n : Nat) : List Char → Nat × Nat
  | [] => (n, 0)
  | d :: rest =>
    let next := 10 * n + (d.toNat - '0'.toNat)
    if next < wordBound then leadingDigits next rest else (n, rest.length + 1)

/-- The largest exponent that is told apart from any larger one. -/
def largestExponent : Nat := 0x7FFFFFFF

/-- The number with the given digits before and after the point and the given exponent, whose sign
is given first. -/
def hurried? (whole fraction : List Char) (exponent : Option (Bool × List Char)) :
    Option Magnitude :=
  let (n, dropped) := leadingDigits 0 whole
  let (n, left) := leadingDigits n fraction
  let shift : Int := dropped - (fraction.length - left : Nat)
  let m := Magnitude.ofQuotient n 1
  match exponent with
  | none => m.scaled Magnitude.mostSteps shift
  | some (negative, digits) =>
    match Text.natOfDigits? digits with
    | none => none
    | some e =>
      if e ≤ largestExponent then
        m.scaled Magnitude.mostSteps (if negative then shift - e else shift + e)
      else if n = 0 ∨ negative then some .zero
      else none

end Decimal

end HomeEnergy.Binary64

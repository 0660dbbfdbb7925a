/-!
Decimal numerals: reading a run of ASCII digits, and writing numbers with as many digits as they
need or with a fixed width.
-/

namespace HomeEnergy.Text

/-- The value of a run of ASCII digits, none for the empty run or another character. -/
def natOfDigits? (cs : List Char) : Option Nat :=
  if cs.isEmpty then none
  else cs.foldlM (fun n c => if c.isDigit then some (10 * n + (c.toNat - 48)) else none) 0

/-- Reads a numeral with at most one leading plus sign whose value does not exceed `largest`. -/
def boundedNat? (largest : Nat) (cs : List Char) : Option Nat :=
  let digits := match cs with
    | '+' :: rest => rest
    | _ => cs
  match natOfDigits? digits with
  | some n => if n ≤ largest then some n else none
  | none => none

def digits (n : Nat) : List Char := Nat.toDigits 10 n

/-- The decimal digits of a number, filled up with zeros to the left to the given width. -/
def padded (width n : Nat) : List Char :=
  let ds := digits n
  List.replicate (width - ds.length) '0' ++ ds

def natText (n : Nat) : String := String.ofList (digits n)

def intText (i : Int) : String :=
  match i with
  | .ofNat n => natText n
  | .negSucc n => String.ofList ('-' :: digits (n + 1))

end HomeEnergy.Text

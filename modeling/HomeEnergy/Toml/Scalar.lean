import HomeEnergy.Time.Calendar
import HomeEnergy.Toml.Value

/-!
TOML numbers, dates, times and truth values. None of them holds a blank, a bracket, a comma or a
comment sign, so each is a run of letters, digits and a few signs, which is then looked at as a
whole. The one exception, a blank between a date and a time, is up to the caller.
-/

namespace HomeEnergy.Toml

def isScalarChar (c : Char) : Bool :=
  c.isAlphanum || c == '+' || c == '-' || c == '_' || c == '.' || c == ':'

/-- The digits of a run in which single underscores may stand between digits. -/
def ungrouped? (isDigit : Char → Bool) : List Char → Option (List Char)
  | [] => none
  | [c] => if isDigit c then some [c] else none
  | c :: '_' :: rest =>
    if isDigit c then (ungrouped? isDigit rest).map (c :: ·) else none
  | c :: rest => if isDigit c then (ungrouped? isDigit rest).map (c :: ·) else none

/-- Takes off a sign; says whether the number is negative. -/
def signed : List Char → Bool × List Char
  | '-' :: rest => (true, rest)
  | '+' :: rest => (false, rest)
  | cs => (false, cs)

/-! ## Integers -/

/-- The digits of a decimal number without a superfluous zero in front. -/
def decimalDigits? (cs : List Char) : Option (List Char) :=
  match ungrouped? Char.isDigit cs with
  | some ['0'] => some ['0']
  | some ('0' :: _) => none
  | ds => ds

def digitValue (c : Char) : Nat :=
  if c.isDigit then c.toNat - 48 else c.toLower.toNat - 87

def based? (base : Nat) (isDigit : Char → Bool) (cs : List Char) : Option Int :=
  (ungrouped? isDigit cs).map fun ds => (ds.foldl (fun n c => base * n + digitValue c) 0 : Nat)

def isHexDigit (c : Char) : Bool :=
  c.isDigit || ('a' ≤ c && c ≤ 'f') || ('A' ≤ c && c ≤ 'F')

/-- An integer of 64 bits. -/
def integer? (cs : List Char) : Option Int := do
  let n ← match cs with
    | '0' :: 'x' :: rest => based? 16 isHexDigit rest
    | '0' :: 'o' :: rest => based? 8 (fun c => '0' ≤ c && c ≤ '7') rest
    | '0' :: 'b' :: rest => based? 2 (fun c => c == '0' || c == '1') rest
    | cs =>
      let (negative, ds) := signed cs
      let n ← (decimalDigits? ds).bind Text.natOfDigits?
      some (if negative then -(n : Int) else n)
  if Int64.minValue.toInt ≤ n ∧ n ≤ Int64.maxValue.toInt then some n else none

/-! ## Floats -/

def exponent? (cs : List Char) : Option Int := do
  let (negative, ds) := signed cs
  let n ← (ungrouped? Char.isDigit ds).bind Text.natOfDigits?
  some (if negative then -(n : Int) else n)

/-- A decimal number with a fraction, an exponent or both. -/
def decimal? (cs : List Char) : Option Binary64.Decimal := do
  let (mantissa, rest) := cs.span fun c => c != 'e' && c != 'E'
  let exponent ← match rest with
    | [] => some 0
    | _ :: ds => exponent? ds
  match mantissa.span (· != '.') with
  | (whole, _ :: fraction) =>
    let whole ← decimalDigits? whole
    let fraction ← ungrouped? Char.isDigit fraction
    let digits ← Text.natOfDigits? (whole ++ fraction)
    some ⟨digits, exponent - fraction.length⟩
  | (whole, []) =>
    if rest.isEmpty then none
    else
      let digits ← (decimalDigits? whole).bind Text.natOfDigits?
      some ⟨digits, exponent⟩

/-- A float. A number too large for the format is refused if it is positive. -/
def float? (cs : List Char) : Option Binary64.Value :=
  let (negative, body) := signed cs
  if body = "nan".toList then some .nan
  else if body = "inf".toList then some (.number negative .infinite)
  else
    match decimal? body with
    | none => none
    | some d =>
      let m := d.magnitude
      if m = .infinite ∧ !negative then none else some (.number negative m)

/-! ## Dates and times -/

def fixed? (width : Nat) (cs : List Char) : Option (Nat × List Char) :=
  let ds := cs.take width
  if ds.length = width then (Text.natOfDigits? ds).map (·, cs.drop width) else none

def expected? (c : Char) : List Char → Option (List Char)
  | d :: rest => if d = c then some rest else none
  | [] => none

def date? (cs : List Char) : Option (Date × List Char) := do
  let (year, cs) ← fixed? 4 cs
  let cs ← expected? '-' cs
  let (month, cs) ← fixed? 2 cs
  let cs ← expected? '-' cs
  let (day, cs) ← fixed? 2 cs
  if Calendar.isDate year month day then some (⟨year, month, day⟩, cs) else none

/-- The nanoseconds of a fraction; digits behind the ninth are dropped. -/
def nanoseconds (ds : List Char) : Nat :=
  (Text.natOfDigits? ((ds ++ List.replicate 9 '0').take 9)).getD 0

/-- A time of day; the second may be a leap second. -/
def time? (cs : List Char) : Option (Time × List Char) := do
  let (hour, cs) ← fixed? 2 cs
  let cs ← expected? ':' cs
  let (minute, cs) ← fixed? 2 cs
  let cs ← expected? ':' cs
  let (second, cs) ← fixed? 2 cs
  if 23 < hour ∨ 59 < minute ∨ 60 < second then none
  else
    match cs with
    | '.' :: rest =>
      let (ds, rest) := rest.span Char.isDigit
      if ds.isEmpty then none else some (⟨hour, minute, second, nanoseconds ds⟩, rest)
    | cs => some (⟨hour, minute, second, 0⟩, cs)

/-- An offset, or nothing at the end. -/
def offset? : List Char → Option (Option Offset)
  | [] => some none
  | [c] => if c = 'Z' ∨ c = 'z' then some (some .zulu) else none
  | c :: cs => do
    let (hours, cs) ← fixed? 2 cs
    let cs ← expected? ':' cs
    let (minutes, cs) ← fixed? 2 cs
    let n : Int := hours * 60 + minutes
    if !cs.isEmpty ∨ 23 < hours ∨ 59 < minutes then none
    else if c = '+' then some (some (.minutes n))
    else if c = '-' then some (some (.minutes (-n)))
    else none

def datetime? (cs : List Char) : Option Datetime :=
  match date? cs with
  | some (d, []) => some (.date d)
  | some (d, c :: rest) => do
    if c = 'T' ∨ c = 't' ∨ c = ' ' then
      let (t, rest) ← time? rest
      let offset ← offset? rest
      some (.full d t offset)
    else none
  | none => do
    let (t, rest) ← time? cs
    if rest.isEmpty then some (.time t) else none

def scalar? (cs : List Char) : Option Value :=
  if cs = "true".toList then some (.boolean true)
  else if cs = "false".toList then some (.boolean false)
  else
    match integer? cs with
    | some i => some (.integer i)
    | none =>
      match float? cs with
      | some x => some (.float x)
      | none => (datetime? cs).map .datetime

end HomeEnergy.Toml

import HomeEnergy.Time.Timestamp
import HomeEnergy.Text.Blank

/-!
Reading points in time, in a relaxed form of RFC 3339: white space may stand before numbers and
separators, months and smaller units may have one digit, a space may stand for the `T`, and the
offset may be `UTC`, `Z` or hours and minutes with or without a colon between them.

The reader goes from left to right. Units out of their range are noticed as they are read, dates
that do not exist and offsets of a day or more once the whole text has been read.
-/

namespace HomeEnergy.Timestamp

inductive Fault where
  | tooShort
  | invalid
  | outOfRange
  | tooLong
  | impossible
deriving DecidableEq, Repr

def Fault.message : Fault → String
  | .tooShort => "premature end of input"
  | .invalid => "input contains invalid characters"
  | .outOfRange => "input is out of range"
  | .tooLong => "trailing input"
  | .impossible => "no possible date and time matching input"

/-- Reads off a value and leaves the rest of the text. -/
abbrev Reader (α : Type) := List Char → Except Fault (α × List Char)

/-- A run of at least one and at most `width` digits. -/
def shortNumber (width : Nat) : Reader Nat := fun cs =>
  match cs with
  | [] => .error .tooShort
  | _ =>
    let ds := (cs.take width).takeWhile Char.isDigit
    match Text.natOfDigits? ds with
    | none => .error .invalid
    | some n => .ok (n, cs.drop ds.length)

def longNumber : Reader Nat := fun cs =>
  match cs with
  | [] => .error .tooShort
  | _ =>
    match Text.natOfDigits? (cs.takeWhile Char.isDigit) with
    | none => .error .invalid
    | some n => .ok (n, cs.dropWhile Char.isDigit)

/-- A separator after optional white space. -/
def separator (c : Char) : Reader Unit := fun cs =>
  match Text.trimStart cs with
  | [] => .error .tooShort
  | d :: rest => if d = c then .ok ((), rest) else .error .invalid

/-- A number of at most two digits in a range, after optional white space. -/
def unit (lo hi : Nat) : Reader Nat := fun cs =>
  match shortNumber 2 (Text.trimStart cs) with
  | .error e => .error e
  | .ok (n, rest) => if lo ≤ n ∧ n ≤ hi then .ok (n, rest) else .error .outOfRange

/-- A year: at most four digits, or a sign and any number of digits. -/
def year : Reader Int := fun cs =>
  match Text.trimStart cs with
  | '-' :: rest =>
    match longNumber rest with
    | .error e => .error e
    | .ok (n, rest) => if n ≤ 0x80000000 then .ok (-(n : Int), rest) else .error .outOfRange
  | '+' :: rest =>
    match longNumber rest with
    | .error e => .error e
    | .ok (n, rest) => if n < 0x80000000 then .ok ((n : Int), rest) else .error .outOfRange
  | cs =>
    match shortNumber 4 cs with
    | .error e => .error e
    | .ok (n, rest) => .ok ((n : Int), rest)

def dateEnd : Reader Unit := fun cs =>
  match cs with
  | [] => .error .tooShort
  | c :: rest => if c = 'T' ∨ c = 't' ∨ c = ' ' then .ok ((), rest) else .error .invalid

/-- Nanoseconds after a point, if there is one; digits behind the ninth are dropped. -/
def fraction : Reader Nat := fun cs =>
  match cs with
  | '.' :: rest =>
    match shortNumber 9 rest with
    | .error e => .error e
    | .ok (n, after) =>
      .ok (n * Nat.pow 10 (9 - (rest.length - after.length)), after.dropWhile Char.isDigit)
  | _ => .ok (0, cs)

/-- Two digits. Where fewer than two bytes are left the text ends too early. -/
def twoDigits : Reader Nat := fun cs =>
  if Text.utf8Length cs < 2 then .error .tooShort
  else
    match cs with
    | a :: b :: rest =>
      match Text.natOfDigits? [a, b] with
      | some n => .ok (n, rest)
      | none => .error .invalid
    | _ => .error .invalid

def offsetAmount : Reader Nat := fun cs => do
  let (hours, rest) ← twoDigits cs
  let (minutes, rest) ← twoDigits (rest.dropWhile (fun c => c == ':' || Text.isBlank c))
  if minutes < 60 then .ok (hours * 3600 + minutes * 60, rest) else .error .outOfRange

def offset : Reader Int := fun cs =>
  match Text.trimStart cs with
  | [] => .error .tooShort
  | c :: rest =>
    if (c :: rest.take 2).map Char.toUpper = ['U', 'T', 'C'] then .ok (0, rest.drop 2)
    else if c = 'Z' ∨ c = 'z' then .ok (0, rest)
    else if c = '+' then (offsetAmount rest).map (fun r => ((r.1 : Int), r.2))
    else if c = '-' ∨ c = '\u2212' then (offsetAmount rest).map (fun r => (-(r.1 : Int), r.2))
    else .error .invalid

/-- The point in time of a date and a time of day on a clock that is ahead of UTC by the offset;
second 60 is a leap second. -/
def ofLocal (year : Int) (month day hour minute second nanosecond : Nat) (offset : Int) :
    Except Fault Timestamp :=
  if !Calendar.isDate year month day || year < firstYear || lastYear < year then
    .error .outOfRange
  else if (secondsPerDay : Int) ≤ offset.natAbs then .error .outOfRange
  else
    let leap := second = 60
    let ofDay : Int := hour * 3600 + minute * 60 + (if leap then 59 else second) - offset
    let days := Calendar.dayNumber year month day + ofDay / secondsPerDay
    if days < Calendar.dayNumber firstYear 1 1 ∨ Calendar.dayNumber lastYear 12 31 < days then
      .error .impossible
    else
      .ok ⟨days, (ofDay % secondsPerDay).toNat, (if leap then billion else 0) + nanosecond⟩

def parseChars (cs : List Char) : Except Fault Timestamp := do
  let (year, cs) ← year cs
  let (_, cs) ← separator '-' cs
  let (month, cs) ← unit 1 12 cs
  let (_, cs) ← separator '-' cs
  let (day, cs) ← unit 1 31 cs
  let (_, cs) ← dateEnd cs
  let (hour, cs) ← unit 0 23 cs
  let (_, cs) ← separator ':' cs
  let (minute, cs) ← unit 0 59 cs
  let (_, cs) ← separator ':' cs
  let (second, cs) ← unit 0 60 cs
  let (nanosecond, cs) ← fraction cs
  let (offset, cs) ← offset cs
  if (Text.trimStart cs).isEmpty then
    ofLocal year month day hour minute second nanosecond offset
  else .error .tooLong

def parse (text : String) : Except Fault Timestamp := parseChars text.toList

end HomeEnergy.Timestamp

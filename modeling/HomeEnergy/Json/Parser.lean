import HomeEnergy.Json.Basic
import HomeEnergy.Text.Blank

/-!
Reading JSON. The reader takes the text from left to right and stops at the first fault. Every
step returns what is left of the text together with a proof that it is shorter, so the loops end
because the text does, and the nesting ends because each array or object uses up one level.

A number can also be given as an object with one member, whose key is `numberKey` and whose value is
the text of the number. An object is taken for a number as soon as that key stands first in it.
-/

namespace HomeEnergy.Json

inductive Fault where
  | endInValue
  | endInArray
  | endInObject
  | endInString
  | valueExpected
  | wordExpected
  | invalidNumber
  | trailingCharacters
  | trailingComma
  | itemSeparatorExpected
  | memberSeparatorExpected
  | colonExpected
  | keyExpected
  | invalidEscape
  | controlInString
  | unfinishedPair
  | loneSurrogate
  | tooDeep
  /-- Something else stands where the text of a number has to. -/
  | numberTextExpected (got : String)
deriving DecidableEq, Repr

/-- The wording of a fault. The program goes on to say at which line and column the fault is, also
in its replies to a text that is no JSON. That part is left out: faults carry no position here. -/
def Fault.message : Fault → String
  | .endInValue => "EOF while parsing a value"
  | .endInArray => "EOF while parsing a list"
  | .endInObject => "EOF while parsing an object"
  | .endInString => "EOF while parsing a string"
  | .valueExpected => "expected value"
  | .wordExpected => "expected ident"
  | .invalidNumber => "invalid number"
  | .trailingCharacters => "trailing characters"
  | .trailingComma => "trailing comma"
  | .itemSeparatorExpected => "expected `,` or `]`"
  | .memberSeparatorExpected => "expected `,` or `\x7d`"
  | .colonExpected => "expected `:`"
  | .keyExpected => "key must be a string"
  | .invalidEscape => "invalid escape"
  | .controlInString => "control character (\\u0000-\\u001F) found while parsing a string"
  | .unfinishedPair => "unexpected end of hex escape"
  | .loneSurrogate => "lone leading surrogate in hex escape"
  | .tooDeep => "recursion limit exceeded"
  | .numberTextExpected got =>
    "invalid type: " ++ got ++ ", expected string containing a number"

/-- A remainder shorter than `n` characters. -/
abbrev Rest (n : Nat) := { rest : List Char // rest.length < n }

/-- The outcome of reading something off a text of `n` characters: a value and a remainder. -/
abbrev Reading (n : Nat) (α : Type) := Except Fault (α × Rest n)

/-- A reading of a part of the text, seen as a reading of the text. -/
def Reading.later {m n : Nat} {α : Type} (h : m ≤ n) : Reading m α → Reading n α
  | .ok (a, rest) => .ok (a, ⟨rest.1, Nat.lt_of_lt_of_le rest.2 h⟩)
  | .error e => .error e

def Reading.map {n : Nat} {α β : Type} (f : α → β) : Reading n α → Reading n β
  | .ok (a, rest) => .ok (f a, rest)
  | .error e => .error e

def isSpace (c : Char) : Bool := c == ' ' || c == '\t' || c == '\n' || c == '\r'

def skipSpace (cs : List Char) : List Char := cs.dropWhile isSpace

theorem length_dropWhile_le (p : Char → Bool) (cs : List Char) :
    (cs.dropWhile p).length ≤ cs.length :=
  (List.dropWhile_sublist p).length_le

theorem length_skipSpace_le (cs : List Char) : (skipSpace cs).length ≤ cs.length :=
  length_dropWhile_le isSpace cs

/-! ## Words -/

def word : (letters cs : List Char) → Except Fault { rest : List Char // rest.length ≤ cs.length }
  | [], cs => .ok ⟨cs, Nat.le_refl _⟩
  | _ :: _, [] => .error .endInValue
  | l :: ls, c :: cs =>
    if c = l then
      match word ls cs with
      | .ok rest => .ok ⟨rest.1, Nat.le_trans rest.2 (Nat.le_succ _)⟩
      | .error e => .error e
    else .error .wordExpected

def constant (letters : List Char) (j : Json) (cs : List Char) :
    Reading (cs.length + 1) Json :=
  match word letters cs with
  | .ok rest => .ok (j, ⟨rest.1, Nat.lt_succ_of_le rest.2⟩)
  | .error e => .error e

/-! ## Numbers -/

/-- Digits after a point or after the sign of an exponent: at least one. -/
def digitRun (cs : List Char) : Reading cs.length (List Char) :=
  match cs with
  | [] => .error .endInValue
  | d :: rest =>
    if d.isDigit then
      .ok (d :: rest.takeWhile Char.isDigit,
        ⟨rest.dropWhile Char.isDigit, Nat.lt_succ_of_le (length_dropWhile_le _ _)⟩)
    else .error .invalidNumber

/-- The digits before a point or an exponent: a single zero, or no zero in front. -/
def wholePart (cs : List Char) : Reading cs.length (List Char) :=
  match cs with
  | '0' :: rest =>
    if rest.head?.any Char.isDigit then .error .invalidNumber
    else .ok (['0'], ⟨rest, Nat.lt_succ_self _⟩)
  | cs => digitRun cs

def fractionPart (cs : List Char) :
    Except Fault (List Char × { rest : List Char // rest.length ≤ cs.length }) :=
  match cs with
  | '.' :: rest =>
    match digitRun rest with
    | .ok (ds, rest') => .ok (ds, ⟨rest'.1, Nat.le_of_lt (Nat.lt_succ_of_lt rest'.2)⟩)
    | .error e => .error e
  | cs => .ok ([], ⟨cs, Nat.le_refl _⟩)

def exponentSign : (cs : List Char) → Bool × { rest : List Char // rest.length ≤ cs.length }
  | '+' :: rest => (false, ⟨rest, Nat.le_succ _⟩)
  | '-' :: rest => (true, ⟨rest, Nat.le_succ _⟩)
  | cs => (false, ⟨cs, Nat.le_refl _⟩)

def exponentPart (cs : List Char) :
    Except Fault
      (Option (Bool × List Char) × { rest : List Char // rest.length ≤ cs.length }) :=
  match cs with
  | [] => .ok (none, ⟨[], Nat.le_refl _⟩)
  | c :: rest =>
    if c = 'e' ∨ c = 'E' then
      let (negative, rest') := exponentSign rest
      match digitRun rest'.1 with
      | .ok (ds, rest'') =>
        .ok (some (negative, ds),
          ⟨rest''.1, Nat.le_of_lt (Nat.lt_succ_of_lt (Nat.lt_of_lt_of_le rest''.2 rest'.2))⟩)
      | .error e => .error e
    else .ok (none, ⟨c :: rest, Nat.le_refl _⟩)

/-- The digits, fraction and exponent of a number whose sign is known. -/
def unsigned (negative : Bool) (cs : List Char) : Reading cs.length Number :=
  match wholePart cs with
  | .error e => .error e
  | .ok (whole, rest) =>
    match fractionPart rest.1 with
    | .error e => .error e
    | .ok (fraction, rest') =>
      match exponentPart rest'.1 with
      | .error e => .error e
      | .ok (exponent, rest'') =>
        .ok (⟨negative, whole, fraction, exponent⟩,
          ⟨rest''.1, Nat.lt_of_le_of_lt rest''.2 (Nat.lt_of_le_of_lt rest'.2 rest.2)⟩)

def numberLiteral (cs : List Char) : Reading cs.length Number :=
  match cs with
  | '-' :: rest => (unsigned true rest).later (Nat.le_succ _)
  | cs => unsigned false cs

/-! ## Strings -/

def hexValue? (c : Char) : Option Nat :=
  let n := c.toNat
  if 48 ≤ n ∧ n ≤ 57 then some (n - 48)
  else if 97 ≤ n ∧ n ≤ 102 then some (n - 87)
  else if 65 ≤ n ∧ n ≤ 70 then some (n - 55)
  else none

/-- Four hexadecimal digits. Where fewer than four bytes are left the text ends too early. -/
def codeUnit (cs : List Char) : Reading cs.length Nat :=
  match cs with
  | a :: b :: c :: d :: rest =>
    match hexValue? a, hexValue? b, hexValue? c, hexValue? d with
    | some a, some b, some c, some d =>
      .ok (((a * 16 + b) * 16 + c) * 16 + d, ⟨rest, by simp; omega⟩)
    | _, _, _, _ => .error .invalidEscape
  | few => if Text.utf8Length few < 4 then .error .endInString else .error .invalidEscape

/-- The second half of a surrogate pair whose first half is known. -/
def secondHalf (high : Nat) (cs : List Char) : Reading cs.length Char :=
  match cs with
  | [] => .error .endInString
  | ['\\'] => .error .endInString
  | '\\' :: 'u' :: rest =>
    match codeUnit rest with
    | .error e => .error e
    | .ok (low, rest') =>
      if 0xDC00 ≤ low ∧ low ≤ 0xDFFF then
        .ok (Char.ofNat ((high - 0xD800) * 1024 + (low - 0xDC00) + 0x10000),
          ⟨rest'.1, Nat.lt_succ_of_lt (Nat.lt_succ_of_lt rest'.2)⟩)
      else .error .loneSurrogate
  | _ => .error .unfinishedPair

/-- The character written by hexadecimal digits, one code unit or a surrogate pair. -/
def hexEscape (cs : List Char) : Reading cs.length Char :=
  match codeUnit cs with
  | .error e => .error e
  | .ok (n, rest) =>
    if 0xDC00 ≤ n ∧ n ≤ 0xDFFF then .error .loneSurrogate
    else if 0xD800 ≤ n ∧ n ≤ 0xDBFF then
      (secondHalf n rest.1).later (Nat.le_of_lt rest.2)
    else .ok (Char.ofNat n, rest)

def escape (cs : List Char) : Reading cs.length Char :=
  match cs with
  | [] => .error .endInString
  | c :: rest =>
    if c = 'u' then (hexEscape rest).later (Nat.le_succ _)
    else
      match escapedChar? c with
      | some d => .ok (d, ⟨rest, Nat.lt_succ_self _⟩)
      | none => .error .invalidEscape
where
  escapedChar? (c : Char) : Option Char :=
    if c = '"' ∨ c = '\\' ∨ c = '/' then some c
    else if c = 'b' then some '\x08'
    else if c = 'f' then some '\x0c'
    else if c = 'n' then some '\n'
    else if c = 'r' then some '\r'
    else if c = 't' then some '\t'
    else none

/-- The characters of a string up to its closing quote, after those already read. -/
def stringBody {n : Nat} (read : List Char) (cs : List Char) (h : cs.length ≤ n) :
    Reading n String :=
  match cs, h with
  | [], _ => .error .endInString
  | c :: rest, h =>
    if c = '"' then .ok (String.ofList read.reverse, ⟨rest, h⟩)
    else if c = '\\' then
      match escape rest with
      | .ok (d, rest') =>
        stringBody (d :: read) rest'.1
          (Nat.le_of_lt (Nat.lt_trans rest'.2 (Nat.lt_of_succ_le h)))
      | .error e => .error e
    else if c.toNat < 0x20 then .error .controlInString
    else stringBody (c :: read) rest (Nat.le_of_succ_le h)
termination_by cs.length
decreasing_by
  · exact Nat.lt_succ_of_lt rest'.2
  · exact Nat.lt_succ_self _

def stringLiteral (cs : List Char) : Reading cs.length String := stringBody [] cs (Nat.le_refl _)

/-! ## Arrays and objects -/

/-- A reader of values, as arrays and objects use it for their contents. -/
abbrev ValueReader := (cs : List Char) → Reading cs.length Json

/-- What follows an item of an array: the closing bracket, or a comma and a further item. -/
def moreItems {n : Nat} (value : ValueReader) (read : List Json) (cs : List Char)
    (hn : cs.length ≤ n) : Reading n (List Json) :=
  match h : skipSpace cs with
  | [] => .error .endInArray
  | c :: rest =>
    have hrest : rest.length < cs.length := by
      have := length_skipSpace_le cs
      rw [h] at this
      exact this
    if c = ']' then .ok (read.reverse, ⟨rest, Nat.lt_of_lt_of_le hrest hn⟩)
    else if c = ',' then
      match skipSpace rest with
      | [] => .error .endInValue
      | d :: _ =>
        if d = ']' then .error .trailingComma
        else
          match value rest with
          | .ok (j, rest') =>
            moreItems value (j :: read) rest'.1
              (Nat.le_of_lt (Nat.lt_of_lt_of_le (Nat.lt_trans rest'.2 hrest) hn))
          | .error e => .error e
    else .error .itemSeparatorExpected
termination_by cs.length
decreasing_by exact Nat.lt_trans rest'.2 hrest

def items (value : ValueReader) (cs : List Char) : Reading cs.length (List Json) :=
  match h : skipSpace cs with
  | [] => .error .endInArray
  | c :: rest =>
    if c = ']' then
      .ok ([], ⟨rest, by have := length_skipSpace_le cs; rw [h] at this; exact this⟩)
    else
      match value cs with
      | .ok (j, rest') => moreItems value [j] rest'.1 (Nat.le_of_lt rest'.2)
      | .error e => .error e

/-- The key of a member after its opening quote, and the colon behind it. -/
def memberKey (cs : List Char) : Reading cs.length String :=
  match stringLiteral cs with
  | .error e => .error e
  | .ok (key, rest) =>
    match h : skipSpace rest.1 with
    | [] => .error .endInObject
    | c :: rest' =>
      if c = ':' then
        .ok (key, ⟨rest', by
          have h1 := rest.2
          have h2 := length_skipSpace_le rest.1
          rw [h] at h2
          simp only [List.length_cons] at h2
          omega⟩)
      else .error .colonExpected

def member (value : ValueReader) (cs : List Char) : Reading cs.length (String × Json) :=
  match memberKey cs with
  | .error e => .error e
  | .ok (key, rest) => ((value rest.1).map (key, ·)).later (Nat.le_of_lt rest.2)

/-- What follows a member of an object: the closing brace, or a comma and a further member. The
members already read are given last first. -/
def moreMembers {n : Nat} (value : ValueReader) (read : List (String × Json)) (cs : List Char)
    (hn : cs.length ≤ n) : Reading n (List (String × Json)) :=
  match h : skipSpace cs with
  | [] => .error .endInObject
  | c :: rest =>
    have hrest : rest.length < cs.length := by
      have := length_skipSpace_le cs
      rw [h] at this
      exact this
    if c = '\x7d' then .ok (read.reverse, ⟨rest, Nat.lt_of_lt_of_le hrest hn⟩)
    else if c = ',' then
      match h' : skipSpace rest with
      | [] => .error .endInValue
      | d :: body =>
        have hbody : body.length < cs.length := by
          have := length_skipSpace_le rest
          rw [h'] at this
          exact Nat.lt_trans this hrest
        if d = '"' then
          match member value body with
          | .ok (m, rest') =>
            moreMembers value (m :: read) rest'.1
              (Nat.le_of_lt (Nat.lt_of_lt_of_le (Nat.lt_trans rest'.2 hbody) hn))
          | .error e => .error e
        else if d = '\x7d' then .error .trailingComma
        else .error .keyExpected
    else .error .memberSeparatorExpected
termination_by cs.length
decreasing_by exact Nat.lt_trans rest'.2 hbody

/-! ## Numbers in objects -/

/-- The key of the one member of an object that stands for a number. -/
def numberKey : String := "$serde_json::private::Number"

/-- Whether a number is an integer of 64 bits. A zero with a minus sign is none. -/
def Number.isWord (n : Number) : Bool :=
  n.integer?.any fun i =>
    if n.negative then Int64.minValue.toInt ≤ i ∧ i < 0 else i < UInt64.size

def Number.kind (n : Number) : String :=
  if n.isWord then "integer `" ++ String.ofList n.text ++ "`" else "number"

/-- The fault of a value that begins with the given character where the text of a number has to
stand. Of an array or an object nothing but its beginning is looked at. -/
def misplaced (c : Char) (rest : List Char) : Fault :=
  let afterWord (letters : List Char) (got : String) : Fault :=
    match word letters rest with
    | .ok _ => .numberTextExpected got
    | .error e => e
  if c = 'n' then afterWord "ull".toList "null"
  else if c = 't' then afterWord "rue".toList "boolean `true`"
  else if c = 'f' then afterWord "alse".toList "boolean `false`"
  else if c = '-' ∨ c.isDigit then
    match numberLiteral (c :: rest) with
    | .ok (n, _) => .numberTextExpected n.kind
    | .error e => e
  else if c = '[' then .numberTextExpected "sequence"
  else if c = '\x7b' then .numberTextExpected "map"
  else .valueExpected

/-- The number that a text is, with nothing around it. -/
def numberOfText (cs : List Char) : Except Fault Number :=
  match cs with
  | [] => .error .endInValue
  | c :: _ =>
    if c = '-' ∨ c.isDigit then
      match numberLiteral cs with
      | .ok (n, rest) => if rest.1.isEmpty then .ok n else .error .invalidNumber
      | .error e => .error e
    else .error .invalidNumber

def numberText (cs : List Char) : Reading cs.length Number :=
  match h : skipSpace cs with
  | [] => .error .endInValue
  | c :: rest =>
    have hrest : rest.length < cs.length := by
      have := length_skipSpace_le cs
      rw [h] at this
      exact this
    if c = '"' then
      match stringLiteral rest with
      | .error e => .error e
      | .ok (text, rest') =>
        match numberOfText text.toList with
        | .ok n => .ok (n, ⟨rest'.1, Nat.lt_trans rest'.2 hrest⟩)
        | .error e => .error e
    else .error (misplaced c rest)

/-- The end of an object that stands for a number: it has no further members. -/
def numberEnd (cs : List Char) : Reading cs.length Unit :=
  match h : skipSpace cs with
  | [] => .error .endInObject
  | c :: rest =>
    if c = '\x7d' then
      .ok ((), ⟨rest, by have := length_skipSpace_le cs; rw [h] at this; exact this⟩)
    else if c = ',' then .error .trailingComma
    else .error .trailingCharacters

def numberObject (cs : List Char) : Reading cs.length Number :=
  match numberText cs with
  | .error e => .error e
  | .ok (n, rest) => ((numberEnd rest.1).map fun _ => n).later (Nat.le_of_lt rest.2)

/-- An object after its opening brace, or the number for which it stands. -/
def objectOrNumber (value : ValueReader) (cs : List Char) : Reading cs.length Json :=
  match h : skipSpace cs with
  | [] => .error .endInObject
  | c :: rest =>
    have hrest : rest.length < cs.length := by
      have := length_skipSpace_le cs
      rw [h] at this
      exact this
    if c = '\x7d' then .ok (.object [], ⟨rest, hrest⟩)
    else if c = '"' then
      match memberKey rest with
      | .error e => .error e
      | .ok (key, rest') =>
        have hrest' : rest'.1.length < cs.length := Nat.lt_trans rest'.2 hrest
        if key = numberKey then
          ((numberObject rest'.1).map .number).later (Nat.le_of_lt hrest')
        else
          match value rest'.1 with
          | .error e => .error e
          | .ok (j, rest'') =>
            (moreMembers value [(key, j)] rest''.1
              (Nat.le_of_lt (Nat.lt_trans rest''.2 hrest'))).map .ofMembers
    else .error .keyExpected

/-! ## Values -/

/-- A value that begins at the given character, with at most `levels` arrays and objects inside
one another; `inner` reads the values one level further down. -/
def valueAt (inner : Option ValueReader) (c : Char) (rest : List Char) :
    Reading (rest.length + 1) Json :=
  if c = 'n' then constant "ull".toList .null rest
  else if c = 't' then constant "rue".toList (.bool true) rest
  else if c = 'f' then constant "alse".toList (.bool false) rest
  else if c = '-' ∨ c.isDigit then (numberLiteral (c :: rest)).map .number
  else if c = '"' then ((stringLiteral rest).later (Nat.le_succ _)).map .string
  else if c = '[' then
    match inner with
    | some value => ((items value rest).later (Nat.le_succ _)).map .array
    | none => .error .tooDeep
  else if c = '\x7b' then
    match inner with
    | some value => (objectOrNumber value rest).later (Nat.le_succ _)
    | none => .error .tooDeep
  else .error .valueExpected

def valueWith (inner : Option ValueReader) (cs : List Char) : Reading cs.length Json :=
  match h : skipSpace cs with
  | [] => .error .endInValue
  | c :: rest =>
    (valueAt inner c rest).later (by have := length_skipSpace_le cs; rwa [h] at this)

def value : (levels : Nat) → ValueReader
  | 0 => valueWith none
  | levels + 1 => valueWith (some (value levels))

/-- How many arrays and objects may stand inside one another. -/
def maxDepth : Nat := 127

/-- Reads a text that holds one value and nothing but white space around it. -/
def parseChars (cs : List Char) : Except Fault Json :=
  match value maxDepth cs with
  | .error e => .error e
  | .ok (j, rest) => if (skipSpace rest.1).isEmpty then .ok j else .error .trailingCharacters

def parse (text : String) : Except Fault Json := parseChars text.toList

end HomeEnergy.Json

import HomeEnergy.Toml.Document
import HomeEnergy.Toml.Scalar

/-!
Reading TOML documents. A reader takes a part off the front of a text; a text that breaks a rule
has no reading, and nothing is said about the place. Every loop goes on only with what is shorter
than what it had, so it ends because the text does, and arrays and inline tables end because each of
them uses up one of the levels that may stand inside one another.
-/

namespace HomeEnergy.Toml

/-- Takes a part off the front of a text. -/
abbrev Reader (α : Type) := List Char → Option (α × List Char)

/-! ## Blanks, comments and line ends -/

def isBlank (c : Char) : Bool := c == ' ' || c == '\t'

def skipBlanks (cs : List Char) : List Char := cs.dropWhile isBlank

/-- A character other than a control character; a tab is none here. -/
def isPlain (c : Char) : Bool := c == '\t' || (' ' ≤ c && c ≤ '~') || '\x80' ≤ c

def newline? : List Char → Option (List Char)
  | '\n' :: rest => some rest
  | '\r' :: '\n' :: rest => some rest
  | _ => none

/-- Drops what may stand at the end of a line, and the end of the line or of the text. -/
def lineEnd? (cs : List Char) : Option (List Char) :=
  let rest := match skipBlanks cs with
    | '#' :: comment => comment.dropWhile isPlain
    | rest => rest
  if rest.isEmpty then some [] else newline? rest

def skipLines (cs : List Char) : List Char :=
  let rest := skipBlanks cs
  if rest.isEmpty then []
  else
    match lineEnd? rest with
    | none => rest
    | some after => if after.length < cs.length then skipLines after else after
termination_by cs.length

def skipBlankLines (cs : List Char) : List Char :=
  let rest := skipBlanks cs
  match newline? rest with
  | none => rest
  | some after => if after.length < cs.length then skipBlankLines after else after
termination_by cs.length

/-! ## Strings -/

/-- The character with a code point of so many hexadecimal digits. -/
def codePoint (width : Nat) : Reader Char := fun cs =>
  let ds := cs.take width
  let n := ds.foldl (fun n c => 16 * n + digitValue c) 0
  if ds.length = width ∧ ds.all isHexDigit ∧ n.isValidChar then some (.ofNat n, cs.drop width)
  else none

def escape : Reader Char
  | 'u' :: rest => codePoint 4 rest
  | 'U' :: rest => codePoint 8 rest
  | c :: rest => (letter? c).map (·, rest)
  | [] => none
where
  letter? (c : Char) : Option Char :=
    match c with
    | 'b' => some '\x08'
    | 't' => some '\t'
    | 'n' => some '\n'
    | 'f' => some '\x0c'
    | 'r' => some '\r'
    | '"' => some '"'
    | '\\' => some '\\'
    | _ => none

structure Quotation where
  quote : Char
  /-- Whether a backslash has a meaning. -/
  escapes : Bool
  /-- Whether the string may go on over lines. -/
  spans : Bool

namespace Quotation

def ofQuote (quote : Char) (spans : Bool) : Quotation := ⟨quote, quote == '"', spans⟩

/-- Whether a character stands for itself wherever it stands. -/
def isOrdinary (q : Quotation) (c : Char) : Bool :=
  isPlain c && c != q.quote && (c != '\\' || !q.escapes)

/-- The next piece of the string's text, and what is left. A backslash at the end of a line takes
away the blanks and line ends that follow it. -/
def piece (q : Quotation) (cs : List Char) : Option (List Char × List Char) :=
  let run := cs.takeWhile q.isOrdinary
  if !run.isEmpty then some (run, cs.drop run.length)
  else
    match cs with
    | [] => none
    | c :: rest =>
      if c = q.quote then some ([c], rest)
      else if c = '\\' then
        match newline? (skipBlanks rest) with
        | some after =>
          if q.spans then some ([], skipBlankLines after) else none
        | none => (escape rest).map fun (d, rest) => ([d], rest)
      else if q.spans then (newline? cs).map (['\n'], ·)
      else none

/-- Takes off the closing quotes: one, or three after at most two that belong to the text. -/
def close? (q : Quotation) (cs : List Char) : Option (List Char × List Char) :=
  if q.spans then
    let quotes := cs.takeWhile (· == q.quote)
    if quotes.length < 3 then none
    else
      let kept := min (quotes.length - 3) 2
      some (quotes.take kept, cs.drop (kept + 3))
  else
    match cs with
    | c :: rest => if c = q.quote then some ([], rest) else none
    | [] => none

def body (q : Quotation) (read : List Char) (cs : List Char) : Option (String × List Char) :=
  match q.close? cs with
  | some (kept, rest) => some (String.ofList (read.reverse ++ kept), rest)
  | none =>
    match q.piece cs with
    | none => none
    | some (cs', rest) =>
      if rest.length < cs.length then q.body (cs'.reverse ++ read) rest else none
termination_by cs.length

end Quotation

def lineString : Reader String
  | '"' :: rest => (Quotation.ofQuote '"' false).body [] rest
  | '\'' :: rest => (Quotation.ofQuote '\'' false).body [] rest
  | _ => none

/-- A string. In one that may go on over lines a line end right at the start does not count. -/
def string : Reader String
  | '"' :: '"' :: '"' :: rest =>
    (Quotation.ofQuote '"' true).body [] ((newline? rest).getD rest)
  | '\'' :: '\'' :: '\'' :: rest =>
    (Quotation.ofQuote '\'' true).body [] ((newline? rest).getD rest)
  | cs => lineString cs

/-! ## Keys -/

def separated {α : Type} (item : Reader α) (separator : Char) (cs : List Char) :
    Option (List α × List Char) :=
  match item cs with
  | none => none
  | some (a, rest) =>
    match rest with
    | c :: more =>
      if c = separator then
        if more.length < cs.length then
          (separated item separator more).map fun (as, rest) => (a :: as, rest)
        else none
      else some ([a], c :: more)
    | [] => some ([a], [])
termination_by cs.length

def isBareKeyChar (c : Char) : Bool := c.isAlphanum || c == '-' || c == '_'

def keyPart : Reader String := fun cs =>
  let cs := skipBlanks cs
  let bare := cs.takeWhile isBareKeyChar
  let part := if bare.isEmpty then lineString cs
    else some (String.ofList bare, cs.drop bare.length)
  part.map fun (key, rest) => (key, skipBlanks rest)

/-- How many parts a key may have, and how many arrays and inline tables may stand inside one
another. -/
def mostLevels : Nat := 79

/-- A dotted key: the path before its last part, and the last part. -/
def dottedKey : Reader (List String × String) := fun cs => do
  let (parts, rest) ← separated keyPart '.' cs
  if mostLevels < parts.length then none
  else (parts.getLast?).map fun key => ((parts.dropLast, key), rest)

def pair (value : Reader Value) : Reader ((List String × String) × Value) := fun cs => do
  match ← dottedKey cs with
  | (key, '=' :: rest) => (value (skipBlanks rest)).map fun (v, rest) => ((key, v), rest)
  | _ => none

/-! ## Values -/

/-- A number, a date, a time or a truth value. A date and a time may have a blank between them. -/
def scalar : Reader Value := fun cs =>
  let run := cs.takeWhile isScalarChar
  let rest := cs.drop run.length
  let full := match date? run, rest with
    | some (_, []), ' ' :: h :: h' :: ':' :: more =>
      if h.isDigit ∧ h'.isDigit then
        run ++ ' ' :: h :: h' :: ':' :: more.takeWhile isScalarChar
      else run
    | _, _ => run
  (scalar? full).map (·, cs.drop full.length)

/-- The items of an array after its opening bracket. A comma may follow the last one. -/
def items (value : Reader Value) (cs : List Char) : Option (List Value × List Char) :=
  match skipLines cs with
  | [] => none
  | c :: rest =>
    if c = ']' then some ([], rest)
    else
      match value (c :: rest) with
      | none => none
      | some (v, after) =>
        match skipLines after with
        | ']' :: rest => some ([v], rest)
        | ',' :: more =>
          if more.length < cs.length then
            (items value more).map fun (vs, rest) => (v :: vs, rest)
          else none
        | _ => none
termination_by cs.length

def inlineTable (value : Reader Value) : Reader Value := fun cs =>
  match skipBlanks cs with
  | '\x7d' :: rest => some (.table [], rest)
  | cs => do
    let item := fun cs => (pair value cs).map fun (p, rest) => (p, skipBlanks rest)
    match ← separated item ',' cs with
    | (pairs, '\x7d' :: rest) =>
      let (_, entries) ← pairs.foldlM
        (fun (origin, entries) ((path, key), v) => Node.assign path key v origin entries)
        (Origin.header, [])
      some (.table (Node.toEntries entries), rest)
    | _ => none

/-- A value with at most so many arrays and inline tables inside one another. -/
def value (levels : Nat) (cs : List Char) : Option (Value × List Char) :=
  match levels, cs with
  | inner + 1, '[' :: rest => (items (value inner) rest).map fun (vs, rest) => (.array vs, rest)
  | inner + 1, '\x7b' :: rest => inlineTable (value inner) rest
  | _, '"' :: _ => (string cs).map fun (s, rest) => (.string s, rest)
  | _, '\'' :: _ => (string cs).map fun (s, rest) => (.string s, rest)
  | _, cs => scalar cs

/-! ## Documents -/

def sectionKey (closing : List Char) : Reader (List String × String) := fun cs => do
  let (key, rest) ← dottedKey cs
  if closing.isPrefixOf rest then some (key, rest.drop closing.length) else none

/-- A line of a document: the header of a section, an assignment, or neither. -/
def line (d : Draft) (cs : List Char) : Option (Draft × List Char) := do
  let cs := skipBlanks cs
  let (d, rest) ← match cs with
    | '[' :: '[' :: rest => do
      let ((path, key), rest) ← sectionKey [']', ']'] rest
      some (← d.begin Node.openItem path key, rest)
    | '[' :: rest => do
      let ((path, key), rest) ← sectionKey [']'] rest
      some (← d.begin Node.openTable path key, rest)
    | cs =>
      if (lineEnd? cs).isSome then some (d, cs)
      else do
        let (((path, key), v), rest) ← pair (value mostLevels) cs
        some (← d.assign path key v, rest)
  some (d, ← lineEnd? rest)

def document (d : Draft) (cs : List Char) : Option Draft :=
  if cs.isEmpty then some d
  else
    match line d cs with
    | none => none
    | some (d, rest) => if rest.length < cs.length then document d rest else none
termination_by cs.length

/-- The entries of the document that a text holds. A mark of the byte order at the start does not
count. -/
def parse? (text : String) : Option (List (String × Value)) :=
  let cs := match text.toList with
    | '\uFEFF' :: rest => rest
    | cs => cs
  (document .empty cs).map fun d => Node.toEntries d.entries

end HomeEnergy.Toml

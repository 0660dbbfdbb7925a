import HomeEnergy.Toml.DateTable

/-!
TOML values on one line. The entries of a table are written in the order of their keys. A string is
written in the plainest kind of quotes that can hold it: double quotes as long as nothing has to be
escaped, then single quotes, then the kinds that go on over lines, and double quotes with escapes if
nothing else will do.
-/

namespace HomeEnergy.Toml

/-! ## Strings -/

def longestRun (c : Char) (cs : List Char) : Nat :=
  (cs.foldl (fun (best, run) d => if d = c then (max best (run + 1), run + 1) else (best, 0))
    (0, 0)).1

/-- Whether a character can only be written by an escape, wherever it stands. -/
def isControl (c : Char) : Bool := (c < ' ' && c != '\t' && c != '\n') || c == '\x7f'

def upperHexDigit (n : Nat) : Char := (Nat.digitChar n).toUpper

def escapedChar (c : Char) : List Char :=
  match c with
  | '\x08' => ['\\', 'b']
  | '\t' => ['\\', 't']
  | '\n' => ['\\', 'n']
  | '\x0c' => ['\\', 'f']
  | '\r' => ['\\', 'r']
  | '"' => ['\\', '"']
  | '\\' => ['\\', '\\']
  | c =>
    if isControl c then
      ['\\', 'u', '0', '0', upperHexDigit (c.toNat / 16), upperHexDigit (c.toNat % 16)]
    else [c]

/-- Between three double quotes a line end stands for itself, and so do two quotes in a row. -/
def escapedLines : (quotes : Nat) → List Char → List Char
  | _, [] => []
  | quotes, c :: rest =>
    if c = '\n' then c :: escapedLines 0 rest
    else if c = '"' ∧ quotes < 2 then c :: escapedLines (quotes + 1) rest
    else escapedChar c ++ escapedLines 0 rest

/-- The inside of a string between three quotes; a line end at the start does not count. -/
def tripled (quote : Char) (cs inside : List Char) : List Char :=
  List.replicate 3 quote ++ (if cs.contains '\n' then ['\n'] else []) ++ inside ++
    List.replicate 3 quote

def basicText (cs : List Char) : List Char := '"' :: cs.flatMap escapedChar ++ ['"']

/-- A string in the plainest kind of quotes. -/
def stringText (cs : List Char) : List Char :=
  let controls := cs.any isControl
  let newline := cs.contains '\n'
  let backslash := cs.contains '\\'
  let double := longestRun '"' cs
  let single := longestRun '\'' cs
  if !controls ∧ !backslash ∧ double = 0 ∧ !newline then basicText cs
  else if !controls ∧ single = 0 ∧ !newline then '\'' :: cs ++ ['\'']
  else if !controls ∧ !backslash ∧ double ≤ 2 then tripled '"' cs (escapedLines 0 cs)
  else if !controls ∧ single ≤ 2 then tripled '\'' cs cs
  else if newline then tripled '"' cs (escapedLines 0 cs)
  else basicText cs

/-- A key: bare, or in the plainest kind of quotes on one line. -/
def keyText (cs : List Char) : List Char :=
  let bare := !cs.isEmpty && cs.all fun c => c.isAlphanum || c == '-' || c == '_'
  let literal := !cs.any isControl && !cs.contains '\n' && !cs.contains '\''
  if bare then cs
  else if literal ∧ (cs.contains '\\' ∨ cs.contains '"') then '\'' :: cs ++ ['\'']
  else basicText cs

/-! ## Values -/

namespace Value

def listed (parts : List (List Char)) : List Char := List.intercalate [',', ' '] parts

def tableText (entries : List (String × List Char)) : List Char :=
  if entries.isEmpty then "\x7b\x7d".toList
  else '\x7b' :: ' ' :: listed (Table.ofList entries).values ++ [' ', '\x7d']

mutual

/-- The written form inside another value. -/
def inline : Value → List Char
  | .string s => stringText s.toList
  | .integer i => (Text.intText i).toList
  | .float x => x.text
  | .boolean true => "true".toList
  | .boolean false => "false".toList
  | .datetime d => d.text
  | .array items => '[' :: listed (inlineItems items) ++ [']']
  | .table entries => tableText (inlineEntries entries)

def inlineItems : List Value → List (List Char)
  | [] => []
  | v :: rest => inline v :: inlineItems rest

def inlineEntries : List (String × Value) → List (String × List Char)
  | [] => []
  | e :: rest => inlineEntry e :: inlineEntries rest

def inlineEntry : String × Value → String × List Char
  | (key, v) => (key, keyText key.toList ++ " = ".toList ++ inline v)

end

def text (v : Value) : String :=
  String.ofList <| match v with
    | .datetime d => inline (.table [(datetimeKey, .string (String.ofList d.text))])
    | v => inline v

end Value

end HomeEnergy.Toml

import HomeEnergy.Json.Basic

/-!
The compact written form of JSON values: no white space, numbers with the digits they have, and
strings in which only quotes, backslashes and controls are escaped.
-/

namespace HomeEnergy.Json

def hexDigit (n : Nat) : Char := if n < 10 then Char.ofNat (48 + n) else Char.ofNat (87 + n)

def writeChar (c : Char) : List Char :=
  if c = '"' then ['\\', '"']
  else if c = '\\' then ['\\', '\\']
  else if c = '\x08' then ['\\', 'b']
  else if c = '\t' then ['\\', 't']
  else if c = '\n' then ['\\', 'n']
  else if c = '\x0c' then ['\\', 'f']
  else if c = '\r' then ['\\', 'r']
  else if c.toNat < 0x20 then
    ['\\', 'u', '0', '0', hexDigit (c.toNat / 16), hexDigit (c.toNat % 16)]
  else [c]

def writeString (s : String) : List Char := '"' :: (s.toList.flatMap writeChar ++ ['"'])

mutual

def write : Json → List Char
  | .null => "null".toList
  | .bool true => "true".toList
  | .bool false => "false".toList
  | .number n => n.text
  | .string s => writeString s
  | .array items => '[' :: writeItems items
  | .object members => '\x7b' :: writeMembers members

/-- The items of an array up to the closing bracket. -/
def writeItems : List Json → List Char
  | [] => [']']
  | j :: rest => write j ++ writeMoreItems rest

def writeMoreItems : List Json → List Char
  | [] => [']']
  | j :: rest => ',' :: (write j ++ writeMoreItems rest)

/-- The members of an object up to the closing brace. -/
def writeMembers : List (String × Json) → List Char
  | [] => ['\x7d']
  | m :: rest => writeMember m ++ writeMoreMembers rest

def writeMoreMembers : List (String × Json) → List Char
  | [] => ['\x7d']
  | m :: rest => ',' :: (writeMember m ++ writeMoreMembers rest)

def writeMember : String × Json → List Char
  | (key, value) => writeString key ++ ':' :: write value

end

def render (j : Json) : String := String.ofList (write j)

end HomeEnergy.Json

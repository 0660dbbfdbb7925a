import HomeEnergy.Json.Parser

/-!
Passing over a JSON value without looking into it. Nothing of it is kept, so arrays and objects may
stand inside one another to any depth, and a code unit in a string need not be a character.
-/

namespace HomeEnergy.Json

def skimString : List Char → Option (List Char)
  | [] => none
  | '"' :: rest => some rest
  | '\\' :: 'u' :: a :: b :: c :: d :: rest =>
    if [a, b, c, d].all fun x => (hexValue? x).isSome then skimString rest else none
  | '\\' :: c :: rest => if (escape.escapedChar? c).isSome then skimString rest else none
  | c :: rest => if c.toNat < 0x20 then none else skimString rest

/-- Passes over a value that begins with the given character and is neither array nor object. -/
def skimScalar (c : Char) (rest : List Char) : Option (List Char) :=
  let afterWord (letters : String) : Option (List Char) :=
    (word letters.toList rest).toOption.map Subtype.val
  if c = 'n' then afterWord "ull"
  else if c = 't' then afterWord "rue"
  else if c = 'f' then afterWord "alse"
  else if c = '"' then skimString rest
  else if c = '-' ∨ c.isDigit then (numberLiteral (c :: rest)).toOption.map fun p => p.2.1
  else none

/-- What comes next while a value is passed over. -/
inductive Stage where
  | value
  | key
  | afterValue
deriving DecidableEq, Repr

/-- Passes over what is left of a value; `outer` holds the brackets that are open, the innermost
first. Every step but the last uses up a character. -/
def skim : (steps : Nat) → (outer : List Char) → Stage → List Char → Option (List Char)
  | 0, _, _, _ => none
  | steps + 1, outer, .value, cs =>
    match skipSpace cs with
    | [] => none
    | c :: rest =>
      if c = '[' then
        match skipSpace rest with
        | ']' :: rest => skim steps outer .afterValue rest
        | rest => skim steps (c :: outer) .value rest
      else if c = '\x7b' then
        match skipSpace rest with
        | '\x7d' :: rest => skim steps outer .afterValue rest
        | rest => skim steps (c :: outer) .key rest
      else (skimScalar c rest).bind (skim steps outer .afterValue)
  | steps + 1, outer, .key, cs =>
    match skipSpace cs with
    | '"' :: rest =>
      match (skimString rest).map skipSpace with
      | some (':' :: rest) => skim steps outer .value rest
      | _ => none
    | _ => none
  | _ + 1, [], .afterValue, cs => some cs
  | steps + 1, bracket :: outer, .afterValue, cs =>
    match skipSpace cs with
    | [] => none
    | c :: rest =>
      if c = ',' then
        skim steps (bracket :: outer) (if bracket = '[' then .value else .key) rest
      else if c = (if bracket = '[' then ']' else '\x7d') then skim steps outer .afterValue rest
      else none

def skimValue (cs : List Char) : Option (List Char) := skim (cs.length + 1) [] .value cs

end HomeEnergy.Json

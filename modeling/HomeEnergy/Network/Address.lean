import HomeEnergy.Text.Numeral

/-!
The written form of socket addresses: four numbers with points between them, or up to eight groups
of hexadecimal digits in brackets, of which one run may be left out, and then a port.
-/

namespace HomeEnergy.Network

/-- Takes a number off the front of a text: at least one digit, at most `width` of them, and a value
below `bound`. -/
def number? (width bound : Nat) (zeros : Bool) (cs : List Char) : Option (Nat × List Char) :=
  let ds := cs.takeWhile Char.isDigit
  match Text.natOfDigits? ds with
  | some n =>
    if width < ds.length ∨ bound ≤ n ∨ (!zeros ∧ 1 < ds.length ∧ ds.head? = some '0') then none
    else some (n, cs.drop ds.length)
  | none => none

def sign? (c : Char) : List Char → Option (List Char)
  | d :: rest => if d = c then some rest else none
  | [] => none

/-- Four numbers with points between them; what is left of the text. -/
def version4? (cs : List Char) : Option (List Char) := do
  let (_, cs) ← number? 3 256 false cs
  let (_, cs) ← number? 3 256 false (← sign? '.' cs)
  let (_, cs) ← number? 3 256 false (← sign? '.' cs)
  let (_, cs) ← number? 3 256 false (← sign? '.' cs)
  some cs

def isHexDigit (c : Char) : Bool :=
  c.isDigit || ('a' ≤ c && c ≤ 'f') || ('A' ≤ c && c ≤ 'F')

/-- Takes up to `most` groups with colons between them off the front of a text: how many there were,
whether they ended in four numbers, and what is left. Four numbers count as two groups. -/
def groups : (most : Nat) → (first : Bool) → List Char → Nat × Bool × List Char
  | 0, _, cs => (0, false, cs)
  | most + 1, first, cs =>
    match if first then some cs else sign? ':' cs with
    | none => (0, false, cs)
    | some body =>
      match if most = 0 then none else version4? body with
      | some rest => (2, true, rest)
      | none =>
        let ds := body.takeWhile isHexDigit
        if ds.isEmpty ∨ 4 < ds.length then (0, false, cs)
        else
          let (n, embedded, rest) := groups most false (body.drop ds.length)
          (n + 1, embedded, rest)

/-- Eight groups, or fewer around two colons that stand for those left out; what is left of the
text. -/
def version6? (cs : List Char) : Option (List Char) :=
  match groups 8 true cs with
  | (8, _, rest) => some rest
  | (n, false, ':' :: ':' :: rest) => some (groups (7 - n) true rest).2.2
  | _ => none

def isPort (cs : List Char) : Bool :=
  match number? cs.length 65536 true cs with
  | some (_, []) => true
  | _ => false

def isSocketAddress (text : String) : Bool :=
  match text.toList with
  | '[' :: body =>
    match version6? body with
    | some rest =>
      let rest := match rest with
        | '%' :: scope => (number? scope.length UInt32.size true scope).map Prod.snd
        | rest => some rest
      match rest with
      | some (']' :: ':' :: port) => isPort port
      | _ => false
    | none => false
  | cs =>
    match version4? cs with
    | some (':' :: port) => isPort port
    | _ => false

end HomeEnergy.Network

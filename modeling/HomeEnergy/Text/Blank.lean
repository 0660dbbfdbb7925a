/-!
White space: the characters with the Unicode property `White_Space`, and trimming by it.
-/

namespace HomeEnergy.Text

/-- The Unicode property `White_Space`. -/
def isBlank (c : Char) : Bool :=
  let n := c.toNat
  (9 ≤ n && n ≤ 13) || n == 0x20 || n == 0x85 || n == 0xA0 || n == 0x1680 ||
    (0x2000 ≤ n && n ≤ 0x200A) || n == 0x2028 || n == 0x2029 || n == 0x202F || n == 0x205F ||
    n == 0x3000

def trimStart (cs : List Char) : List Char := cs.dropWhile isBlank

def trimEnd (cs : List Char) : List Char := (cs.reverse.dropWhile isBlank).reverse

def trim (cs : List Char) : List Char := trimEnd (trimStart cs)

def trimmed (s : String) : String := String.ofList (trim s.toList)

/-- The number of bytes a text takes in UTF-8. -/
def utf8Length (cs : List Char) : Nat := cs.foldl (fun n c => n + c.utf8Size) 0

/-- The longer form `p ++ rest` gives `rest`; a text that does not begin with `p` gives nothing. -/
def dropLeading? : (p : List Char) → List Char → Option (List Char)
  | [], cs => some cs
  | _ :: _, [] => none
  | x :: xs, c :: cs => if x = c then dropLeading? xs cs else none

theorem dropLeading?_eq_some_iff {p cs rest : List Char} :
    dropLeading? p cs = some rest ↔ cs = p ++ rest := by
  induction p generalizing cs with
  | nil => simp [dropLeading?]
  | cons x xs ih =>
    cases cs with
    | nil => simp [dropLeading?]
    | cons c cs =>
      by_cases h : x = c
      · subst h
        simp [dropLeading?, ih]
      · simp [dropLeading?, h, Ne.symm h]

end HomeEnergy.Text

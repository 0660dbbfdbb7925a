import HomeEnergy.Proofs.Json.Tokens

/-!
Reading back a value that has been written. What comes out is the value itself unless it nests too
deep or holds an object whose first key is `numberKey`: such an object is read as the number it
seems to stand for, or not at all. `reread` says what comes out of any value, `value_write` that the
reader agrees, and `reread_eq_some_iff` for which values nothing is changed.
-/

namespace HomeEnergy.Json

/-! ## What comes out -/

/-- The number whose text a value is. -/
def writtenNumber? : Json → Option Number
  | .string s => (numberOfText s.toList).toOption
  | _ => none

mutual

/-- The value that is read, with the given number of levels, where a value has been written. -/
def reread : (levels : Nat) → Json → Option Json
  | _, .null => some .null
  | _, .bool b => some (.bool b)
  | _, .number n => some (.number n)
  | _, .string s => some (.string s)
  | 0, .array _ => none
  | levels + 1, .array items => (rereadItems levels items).map .array
  | 0, .object _ => none
  | levels + 1, .object members => rereadObject levels members

/-- The items that are read where items have been written. -/
def rereadItems : (levels : Nat) → List Json → Option (List Json)
  | _, [] => some []
  | levels, j :: rest =>
    (reread levels j).bind fun j => (rereadItems levels rest).map (j :: ·)

/-- The value that is read where an object of these members has been written. -/
def rereadObject : (levels : Nat) → List (String × Json) → Option Json
  | _, [] => some (.object [])
  | levels, (key, j) :: rest =>
    if key = numberKey then
      if rest.isEmpty then (writtenNumber? j).map .number else none
    else
      (reread levels j).bind fun j =>
        (rereadMembers levels rest).map fun rest => .object ((key, j) :: rest)

/-- The members that are read where members have been written, after a first one. -/
def rereadMembers : (levels : Nat) → List (String × Json) → Option (List (String × Json))
  | _, [] => some []
  | levels, (key, j) :: rest =>
    (reread levels j).bind fun j => (rereadMembers levels rest).map ((key, j) :: ·)

end

mutual

/-- Whether no object in a value has `numberKey` for its first key. -/
def unreserved : Json → Bool
  | .array items => unreservedItems items
  | .object members =>
    members.head?.all (fun m => m.1 ≠ numberKey) && unreservedMembers members
  | _ => true

/-- Whether no object in the items has `numberKey` for its first key. -/
def unreservedItems : List Json → Bool
  | [] => true
  | j :: rest => unreserved j && unreservedItems rest

/-- Whether no object in the values of the members has `numberKey` for its first key. -/
def unreservedMembers : List (String × Json) → Bool
  | [] => true
  | (_, j) :: rest => unreserved j && unreservedMembers rest

end

theorem unreservedMembers_iff {members : List (String × Json)} :
    unreservedMembers members ↔ ∀ m ∈ members, m.2.unreserved := by
  induction members with
  | nil => simp [unreservedMembers]
  | cons m rest ih => simp [unreservedMembers, ih]

/-- An object made of members none of which has `numberKey` is not taken for a number. -/
theorem unreserved_ofMembers {members : List (String × Json)}
    (h : ∀ m ∈ members, m.1 ≠ numberKey ∧ m.2.unreserved) : (ofMembers members).unreserved := by
  have hmem : ∀ m ∈ members.foldl (fun o m => Entries.put m.1 m.2 o) [], m ∈ members := by
    intro m hm
    rcases Entries.mem_foldl_put hm with hm | hm
    · cases hm
    · exact hm
  unfold ofMembers unreserved
  rw [Bool.and_eq_true, Option.all_eq_true]
  refine ⟨?_, unreservedMembers_iff.2 fun m hm => (h m (hmem m hm)).2⟩
  intro m hm
  exact decide_eq_true (h m (hmem m (List.mem_of_head? hm))).1

theorem bind_map_eq_some {α β γ : Type} {a : Option α} {b : Option β} {f : α → β → γ} {c : γ} :
    (a.bind fun x => b.map (f x)) = some c ↔ ∃ x y, a = some x ∧ b = some y ∧ f x y = c := by
  cases a with
  | none => simp
  | some x =>
    cases b with
    | none => simp
    | some y => simp

mutual

/-- A value comes out as it was written exactly if it does not nest too deep and holds no object
that could be taken for a number. -/
theorem reread_eq_some_iff : ∀ (levels : Nat) (j : Json),
    reread levels j = some j ↔ j.depth ≤ levels ∧ j.unreserved
  | _, .null => by simp [reread, depth, unreserved]
  | _, .bool _ => by simp [reread, depth, unreserved]
  | _, .number _ => by simp [reread, depth, unreserved]
  | _, .string _ => by simp [reread, depth, unreserved]
  | 0, .array items => by simp [reread, depth]
  | levels + 1, .array items => by
    have hitems := rereadItems_eq_some_iff levels items
    simp [reread, depth, unreserved, hitems]
  | 0, .object members => by simp [reread, depth]
  | levels + 1, .object [] => by simp [reread, rereadObject, depth, membersDepth, unreserved,
      unreservedMembers]
  | levels + 1, .object ((key, j) :: rest) => by
    have hj := reread_eq_some_iff levels j
    have hrest := rereadMembers_eq_some_iff levels rest
    by_cases hkey : key = numberKey
    · simp [reread, rereadObject, unreserved, hkey]
    · simp [reread, rereadObject, depth, membersDepth, unreserved, unreservedMembers, hkey,
        bind_map_eq_some, hj, hrest, and_and_and_comm]

theorem rereadItems_eq_some_iff : ∀ (levels : Nat) (items : List Json),
    rereadItems levels items = some items ↔ itemsDepth items ≤ levels ∧ unreservedItems items
  | _, [] => by simp [rereadItems, itemsDepth, unreservedItems]
  | levels, j :: rest => by
    have hj := reread_eq_some_iff levels j
    have hrest := rereadItems_eq_some_iff levels rest
    simp [rereadItems, itemsDepth, unreservedItems, bind_map_eq_some, hj, hrest,
      and_and_and_comm]

theorem rereadMembers_eq_some_iff : ∀ (levels : Nat) (members : List (String × Json)),
    rereadMembers levels members = some members ↔
      membersDepth members ≤ levels ∧ unreservedMembers members
  | _, [] => by simp [rereadMembers, membersDepth, unreservedMembers]
  | levels, (key, j) :: rest => by
    have hj := reread_eq_some_iff levels j
    have hrest := rereadMembers_eq_some_iff levels rest
    simp [rereadMembers, membersDepth, unreservedMembers, bind_map_eq_some, hj, hrest,
      and_and_and_comm]

end

/-! ## Reading behind a first character -/

theorem skipSpace_cons {c : Char} (h : isSpace c = false) (cs : List Char) :
    skipSpace (c :: cs) = c :: cs :=
  List.dropWhile_cons_of_neg (by simp [h])

theorem valueWith_cons (inner : Option ValueReader) {c : Char} (h : isSpace c = false)
    (cs : List Char) : outcome (valueWith inner (c :: cs)) = outcome (valueAt inner c cs) := by
  unfold valueWith
  split
  · next heq =>
    rw [skipSpace_cons h] at heq
    cases heq
  · next heq =>
    rw [skipSpace_cons h] at heq
    cases heq
    exact outcome_later _ _

theorem memberKey_append (key : String) (rest : List Char) :
    outcome (memberKey (key.toList.flatMap writeChar ++ '"' :: ':' :: rest)) =
      some (key, rest) := by
  obtain ⟨p, hkey⟩ := eq_ok_of_outcome (stringLiteral_append key (':' :: rest))
  unfold memberKey
  simp only [hkey]
  split
  · next heq => cases heq
  · next heq =>
    cases heq
    rfl

theorem member_append (value : ValueReader) (key : String) (rest : List Char) :
    outcome (member value (key.toList.flatMap writeChar ++ '"' :: ':' :: rest)) =
      (outcome (value rest)).map (Prod.map (key, ·) id) := by
  obtain ⟨p, hkey⟩ := eq_ok_of_outcome (memberKey_append key rest)
  unfold member
  simp only [hkey, outcome_later, outcome_map]

section Further

variable {value : ValueReader} {n : Nat} {rest : List Char}

theorem moreItems_close (read : List Json) (h : (']' :: rest).length ≤ n) :
    outcome (moreItems value read (']' :: rest) h) = some (read.reverse, rest) := by
  rw [moreItems]
  split
  · next heq => cases heq
  · next heq =>
    cases heq
    rfl

theorem moreItems_comma (read : List Json) (h : (',' :: rest).length ≤ n) {d : Char}
    {tail : List Char} (hd : skipSpace rest = d :: tail) (hne : d ≠ ']') {j : Json}
    {rest' : List Char} (hvalue : outcome (value rest) = some (j, rest'))
    (h' : rest'.length ≤ n) :
    outcome (moreItems value read (',' :: rest) h) =
      outcome (moreItems value (j :: read) rest' h') := by
  obtain ⟨p, hvalue⟩ := eq_ok_of_outcome hvalue
  rw [moreItems]
  split
  · next heq => cases heq
  · next heq =>
    cases heq
    simp [hd, hne, hvalue]

theorem moreItems_comma_none (read : List Json) (h : (',' :: rest).length ≤ n)
    (hvalue : outcome (value rest) = none) :
    outcome (moreItems value read (',' :: rest) h) = none := by
  obtain ⟨fault, hvalue⟩ := eq_error_of_outcome hvalue
  rw [moreItems]
  split
  · next heq => cases heq
  · next heq =>
    cases heq
    simp only [Char.reduceEq, if_false, if_true, hvalue]
    split
    · rfl
    · split
      · rfl
      · rfl

theorem moreMembers_close (read : List (String × Json)) (h : ('\x7d' :: rest).length ≤ n) :
    outcome (moreMembers value read ('\x7d' :: rest) h) = some (read.reverse, rest) := by
  rw [moreMembers]
  split
  · next heq => cases heq
  · next heq =>
    cases heq
    rfl

theorem moreMembers_comma (read : List (String × Json)) (h : (',' :: '"' :: rest).length ≤ n)
    {m : String × Json} {rest' : List Char}
    (hmember : outcome (member value rest) = some (m, rest')) (h' : rest'.length ≤ n) :
    outcome (moreMembers value read (',' :: '"' :: rest) h) =
      outcome (moreMembers value (m :: read) rest' h') := by
  obtain ⟨p, hmember⟩ := eq_ok_of_outcome hmember
  rw [moreMembers]
  split
  · next heq => cases heq
  · next heq =>
    cases heq
    simp only [Char.reduceEq, if_false, if_true]
    split
    · next heq' => cases heq'
    · next heq' =>
      cases heq'
      simp [hmember]

theorem moreMembers_comma_none (read : List (String × Json)) (h : (',' :: '"' :: rest).length ≤ n)
    (hmember : outcome (member value rest) = none) :
    outcome (moreMembers value read (',' :: '"' :: rest) h) = none := by
  obtain ⟨fault, hmember⟩ := eq_error_of_outcome hmember
  rw [moreMembers]
  split
  · next heq => cases heq
  · next heq =>
    cases heq
    simp only [Char.reduceEq, if_false, if_true]
    split
    · next heq' => cases heq'
    · next heq' =>
      cases heq'
      simp [hmember, outcome]

end Further

section Contents

variable {value : ValueReader} {rest : List Char}

theorem items_close : outcome (items value (']' :: rest)) = some ([], rest) := by
  unfold items
  split
  · next heq => cases heq
  · next heq =>
    cases heq
    rfl

theorem items_value {c : Char} {cs : List Char} (hspace : isSpace c = false) (hne : c ≠ ']')
    {j : Json} (hvalue : outcome (value (c :: cs)) = some (j, rest))
    (h : rest.length ≤ (c :: cs).length) :
    outcome (items value (c :: cs)) = outcome (moreItems value [j] rest h) := by
  obtain ⟨p, hvalue⟩ := eq_ok_of_outcome hvalue
  unfold items
  split
  · next heq =>
    rw [skipSpace_cons hspace] at heq
    cases heq
  · next heq =>
    rw [skipSpace_cons hspace] at heq
    cases heq
    simp [hne, hvalue]

theorem items_none {c : Char} {cs : List Char} (hspace : isSpace c = false) (hne : c ≠ ']')
    (hvalue : outcome (value (c :: cs)) = none) : outcome (items value (c :: cs)) = none := by
  obtain ⟨fault, hvalue⟩ := eq_error_of_outcome hvalue
  unfold items
  split
  · next heq =>
    rw [skipSpace_cons hspace] at heq
    cases heq
  · next heq =>
    rw [skipSpace_cons hspace] at heq
    cases heq
    simp [hne, hvalue, outcome]

theorem objectOrNumber_close :
    outcome (objectOrNumber value ('\x7d' :: rest)) = some (.object [], rest) := by
  unfold objectOrNumber
  split
  · next heq => cases heq
  · next heq =>
    cases heq
    rfl

theorem objectOrNumber_number {cs : List Char}
    (h : outcome (memberKey cs) = some (numberKey, rest)) :
    outcome (objectOrNumber value ('"' :: cs)) =
      (outcome (numberObject rest)).map (Prod.map .number id) := by
  obtain ⟨p, hkey⟩ := eq_ok_of_outcome h
  unfold objectOrNumber
  split
  · next heq => cases heq
  · next heq =>
    cases heq
    simp [hkey]

theorem objectOrNumber_value {cs : List Char} {key : String} (hne : key ≠ numberKey)
    (h : outcome (memberKey cs) = some (key, rest)) {j : Json} {rest' : List Char}
    (hvalue : outcome (value rest) = some (j, rest')) (h' : rest'.length ≤ ('"' :: cs).length) :
    outcome (objectOrNumber value ('"' :: cs)) =
      (outcome (moreMembers value [(key, j)] rest' h')).map (Prod.map .ofMembers id) := by
  obtain ⟨p, hkey⟩ := eq_ok_of_outcome h
  obtain ⟨p', hvalue⟩ := eq_ok_of_outcome hvalue
  unfold objectOrNumber
  split
  · next heq => cases heq
  · next heq =>
    cases heq
    simp [hkey, hne, hvalue]

theorem objectOrNumber_none {cs : List Char} {key : String} (hne : key ≠ numberKey)
    (h : outcome (memberKey cs) = some (key, rest)) (hvalue : outcome (value rest) = none) :
    outcome (objectOrNumber value ('"' :: cs)) = none := by
  obtain ⟨p, hkey⟩ := eq_ok_of_outcome h
  obtain ⟨fault, hvalue⟩ := eq_error_of_outcome hvalue
  unfold objectOrNumber
  split
  · next heq => cases heq
  · next heq =>
    cases heq
    simp [hkey, hne, hvalue, outcome]

end Contents

/-! ## Values by their first character -/

/-- What can follow a value: a comma, a closing bracket or brace, or nothing. -/
def EndsValue (rest : List Char) : Prop := ∀ c ∈ rest.head?, c = ',' ∨ c = ']' ∨ c = '\x7d'

theorem EndsValue.endsNumber {rest : List Char} (h : EndsValue rest) : EndsNumber rest := by
  intro c hc
  rcases h c hc with rfl | rfl | rfl
  · decide
  · decide
  · decide

theorem endsValue_writeMoreItems (items : List Json) (rest : List Char) :
    EndsValue (writeMoreItems items ++ rest) := by
  cases items with
  | nil =>
    rintro _ ⟨⟩
    exact .inr (.inl rfl)
  | cons j tail =>
    rintro _ ⟨⟩
    exact .inl rfl

theorem endsValue_writeMoreMembers (members : List (String × Json)) (rest : List Char) :
    EndsValue (writeMoreMembers members ++ rest) := by
  cases members with
  | nil =>
    rintro _ ⟨⟩
    exact .inr (.inr rfl)
  | cons m tail =>
    rintro _ ⟨⟩
    exact .inl rfl

theorem Number.text_head {n : Number} (h : n.WellFormed) :
    ∃ c cs, n.text = c :: cs ∧ (c = '-' ∨ c.isDigit) := by
  obtain ⟨d, tail, hwhole⟩ := List.exists_cons_of_ne_nil h.2.1
  have hd : d.isDigit := h.1 d (hwhole ▸ List.mem_cons_self)
  unfold text
  rw [hwhole]
  cases n.negative with
  | false => exact ⟨d, _, rfl, .inr hd⟩
  | true => exact ⟨'-', _, rfl, .inl rfl⟩

theorem not_isSpace_of_number {c : Char} (h : c = '-' ∨ c.isDigit) :
    isSpace c = false ∧ c ≠ ']' ∧ c ≠ '"' := by
  refine ⟨?_, ?_, ?_⟩
  · rw [← Bool.not_eq_true]
    intro hspace
    simp only [isSpace, Bool.or_eq_true, beq_iff_eq] at hspace
    rcases hspace with ((rfl | rfl) | rfl) | rfl
    all_goals
      revert h
      decide
  · rintro rfl
    revert h
    decide
  · rintro rfl
    revert h
    decide

/-- A written value begins with no white space and no closing bracket, and only a string begins
with a quote. -/
theorem write_head : ∀ {j : Json}, j.Canonical →
    ∃ c cs, write j = c :: cs ∧ isSpace c = false ∧ c ≠ ']' ∧ (c = '"' → ∃ s, j = .string s)
  | .null, _ => ⟨'n', _, rfl, rfl, by decide, fun h => absurd h (by decide)⟩
  | .bool true, _ => ⟨'t', _, rfl, rfl, by decide, fun h => absurd h (by decide)⟩
  | .bool false, _ => ⟨'f', _, rfl, rfl, by decide, fun h => absurd h (by decide)⟩
  | .number n, h => by
    obtain ⟨c, cs, htext, hc⟩ := Number.text_head h
    obtain ⟨hspace, hbracket, hquote⟩ := not_isSpace_of_number hc
    exact ⟨c, cs, htext, hspace, hbracket, fun h => absurd h hquote⟩
  | .string s, _ => ⟨'"', _, rfl, rfl, by decide, fun _ => ⟨s, rfl⟩⟩
  | .array _, _ => ⟨'[', _, rfl, rfl, by decide, fun h => absurd h (by decide)⟩
  | .object _, _ => ⟨'\x7b', _, rfl, rfl, by decide, fun h => absurd h (by decide)⟩

theorem value_cons (levels : Nat) {c : Char} (h : isSpace c = false) (cs : List Char) :
    ∃ inner, outcome (value levels (c :: cs)) = outcome (valueAt inner c cs) := by
  cases levels with
  | zero => exact ⟨none, valueWith_cons none h cs⟩
  | succ levels => exact ⟨some (value levels), valueWith_cons _ h cs⟩

theorem valueAt_number (inner : Option ValueReader) {c : Char} (h : c = '-' ∨ c.isDigit)
    (cs : List Char) :
    outcome (valueAt inner c cs) =
      (outcome (numberLiteral (c :: cs))).map (Prod.map .number id) := by
  have hn : c ≠ 'n' := by rintro rfl; revert h; decide
  have ht : c ≠ 't' := by rintro rfl; revert h; decide
  have hf : c ≠ 'f' := by rintro rfl; revert h; decide
  unfold valueAt
  rw [if_neg hn, if_neg ht, if_neg hf, if_pos h, outcome_map]

theorem value_write_word (levels : Nat) (rest : List Char) :
    outcome (value levels (write .null ++ rest)) = some (.null, rest) ∧
    outcome (value levels (write (.bool true) ++ rest)) = some (.bool true, rest) ∧
    outcome (value levels (write (.bool false) ++ rest)) = some (.bool false, rest) := by
  refine ⟨?_, ?_, ?_⟩
  · obtain ⟨inner, h⟩ := value_cons levels (show isSpace 'n' = false from rfl)
      ('u' :: 'l' :: 'l' :: rest)
    exact h
  · obtain ⟨inner, h⟩ := value_cons levels (show isSpace 't' = false from rfl)
      ('r' :: 'u' :: 'e' :: rest)
    exact h
  · obtain ⟨inner, h⟩ := value_cons levels (show isSpace 'f' = false from rfl)
      ('a' :: 'l' :: 's' :: 'e' :: rest)
    exact h

theorem value_write_number (levels : Nat) {n : Number} (h : n.WellFormed) {rest : List Char}
    (hrest : EndsNumber rest) :
    outcome (value levels (n.text ++ rest)) = some (.number n, rest) := by
  obtain ⟨c, cs, htext, hc⟩ := Number.text_head h
  obtain ⟨inner, hvalue⟩ := value_cons levels (not_isSpace_of_number hc).1 (cs ++ rest)
  have hread := numberLiteral_append h hrest
  rw [htext, List.cons_append] at hread ⊢
  rw [hvalue, valueAt_number inner hc, hread]
  rfl

theorem value_write_string (levels : Nat) (s : String) (rest : List Char) :
    outcome (value levels (writeString s ++ rest)) = some (.string s, rest) := by
  obtain ⟨inner, hvalue⟩ := value_cons levels (show isSpace '"' = false from rfl)
    (s.toList.flatMap writeChar ++ '"' :: rest)
  have hread := stringLiteral_append s rest
  have hwrite : writeString s ++ rest = '"' :: (s.toList.flatMap writeChar ++ '"' :: rest) := by
    simp [writeString]
  rw [hwrite, hvalue]
  show outcome (Reading.map Json.string (Reading.later _ (stringLiteral _))) = _
  rw [outcome_map, outcome_later, hread]
  rfl

/-! ## Objects that stand for numbers -/

theorem numberText_write {j : Json} (hj : j.Canonical) (rest : List Char) :
    outcome (numberText (write j ++ rest)) = (writtenNumber? j).map (·, rest) := by
  obtain ⟨c, cs, hwrite, hspace, -, hquote⟩ := write_head hj
  by_cases hc : c = '"'
  · obtain ⟨s, rfl⟩ := hquote hc
    obtain ⟨p, hread⟩ := eq_ok_of_outcome (stringLiteral_append s rest)
    have hwrite : write (.string s) ++ rest =
        '"' :: (s.toList.flatMap writeChar ++ '"' :: rest) := by
      simp [write, writeString]
    rw [hwrite]
    unfold numberText
    split
    · next heq => cases heq
    · next heq =>
      cases heq
      simp only [if_true, hread, writtenNumber?]
      cases numberOfText s.toList with
      | ok n => rfl
      | error fault => rfl
  · have hnone : writtenNumber? j = none := by
      cases j with
      | string s =>
        cases hwrite
        exact absurd rfl hc
      | null => rfl
      | bool b => rfl
      | number n => rfl
      | array items => rfl
      | object members => rfl
    rw [hwrite, hnone, List.cons_append]
    unfold numberText
    split
    · rfl
    · next heq =>
      rw [skipSpace_cons hspace] at heq
      cases heq
      rw [if_neg hc]
      rfl

theorem numberEnd_close (rest : List Char) :
    outcome (numberEnd ('\x7d' :: rest)) = some ((), rest) := by
  unfold numberEnd
  split
  · next heq => cases heq
  · next heq =>
    cases heq
    rfl

theorem numberEnd_comma (rest : List Char) : outcome (numberEnd (',' :: rest)) = none := by
  unfold numberEnd
  split
  · next heq => cases heq
  · next heq =>
    cases heq
    rfl

/-- An object after `numberKey` is read as the number it seems to stand for, if it has no further
members. -/
theorem numberObject_write {j : Json} (hj : j.Canonical) (members : List (String × Json))
    (rest : List Char) :
    outcome (numberObject (write j ++ (writeMoreMembers members ++ rest))) =
      if members.isEmpty then (writtenNumber? j).map (·, rest) else none := by
  have htext := numberText_write hj (writeMoreMembers members ++ rest)
  unfold numberObject
  cases hn : writtenNumber? j with
  | none =>
    rw [hn] at htext
    obtain ⟨fault, hread⟩ := eq_error_of_outcome htext
    simp [hread, outcome]
  | some n =>
    rw [hn] at htext
    obtain ⟨p, hread⟩ := eq_ok_of_outcome htext
    simp only [hread, outcome_later, outcome_map]
    cases members with
    | nil =>
      show (outcome (numberEnd ('\x7d' :: rest))).map _ = _
      rw [numberEnd_close]
      rfl
    | cons m tail =>
      show (outcome (numberEnd (',' :: _))).map _ = _
      rw [numberEnd_comma]
      rfl

/-! ## Reading back -/

theorem writeMember_append (key : String) (j : Json) (rest : List Char) :
    writeMember (key, j) ++ rest =
      '"' :: (key.toList.flatMap writeChar ++ '"' :: ':' :: (write j ++ rest)) := by
  simp [writeMember, writeString]

theorem rereadMembers_keys : ∀ {levels : Nat} {members members' : List (String × Json)},
    rereadMembers levels members = some members' → members'.map Prod.fst = members.map Prod.fst
  | _, [], _, h => by
    simp only [rereadMembers, Option.some.injEq] at h
    rw [← h]
  | levels, (key, j) :: rest, members', h => by
    simp only [rereadMembers, bind_map_eq_some] at h
    obtain ⟨j', rest', -, hrest, rfl⟩ := h
    exact congrArg (key :: ·) (rereadMembers_keys hrest)

/-- Members whose keys grow make an object as they are. -/
theorem ofMembers_of_increasing {members : List (String × Json)}
    (h : (members.map Prod.fst).Pairwise (· < ·)) : ofMembers members = .object members :=
  congrArg Json.object (Entries.foldl_put_eq (List.pairwise_map.1 h))

theorem value_write_array (levels : Nat) (items' : List Json) (rest : List Char) :
    outcome (value (levels + 1) (write (.array items') ++ rest)) =
      (outcome (items (value levels) (writeItems items' ++ rest))).map (Prod.map .array id) := by
  refine (valueWith_cons (some (value levels)) rfl (writeItems items' ++ rest)).trans ?_
  show outcome (Reading.map Json.array (Reading.later _ (items _ _))) = _
  rw [outcome_map, outcome_later]

theorem value_write_object (levels : Nat) (members : List (String × Json)) (rest : List Char) :
    outcome (value (levels + 1) (write (.object members) ++ rest)) =
      outcome (objectOrNumber (value levels) (writeMembers members ++ rest)) := by
  refine (valueWith_cons (some (value levels)) rfl (writeMembers members ++ rest)).trans ?_
  exact outcome_later (Nat.le_succ _) _

mutual

/-- Where a canonical value has been written, the reader finds what `reread` says, and leaves what
follows. -/
theorem value_write : ∀ (levels : Nat) (j : Json), j.Canonical → ∀ {rest : List Char},
    EndsValue rest → outcome (value levels (write j ++ rest)) = (reread levels j).map (·, rest)
  | levels, .null, _, rest, _ => by
    rw [(value_write_word levels rest).1]
    simp [reread]
  | levels, .bool true, _, rest, _ => by
    rw [(value_write_word levels rest).2.1]
    simp [reread]
  | levels, .bool false, _, rest, _ => by
    rw [(value_write_word levels rest).2.2]
    simp [reread]
  | levels, .number n, h, rest, hrest => by
    rw [write, value_write_number levels h hrest.endsNumber]
    simp [reread]
  | levels, .string s, _, rest, _ => by
    rw [write, value_write_string]
    simp [reread]
  | 0, .array items, _, rest, _ => by
    refine (valueWith_cons none rfl (writeItems items ++ rest)).trans ?_
    simp [reread, valueAt, outcome]
  | 0, .object members, _, rest, _ => by
    refine (valueWith_cons none rfl (writeMembers members ++ rest)).trans ?_
    simp [reread, valueAt, outcome]
  | levels + 1, .array [], _, rest, _ => by
    rw [value_write_array]
    show (outcome (items _ (']' :: rest))).map _ = _
    rw [items_close]
    simp [reread, rereadItems]
  | levels + 1, .array (j :: tail), h, rest, _ => by
    have hj := value_write levels j h.1 (endsValue_writeMoreItems tail rest)
    have htail := @moreItems_write levels tail h.2
    -- the reader looks at the first character to tell an item from the end
    obtain ⟨c, cs, hhead, hspace, hne, -⟩ := write_head h.1
    rw [value_write_array, writeItems, List.append_assoc, hhead, List.cons_append]
    rw [hhead, List.cons_append] at hj
    cases hr : reread levels j with
    | none =>
      rw [hr] at hj
      rw [items_none hspace hne hj]
      simp [reread, rereadItems, hr]
    | some j' =>
      rw [hr] at hj
      rw [items_value hspace hne hj (by simp; omega), htail]
      simp [reread, rereadItems, hr, Function.comp_def]
  | levels + 1, .object [], _, rest, _ => by
    rw [value_write_object]
    show outcome (objectOrNumber _ ('\x7d' :: rest)) = _
    rw [objectOrNumber_close]
    simp [reread, rereadObject]
  | levels + 1, .object ((key, j) :: tail), h, rest, _ => by
    have hj := value_write levels j h.2.1 (endsValue_writeMoreMembers tail rest)
    have htail := @moreMembers_write levels tail h.2.2
    have hkey := memberKey_append key (write j ++ (writeMoreMembers tail ++ rest))
    rw [value_write_object, writeMembers, List.append_assoc, writeMember_append]
    by_cases hreserved : key = numberKey
    -- the reader goes by the first key alone, whatever the value behind it
    · rw [hreserved] at hkey ⊢
      rw [objectOrNumber_number hkey, numberObject_write h.2.1]
      cases tail with
      | nil => simp [reread, rereadObject, Function.comp_def]
      | cons m tail => simp [reread, rereadObject]
    · cases hr : reread levels j with
      | none =>
        rw [hr] at hj
        rw [objectOrNumber_none hreserved hkey hj]
        simp [reread, rereadObject, hreserved, hr]
      | some j' =>
        rw [hr] at hj
        rw [objectOrNumber_value hreserved hkey hj (by simp; omega), htail]
        simp only [reread, rereadObject, hreserved, hr, if_false, Option.bind_some]
        cases hmembers : rereadMembers levels tail with
        | none => rfl
        | some tail' =>
          -- the keys are those that were written, so that sorting them changes nothing
          have hkeys : (((key, j') :: tail').map Prod.fst).Pairwise (· < ·) := by
            rw [List.map_cons, rereadMembers_keys hmembers]
            exact List.pairwise_map.2 h.1
          exact congrArg (fun o => some (o, rest)) (ofMembers_of_increasing hkeys)

theorem moreItems_write : ∀ (levels : Nat) (items : List Json), CanonicalItems items →
    ∀ {n : Nat} (read : List Json) {rest : List Char}
      (hn : (writeMoreItems items ++ rest).length ≤ n),
    outcome (moreItems (value levels) read (writeMoreItems items ++ rest) hn) =
      (rereadItems levels items).map fun items' => (read.reverse ++ items', rest)
  | levels, [], _, _, read, rest, hn => by
    refine (moreItems_close read hn).trans ?_
    simp [rereadItems]
  | levels, j :: tail, h, n, read, rest, hn => by
    have hj := value_write levels j h.1 (endsValue_writeMoreItems tail rest)
    have htail := @moreItems_write levels tail h.2
    obtain ⟨c, cs, hhead, hspace, hne, -⟩ := write_head h.1
    have hwrite : writeMoreItems (j :: tail) ++ rest =
        ',' :: (write j ++ (writeMoreItems tail ++ rest)) := by
      simp [writeMoreItems]
    have hskip : skipSpace (write j ++ (writeMoreItems tail ++ rest)) =
        c :: (cs ++ (writeMoreItems tail ++ rest)) := by
      rw [hhead]
      exact skipSpace_cons hspace _
    -- the goal depends on the proof `hn`, which has to be rewritten with the text
    revert hn
    rw [hwrite]
    intro hn
    cases hr : reread levels j with
    | none =>
      rw [hr] at hj
      rw [moreItems_comma_none read hn hj]
      simp [rereadItems, hr]
    | some j' =>
      rw [hr] at hj
      have hn' : (writeMoreItems tail ++ rest).length ≤ n := by
        simp only [List.length_cons, List.length_append] at hn ⊢
        omega
      rw [moreItems_comma read hn hskip hne hj hn', htail]
      simp [rereadItems, hr, Function.comp_def]

theorem moreMembers_write : ∀ (levels : Nat) (members : List (String × Json)),
    CanonicalMembers members → ∀ {n : Nat} (read : List (String × Json)) {rest : List Char}
      (hn : (writeMoreMembers members ++ rest).length ≤ n),
    outcome (moreMembers (value levels) read (writeMoreMembers members ++ rest) hn) =
      (rereadMembers levels members).map fun members' => (read.reverse ++ members', rest)
  | levels, [], _, _, read, rest, hn => by
    refine (moreMembers_close read hn).trans ?_
    simp [rereadMembers]
  | levels, (key, j) :: tail, h, n, read, rest, hn => by
    have hj := value_write levels j h.1 (endsValue_writeMoreMembers tail rest)
    have htail := @moreMembers_write levels tail h.2
    have hmember := member_append (value levels) key (write j ++ (writeMoreMembers tail ++ rest))
    have hwrite : writeMoreMembers ((key, j) :: tail) ++ rest =
        ',' :: '"' :: (key.toList.flatMap writeChar ++ '"' :: ':' ::
          (write j ++ (writeMoreMembers tail ++ rest))) := by
      rw [writeMoreMembers, List.cons_append, List.append_assoc, writeMember_append]
    revert hn
    rw [hwrite]
    intro hn
    rw [hj] at hmember
    cases hr : reread levels j with
    | none =>
      rw [hr] at hmember
      rw [moreMembers_comma_none read hn hmember]
      simp [rereadMembers, hr]
    | some j' =>
      rw [hr] at hmember
      simp only [Option.map_some, Prod.map_apply, id_eq] at hmember
      have hn' : (writeMoreMembers tail ++ rest).length ≤ n := by
        simp only [List.length_cons, List.length_append] at hn ⊢
        omega
      rw [moreMembers_comma read hn hmember hn', htail]
      simp [rereadMembers, hr, Function.comp_def]

end

/-- What is read from the text of a canonical value. -/
theorem toOption_parse_render {j : Json} (h : j.Canonical) :
    (parse j.render).toOption = reread maxDepth j := by
  have hread := @value_write maxDepth j h [] nofun
  rw [List.append_nil] at hread
  unfold parse parseChars render
  rw [String.toList_ofList]
  cases hr : reread maxDepth j with
  | none =>
    rw [hr] at hread
    obtain ⟨fault, hvalue⟩ := eq_error_of_outcome hread
    simp only [hvalue]
    rfl
  | some j' =>
    rw [hr] at hread
    obtain ⟨p, hvalue⟩ := eq_ok_of_outcome hread
    simp only [hvalue]
    rfl

/-- A canonical value is read back from its text exactly if it does not nest too deep and holds no
object that could be taken for a number. -/
theorem parse_render_iff {j : Json} (h : j.Canonical) :
    parse j.render = .ok j ↔ j.depth ≤ maxDepth ∧ j.unreserved := by
  rw [← reread_eq_some_iff, ← toOption_parse_render h]
  cases parse j.render with
  | ok j' => simp [Except.toOption]
  | error fault => simp [Except.toOption]

end HomeEnergy.Json

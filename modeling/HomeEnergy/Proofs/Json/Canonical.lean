import HomeEnergy.Proofs.Json.Tokens

/-!
What reading yields: canonical values that do not nest too deep.
-/

namespace HomeEnergy.Json

/-! ## Contents -/

theorem canonicalItems_iff {items : List Json} :
    CanonicalItems items ↔ ∀ j ∈ items, j.Canonical := by
  induction items with
  | nil => simp [CanonicalItems]
  | cons j rest ih => simp [CanonicalItems, ih]

theorem canonicalMembers_iff {members : List (String × Json)} :
    CanonicalMembers members ↔ ∀ m ∈ members, m.2.Canonical := by
  induction members with
  | nil => simp [CanonicalMembers]
  | cons m rest ih => simp [CanonicalMembers, ih]

theorem itemsDepth_le_iff {items : List Json} {n : Nat} :
    itemsDepth items ≤ n ↔ ∀ j ∈ items, j.depth ≤ n := by
  induction items with
  | nil => simp [itemsDepth]
  | cons j rest ih => simp [itemsDepth, ih]

theorem membersDepth_le_iff {members : List (String × Json)} {n : Nat} :
    membersDepth members ≤ n ↔ ∀ m ∈ members, m.2.depth ≤ n := by
  induction members with
  | nil => simp [membersDepth]
  | cons m rest ih => simp [membersDepth, ih]

/-- A value that is canonical and has at most the given depth. -/
def Proper (levels : Nat) (j : Json) : Prop := j.Canonical ∧ j.depth ≤ levels

theorem proper_array {levels : Nat} {items : List Json} :
    Proper (levels + 1) (.array items) ↔ ∀ j ∈ items, Proper levels j := by
  unfold Proper
  rw [Canonical, depth, Nat.add_le_add_iff_right, canonicalItems_iff, itemsDepth_le_iff]
  exact forall₂_and.symm

theorem proper_object {levels : Nat} {members : List (String × Json)} :
    Proper (levels + 1) (.object members) ↔
      Entries.Increasing members ∧ ∀ m ∈ members, Proper levels m.2 := by
  unfold Proper
  rw [Canonical, depth, Nat.add_le_add_iff_right, canonicalMembers_iff, membersDepth_le_iff]
  constructor
  · rintro ⟨⟨hkeys, hcanonical⟩, hdepth⟩
    exact ⟨hkeys, fun m hm => ⟨hcanonical m hm, hdepth m hm⟩⟩
  · rintro ⟨hkeys, h⟩
    exact ⟨⟨hkeys, fun m hm => (h m hm).1⟩, fun m hm => (h m hm).2⟩

theorem proper_ofMembers {levels : Nat} {members : List (String × Json)}
    (h : ∀ m ∈ members, Proper levels m.2) : Proper (levels + 1) (ofMembers members) := by
  refine proper_object.2 ⟨Entries.Increasing.foldl_put List.Pairwise.nil members, ?_⟩
  intro m hm
  rcases Entries.mem_foldl_put hm with hm | hm
  · cases hm
  · exact h m hm

/-! ## Readers -/

/-- A reader whose values all have a property. -/
def Yields (value : ValueReader) (P : Json → Prop) : Prop :=
  ∀ cs j rest, outcome (value cs) = some (j, rest) → P j

theorem numberOfText_wellFormed {cs : List Char} {n : Number} (h : numberOfText cs = .ok n) :
    n.WellFormed := by
  unfold numberOfText at h
  split at h
  · cases h
  · split at h
    · split at h
      · next found rest hread =>
        split at h
        · cases h
          exact numberLiteral_wellFormed (congrArg outcome hread)
        · cases h
      · cases h
    · cases h

theorem numberText_wellFormed {cs rest : List Char} {n : Number}
    (h : outcome (numberText cs) = some (n, rest)) : n.WellFormed := by
  unfold numberText at h
  split at h
  · cases h
  · split at h
    · split at h
      · cases h
      · split at h
        · next hn =>
          cases h
          exact numberOfText_wellFormed hn
        · cases h
    · cases h

theorem numberObject_wellFormed {cs rest : List Char} {n : Number}
    (h : outcome (numberObject cs) = some (n, rest)) : n.WellFormed := by
  unfold numberObject at h
  split at h
  · cases h
  · next found rest' htext =>
    rw [outcome_later, outcome_map] at h
    obtain ⟨⟨_, rest''⟩, -, heq⟩ := Option.map_eq_some_iff.1 h
    cases heq
    exact numberText_wellFormed (congrArg outcome htext)

section

variable {value : ValueReader} {P : Json → Prop} (hvalue : Yields value P)
include hvalue

theorem moreItems_yields {n : Nat} {read items : List Json} {cs rest : List Char}
    {hn : cs.length ≤ n} (h : outcome (moreItems value read cs hn) = some (items, rest))
    (hread : ∀ j ∈ read, P j) : ∀ j ∈ items, P j := by
  fun_induction moreItems value read cs hn with
  | case1 => cases h
  | case2 =>
    cases h
    exact fun j hj => hread j (List.mem_reverse.1 hj)
  | case3 => cases h
  | case4 => cases h
  -- the only case that goes on: a comma and another value
  | case5 read cs hn rest d tail hskip hne j rest' hj hskip' hrest hcomma ih =>
    refine ih h ?_
    intro j' hj'
    rcases List.mem_cons.1 hj' with rfl | hj'
    · exact hvalue rest j' rest'.1 (congrArg outcome hj)
    · exact hread j' hj'
  | case6 => cases h
  | case7 => cases h

theorem items_yields {items' : List Json} {cs rest : List Char}
    (h : outcome (items value cs) = some (items', rest)) : ∀ j ∈ items', P j := by
  unfold items at h
  split at h
  · cases h
  · split at h
    · cases h
      exact List.forall_mem_nil _
    · split at h
      · next j rest' hj =>
        refine moreItems_yields hvalue h ?_
        intro j' hj'
        rw [List.mem_singleton.1 hj']
        exact hvalue cs j rest'.1 (congrArg outcome hj)
      · cases h

theorem member_yields {cs rest : List Char} {m : String × Json}
    (h : outcome (member value cs) = some (m, rest)) : P m.2 := by
  unfold member at h
  split at h
  · cases h
  · next key rest' hkey =>
    rw [outcome_later, outcome_map] at h
    obtain ⟨⟨j, rest''⟩, hj, heq⟩ := Option.map_eq_some_iff.1 h
    cases heq
    exact hvalue rest'.1 j rest'' hj

theorem moreMembers_yields {n : Nat} {read members : List (String × Json)} {cs rest : List Char}
    {hn : cs.length ≤ n} (h : outcome (moreMembers value read cs hn) = some (members, rest))
    (hread : ∀ m ∈ read, P m.2) : ∀ m ∈ members, P m.2 := by
  fun_induction moreMembers value read cs hn with
  | case1 => cases h
  | case2 =>
    cases h
    exact fun m hm => hread m (List.mem_reverse.1 hm)
  | case3 => cases h
  -- the only case that goes on: a comma and another member
  | case4 read cs hn rest body m rest' hm hskip hrest hbrace hskip' hbody ih =>
    refine ih h ?_
    intro m' hm'
    rcases List.mem_cons.1 hm' with rfl | hm'
    · exact member_yields hvalue (congrArg outcome hm)
    · exact hread m' hm'
  | case5 => cases h
  | case6 => cases h
  | case7 => cases h
  | case8 => cases h

theorem objectOrNumber_yields {cs rest : List Char} {j : Json}
    (h : outcome (objectOrNumber value cs) = some (j, rest)) :
    (∃ n, j = .number n ∧ n.WellFormed) ∨
      ∃ members, j = ofMembers members ∧ ∀ m ∈ members, P m.2 := by
  unfold objectOrNumber at h
  split at h
  · cases h
  · split at h
    · cases h
      exact .inr ⟨[], rfl, nofun⟩
    · split at h
      · split at h
        · cases h
        · next key rest₁ hkey =>
          dsimp only at h
          split at h
          · rw [outcome_later, outcome_map] at h
            obtain ⟨⟨n, rest₂⟩, hn, heq⟩ := Option.map_eq_some_iff.1 h
            cases heq
            exact .inl ⟨n, rfl, numberObject_wellFormed hn⟩
          · split at h
            · cases h
            · next j₁ rest₂ hj =>
              rw [outcome_map] at h
              obtain ⟨⟨members, rest₃⟩, hmembers, heq⟩ := Option.map_eq_some_iff.1 h
              cases heq
              refine .inr ⟨members, rfl, moreMembers_yields hvalue hmembers ?_⟩
              intro m hm
              rw [List.mem_singleton.1 hm]
              exact hvalue rest₁.1 j₁ rest₂.1 (congrArg outcome hj)
      · cases h

end

theorem eq_of_constant {letters cs rest : List Char} {j j' : Json}
    (h : outcome (constant letters j cs) = some (j', rest)) : j' = j := by
  unfold constant at h
  split at h
  · cases h
    rfl
  · cases h

theorem valueAt_proper {inner : Option ValueReader} {levels : Nat} {c : Char}
    {cs rest : List Char} {j : Json}
    (hinner : ∀ value, inner = some value → ∃ below, levels = below + 1 ∧
      Yields value (Proper below))
    (h : outcome (valueAt inner c cs) = some (j, rest)) : Proper levels j := by
  unfold valueAt at h
  split_ifs at h with hnull htrue hfalse hnumber hstring harray hobject
  · rw [eq_of_constant h]
    exact ⟨trivial, Nat.zero_le _⟩
  · rw [eq_of_constant h]
    exact ⟨trivial, Nat.zero_le _⟩
  · rw [eq_of_constant h]
    exact ⟨trivial, Nat.zero_le _⟩
  · rw [outcome_map] at h
    obtain ⟨⟨n, rest'⟩, hn, heq⟩ := Option.map_eq_some_iff.1 h
    cases heq
    exact ⟨numberLiteral_wellFormed hn, Nat.zero_le _⟩
  · rw [outcome_map, outcome_later] at h
    obtain ⟨⟨s, rest'⟩, -, heq⟩ := Option.map_eq_some_iff.1 h
    cases heq
    exact ⟨trivial, Nat.zero_le _⟩
  · split at h
    · next value =>
      obtain ⟨below, rfl, hvalue⟩ := hinner value rfl
      rw [outcome_map, outcome_later] at h
      obtain ⟨⟨items', rest'⟩, hitems, heq⟩ := Option.map_eq_some_iff.1 h
      cases heq
      exact proper_array.2 (items_yields hvalue hitems)
    · cases h
  · split at h
    · next value =>
      obtain ⟨below, rfl, hvalue⟩ := hinner value rfl
      rw [outcome_later] at h
      rcases objectOrNumber_yields hvalue h with ⟨n, rfl, hn⟩ | ⟨members, rfl, hmembers⟩
      · exact ⟨hn, Nat.zero_le _⟩
      · exact proper_ofMembers hmembers
    · cases h
  · cases h

/-- With so many levels a value of at most this depth is read. -/
theorem value_proper (levels : Nat) : Yields (value levels) (Proper levels) := by
  induction levels with
  | zero =>
    intro cs j rest h
    simp only [value, valueWith] at h
    split at h
    · cases h
    · rw [outcome_later] at h
      refine valueAt_proper ?_ h
      rintro _ ⟨⟩
  | succ levels ih =>
    intro cs j rest h
    simp only [value, valueWith] at h
    split at h
    · cases h
    · rw [outcome_later] at h
      refine valueAt_proper ?_ h
      rintro _ ⟨⟩
      exact ⟨levels, rfl, ih⟩

/-- Every value that is read from a text is canonical and nests no deeper than is allowed. -/
theorem parse_proper {text : String} {j : Json} (h : parse text = .ok j) : Proper maxDepth j := by
  unfold parse parseChars at h
  split at h
  · cases h
  · next found rest hread =>
    split at h
    · cases h
      exact value_proper maxDepth _ _ rest.1 (congrArg outcome hread)
    · cases h

/-! ## Numbers of numbers -/

theorem head?_digits_ne {n : Nat} (h : 0 < n) : (Text.digits n).head? ≠ some '0' := by
  -- the first digit of `n` is that of `n / 10`, until a single one is left
  induction n using Nat.strongRecOn with
  | ind n ih =>
    unfold Text.digits at ih ⊢
    rw [Nat.toDigits_eq_if (by decide)]
    split
    · next hlt =>
      have : ∀ d < 10, 0 < d → [Nat.digitChar d].head? ≠ some '0' := by decide
      exact this n hlt h
    · next hge =>
      obtain ⟨d, tail, hdigits⟩ := List.exists_cons_of_ne_nil (@Nat.toDigits_ne_nil (n / 10) 10)
      have hhead := ih (n / 10) (by omega) (by omega)
      rw [hdigits] at hhead ⊢
      exact hhead

theorem Number.ofNat_wellFormed (n : Nat) : (Number.ofNat n).WellFormed := by
  refine ⟨?_, Nat.toDigits_ne_nil, ?_, nofun, nofun⟩
  · exact fun c hc => Nat.isDigit_of_mem_toDigits (by decide) (by decide) hc
  · intro hzero
    rcases Nat.eq_zero_or_pos n with rfl | hn
    · exact Nat.toDigits_zero 10
    · exact absurd hzero (head?_digits_ne hn)

theorem Number.ofInt_wellFormed (i : Int) : (Number.ofInt i).WellFormed := by
  cases i with
  | ofNat n => exact ofNat_wellFormed n
  | negSucc n => exact ofNat_wellFormed (n + 1)

end HomeEnergy.Json

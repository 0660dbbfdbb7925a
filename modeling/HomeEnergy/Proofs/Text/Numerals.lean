import HomeEnergy.Text.Blank
import HomeEnergy.Text.Numeral
import Mathlib

/-!
What the readers of decimal numerals accept: a numeral is a run of digits that is not empty, zeros
in front of it count for nothing, and among the numerals of one number only the one that is written
for it has none. White space around a text is all that trimming takes away.
-/

namespace HomeEnergy.Text

/-- The digits stand for the number. -/
structure Decimal (ds : List Char) (n : Nat) : Prop where
  nonempty : ds ≠ []
  areDigits : ∀ c ∈ ds, c.isDigit
  value : Nat.ofDigitChars 10 ds 0 = n

/-- The text stands for the number: digits, or a plus sign and digits. -/
inductive Numeral : List Char → Nat → Prop where
  | unsigned {ds : List Char} {n : Nat} (h : Decimal ds n) : Numeral ds n
  | signed {ds : List Char} {n : Nat} (h : Decimal ds n) : Numeral ('+' :: ds) n

theorem Numeral.spelled {cs : List Char} {n : Nat} (h : Numeral cs n) :
    ∀ c ∈ cs, c = '+' ∨ c.isDigit := by
  cases h with
  | unsigned h => exact fun c hc => .inr (h.areDigits c hc)
  | signed h => exact List.forall_mem_cons.2 ⟨.inl rfl, fun c hc => .inr (h.areDigits c hc)⟩

/-! ## Reading -/

/-- Digits are read on from the value of those before them. -/
theorem foldlM_digit_eq_some_iff {ds : List Char} {start n : Nat} :
    ds.foldlM (fun n c => if c.isDigit then some (10 * n + (c.toNat - 48)) else none) start =
      some n ↔ (∀ c ∈ ds, c.isDigit) ∧ Nat.ofDigitChars 10 ds start = n := by
  induction ds generalizing start with
  | nil => simp [Nat.ofDigitChars]
  | cons c rest ih =>
    rw [List.foldlM_cons]
    by_cases hc : c.isDigit
    · rw [if_pos hc, Option.bind_eq_bind, Option.bind_some, ih, Nat.ofDigitChars_cons,
        List.forall_mem_cons, and_iff_right hc]
      rfl
    · simp [hc]

theorem natOfDigits?_eq_some_iff {cs : List Char} {n : Nat} :
    natOfDigits? cs = some n ↔ Decimal cs n := by
  unfold natOfDigits?
  split
  · next hempty => exact ⟨nofun, fun h => absurd (List.isEmpty_iff.1 hempty) h.nonempty⟩
  · next hne =>
    rw [foldlM_digit_eq_some_iff]
    exact ⟨fun ⟨hds, hn⟩ => ⟨fun h => hne (List.isEmpty_iff.2 h), hds, hn⟩,
      fun h => ⟨h.areDigits, h.value⟩⟩

theorem boundedNat?_eq_some_iff {largest : Nat} {cs : List Char} {n : Nat} :
    boundedNat? largest cs = some n ↔ Numeral cs n ∧ n ≤ largest := by
  unfold boundedNat?
  extract_lets ds
  have hnumeral : Numeral cs n ↔ natOfDigits? ds = some n := by
    rw [natOfDigits?_eq_some_iff]
    unfold ds
    split
    · next rest =>
      refine ⟨fun h => ?_, .signed⟩
      cases h with
      | unsigned h => exact absurd (h.areDigits '+' List.mem_cons_self) (by decide)
      | signed h => exact h
    · next hplus =>
      refine ⟨fun h => ?_, .unsigned⟩
      cases h with
      | unsigned h => exact h
      | signed => exact absurd rfl (hplus _)
  rw [hnumeral]
  cases natOfDigits? ds with
  | none => simp
  | some read =>
    by_cases hle : read ≤ largest
    · simp only [hle, if_true, Option.some.injEq]
      exact ⟨fun h => ⟨h, h ▸ hle⟩, And.left⟩
    · simp only [hle, if_false, Option.some.injEq]
      exact ⟨nofun, fun ⟨h, hn⟩ => absurd (h ▸ hn) hle⟩

/-! ## Writing -/

theorem Decimal.digits (n : Nat) : Decimal (digits n) n where
  nonempty := Nat.toDigits_ne_nil
  areDigits _ hc := Nat.isDigit_of_mem_toDigits (by decide) (by decide) hc
  value := Nat.ofDigitChars_toDigits (by decide) (by decide)

theorem numeral_digits_iff {m n : Nat} : Numeral (digits m) n ↔ m = n := by
  constructor
  · intro h
    generalize hcs : Text.digits m = cs at h
    cases h with
    | unsigned h => rw [← h.value, ← hcs, (Decimal.digits m).value]
    | signed h =>
      have hplus := (Decimal.digits m).areDigits '+' (hcs ▸ List.mem_cons_self)
      exact absurd hplus (by decide)
  · rintro rfl
    exact .unsigned (.digits m)

theorem toNat_of_isDigit {c : Char} (h : c.isDigit) : 48 ≤ c.toNat ∧ c.toNat ≤ 57 := by
  simpa [Char.isDigit, UInt32.le_iff_toNat_le] using h

/-- A digit is what is written for its value. -/
theorem digits_of_isDigit {c : Char} (h : c.isDigit) :
    c.toNat - 48 < 10 ∧ digits (c.toNat - 48) = [c] := by
  have hbounds := toNat_of_isDigit h
  have hlt : c.toNat - 48 < 10 := by omega
  have hchar : (c.toNat - 48).digitChar = c := by
    rw [← Char.toNat_inj, Nat.toNat_digitChar_of_lt_ten hlt]
    omega
  exact ⟨hlt, by rw [digits, Nat.toDigits_of_lt_base hlt, hchar]⟩

/-- More digits after those of a number; after a zero they would be written without it. -/
theorem digits_append {ds : List Char} (hds : ∀ c ∈ ds, c.isDigit) {start : Nat}
    (hpos : 0 < start) : digits start ++ ds = digits (Nat.ofDigitChars 10 ds start) := by
  induction ds generalizing start with
  | nil => simp [Nat.ofDigitChars]
  | cons c rest ih =>
    obtain ⟨hc, hrest⟩ := List.forall_mem_cons.1 hds
    obtain ⟨hlt, hdigit⟩ := digits_of_isDigit hc
    calc digits start ++ c :: rest
        = digits start ++ digits (c.toNat - 48) ++ rest := by
          rw [hdigit, List.append_assoc, List.singleton_append]
      _ = digits (10 * start + (c.toNat - 48)) ++ rest := by
          rw [digits, digits, Nat.toDigits_append_toDigits (by decide) hpos hlt, ← digits]
      _ = digits (Nat.ofDigitChars 10 rest (10 * start + (c.toNat - 48))) :=
          ih hrest (by omega)

/-- Digits without a zero in front are those that are written for their value. -/
theorem Decimal.eq_digits {ds : List Char} {n : Nat} (h : Decimal ds n)
    (hzero : ds.head? = some '0' → ds = ['0']) : ds = Text.digits n := by
  obtain ⟨hne, hds, rfl⟩ := h
  obtain ⟨c, rest, rfl⟩ := List.exists_cons_of_ne_nil hne
  obtain ⟨hc, hrest⟩ := List.forall_mem_cons.1 hds
  obtain ⟨-, hdigit⟩ := digits_of_isDigit hc
  by_cases h0 : c = '0'
  · rw [hzero (congrArg some h0)]
    rfl
  · have hpos : 0 < c.toNat - 48 := Nat.pos_of_ne_zero fun h => h0 <| by
      rw [h] at hdigit
      exact (List.head_eq_of_cons_eq hdigit).symm
    calc c :: rest
        = Text.digits (c.toNat - 48) ++ rest := by rw [hdigit, List.singleton_append]
      _ = Text.digits (Nat.ofDigitChars 10 rest (c.toNat - 48)) := digits_append hrest hpos
      _ = Text.digits (Nat.ofDigitChars 10 (c :: rest) 0) := by
          rw [Nat.ofDigitChars_cons, Nat.mul_zero, Nat.zero_add]
          rfl

/-! ## White space -/

/-- A text is white space, what is left when it is trimmed, and white space. -/
theorem exists_trim (cs : List Char) : ∃ before after, cs = before ++ (trim cs ++ after) ∧
    (∀ c ∈ before, isBlank c) ∧ ∀ c ∈ after, isBlank c := by
  refine ⟨cs.takeWhile isBlank, ((trimStart cs).reverse.takeWhile isBlank).reverse, ?_,
    fun c hc => List.mem_takeWhile_imp hc,
    fun c hc => List.mem_takeWhile_imp (List.mem_reverse.1 hc)⟩
  have hend : trimStart cs =
      trim cs ++ ((trimStart cs).reverse.takeWhile isBlank).reverse := by
    rw [trim, trimEnd, ← List.reverse_append, List.takeWhile_append_dropWhile,
      List.reverse_reverse]
  rw [← hend, trimStart, List.takeWhile_append_dropWhile]

theorem dropWhile_isBlank {cs : List Char} (h : ∀ c ∈ cs, ¬ isBlank c) :
    cs.dropWhile isBlank = cs :=
  List.dropWhile_eq_self_iff.2 fun _ => h _ (List.getElem_mem _)

/-- White space around a text without any is what is trimmed. -/
theorem trim_append {before core after : List Char} (hbefore : ∀ c ∈ before, isBlank c)
    (hcore : ∀ c ∈ core, ¬ isBlank c) (hafter : ∀ c ∈ after, isBlank c) :
    trim (before ++ (core ++ after)) = core := by
  have hstart : trimStart (before ++ (core ++ after)) =
      if core = [] then [] else core ++ after := by
    rw [trimStart, List.dropWhile_append_of_pos hbefore]
    split
    · next hempty =>
      rw [hempty, List.nil_append]
      exact List.dropWhile_eq_nil_iff.2 hafter
    · next hne =>
      obtain ⟨c, rest, rfl⟩ := List.exists_cons_of_ne_nil hne
      exact List.dropWhile_cons_of_neg (hcore c List.mem_cons_self)
  rw [trim, hstart, trimEnd]
  split
  · next hempty => exact hempty.symm
  · have hreversed : ∀ c ∈ core.reverse, ¬ isBlank c := fun c hc =>
      hcore c (List.mem_reverse.1 hc)
    rw [List.reverse_append, List.dropWhile_append_of_pos fun c hc => hafter c (by simpa using hc),
      dropWhile_isBlank hreversed, List.reverse_reverse]

theorem not_isBlank_of_isDigit {c : Char} (h : c.isDigit) : ¬ isBlank c := by
  have hbounds := toNat_of_isDigit h
  grind [isBlank]

theorem Numeral.not_isBlank {cs : List Char} {n : Nat} (h : Numeral cs n) :
    ∀ c ∈ cs, ¬ isBlank c := by
  intro c hc
  rcases h.spelled c hc with rfl | hdigit
  · decide
  · exact not_isBlank_of_isDigit hdigit

/-- A text that is trimmed to a numeral is that numeral with white space around it. -/
theorem numeral_trim_iff {cs : List Char} {n : Nat} :
    Numeral (trim cs) n ↔ ∃ before numeral after, cs = before ++ (numeral ++ after) ∧
      (∀ c ∈ before, isBlank c) ∧ (∀ c ∈ after, isBlank c) ∧ Numeral numeral n := by
  constructor
  · intro h
    obtain ⟨before, after, hcs, hbefore, hafter⟩ := exists_trim cs
    exact ⟨before, trim cs, after, hcs, hbefore, hafter, h⟩
  · rintro ⟨before, numeral, after, rfl, hbefore, hafter, h⟩
    rwa [trim_append hbefore h.not_isBlank hafter]

end HomeEnergy.Text

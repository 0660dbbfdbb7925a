import HomeEnergy.Json.Parser
import HomeEnergy.Json.Printer
import Mathlib

/-!
Reading back what has been written: numbers and strings. A number ends where something stands that
cannot belong to it, and a string ends at its quote, so each is found again whatever follows.
-/

namespace HomeEnergy.Json

variable {α : Type} {P : List Char → Prop}

/-- What a reader finds and what it leaves of the text, without the reason of a failure. -/
def outcome : Except Fault (α × { rest : List Char // P rest }) → Option (α × List Char)
  | .ok (a, rest) => some (a, rest.1)
  | .error _ => none

theorem eq_ok_of_outcome {r : Except Fault (α × { rest : List Char // P rest })} {a : α}
    {rest : List Char} (h : outcome r = some (a, rest)) : ∃ p, r = .ok (a, ⟨rest, p⟩) := by
  cases r with
  | ok found =>
    obtain ⟨a', rest', p⟩ := found
    cases h
    exact ⟨p, rfl⟩
  | error fault => cases h

theorem eq_error_of_outcome {r : Except Fault (α × { rest : List Char // P rest })}
    (h : outcome r = none) : ∃ fault, r = .error fault := by
  cases r with
  | ok found => cases h
  | error fault => exact ⟨fault, rfl⟩

@[simp] theorem outcome_later {m n : Nat} (h : m ≤ n) (r : Reading m α) :
    outcome (r.later h) = outcome r := by
  cases r with
  | ok found => rfl
  | error fault => rfl

@[simp] theorem outcome_map {β : Type} {n : Nat} (f : α → β) (r : Reading n α) :
    outcome (r.map f) = (outcome r).map (Prod.map f id) := by
  cases r with
  | ok found => rfl
  | error fault => rfl

/-! ## Numbers -/

theorem outcome_digitRun (cs : List Char) :
    outcome (digitRun cs) =
      if cs.head?.any Char.isDigit then some (cs.takeWhile Char.isDigit, cs.dropWhile Char.isDigit)
      else none := by
  cases cs with
  | nil => rfl
  | cons d rest =>
    by_cases h : d.isDigit
    · simp [digitRun, h, outcome]
    · simp [digitRun, h, outcome]

theorem outcome_wholePart (cs : List Char) :
    outcome (wholePart cs) =
      if cs.head? = some '0' then
        if cs.tail.head?.any Char.isDigit then none else some (['0'], cs.tail)
      else outcome (digitRun cs) := by
  unfold wholePart
  split
  · next rest =>
    by_cases h : rest.head?.any Char.isDigit
    · simp [h, outcome]
    · simp [h, outcome]
  · next h =>
    rw [if_neg]
    intro hzero
    exact h _ (List.head?_eq_some_iff.1 hzero).choose_spec

theorem outcome_fractionPart (cs : List Char) :
    outcome (fractionPart cs) =
      if cs.head? = some '.' then outcome (digitRun cs.tail) else some ([], cs) := by
  unfold fractionPart
  split
  · next rest =>
    simp only [List.head?_cons, List.tail_cons, if_true]
    cases digitRun rest with
    | ok found => rfl
    | error fault => rfl
  · next h =>
    rw [if_neg]
    · rfl
    · intro hpoint
      exact h _ (List.head?_eq_some_iff.1 hpoint).choose_spec

theorem outcome_exponentPart (cs : List Char) :
    outcome (exponentPart cs) =
      if cs.head? = some 'e' ∨ cs.head? = some 'E' then
        (outcome (digitRun (exponentSign cs.tail).2.1)).map
          (Prod.map (fun ds => some ((exponentSign cs.tail).1, ds)) id)
      else some (none, cs) := by
  cases cs with
  | nil => rfl
  | cons c rest =>
    by_cases h : c = 'e' ∨ c = 'E'
    · simp only [exponentPart, h, if_true, List.head?_cons, Option.some.injEq, List.tail_cons]
      cases digitRun (exponentSign rest).2.1 with
      | ok found => rfl
      | error fault => rfl
    · simp [exponentPart, h, outcome]

theorem outcome_unsigned (negative : Bool) (cs : List Char) :
    outcome (unsigned negative cs) =
      (outcome (wholePart cs)).bind fun whole =>
        (outcome (fractionPart whole.2)).bind fun fraction =>
          (outcome (exponentPart fraction.2)).map
            (Prod.map (fun exponent => ⟨negative, whole.1, fraction.1, exponent⟩) id) := by
  unfold unsigned
  cases wholePart cs with
  | error fault => rfl
  | ok whole =>
    simp only [outcome, Option.bind_some]
    cases fractionPart whole.2.1 with
    | error fault => rfl
    | ok fraction =>
      simp only [Option.bind_some]
      cases exponentPart fraction.2.1 with
      | error fault => rfl
      | ok exponent => rfl

theorem outcome_numberLiteral (cs : List Char) :
    outcome (numberLiteral cs) =
      if cs.head? = some '-' then outcome (unsigned true cs.tail)
      else outcome (unsigned false cs) := by
  unfold numberLiteral
  split
  · next rest => simp
  · next h =>
    rw [if_neg]
    intro hminus
    exact h _ (List.head?_eq_some_iff.1 hminus).choose_spec

/-- What follows a run of digits: no further one. -/
def EndsDigits (rest : List Char) : Prop := ∀ c ∈ rest.head?, ¬ c.isDigit

/-- What follows a number: nothing that could belong to it. -/
def EndsNumber (rest : List Char) : Prop :=
  ∀ c ∈ rest.head?, ¬ c.isDigit ∧ c ≠ '.' ∧ c ≠ 'e' ∧ c ≠ 'E'

theorem EndsNumber.endsDigits {rest : List Char} (h : EndsNumber rest) : EndsDigits rest :=
  fun c hc => (h c hc).1

theorem digitRun_append {ds rest : List Char} (hne : ds ≠ []) (hds : ∀ c ∈ ds, c.isDigit)
    (hrest : EndsDigits rest) : outcome (digitRun (ds ++ rest)) = some (ds, rest) := by
  obtain ⟨d, tail, rfl⟩ := List.exists_cons_of_ne_nil hne
  have hhead : (d :: tail ++ rest).head?.any Char.isDigit := hds d List.mem_cons_self
  rw [outcome_digitRun, if_pos hhead, List.takeWhile_append_of_pos hds,
    List.dropWhile_append_of_pos hds]
  cases rest with
  | nil => rw [List.takeWhile_nil, List.append_nil, List.dropWhile_nil]
  | cons c rest =>
    rw [List.takeWhile_cons_of_neg (hrest c rfl), List.append_nil,
      List.dropWhile_cons_of_neg (hrest c rfl)]

theorem wholePart_append {ds rest : List Char} (hne : ds ≠ []) (hds : ∀ c ∈ ds, c.isDigit)
    (hzero : ds.head? = some '0' → ds = ['0']) (hrest : EndsDigits rest) :
    outcome (wholePart (ds ++ rest)) = some (ds, rest) := by
  obtain ⟨d, tail, rfl⟩ := List.exists_cons_of_ne_nil hne
  rw [outcome_wholePart]
  split
  · next h =>
    rw [hzero h, if_neg]
    · rfl
    · rw [Option.any_eq_true]
      rintro ⟨c, hc, hdigit⟩
      exact hrest c hc hdigit
  · exact digitRun_append hne hds hrest

theorem fractionPart_append {ds rest : List Char} (hds : ∀ c ∈ ds, c.isDigit)
    (hrest : EndsDigits rest) (hpoint : rest.head? ≠ some '.') :
    outcome (fractionPart ((if ds.isEmpty then [] else '.' :: ds) ++ rest)) = some (ds, rest) := by
  rw [outcome_fractionPart]
  cases ds with
  | nil => exact if_neg hpoint
  | cons d ds => exact digitRun_append (List.cons_ne_nil d ds) hds hrest

/-- The exponent of a number as it is written. -/
def exponentText : Option (Bool × List Char) → List Char
  | none => []
  | some (negative, digits) => 'e' :: (if negative then '-' else '+') :: digits

theorem exponentPart_append {exponent : Option (Bool × List Char)} {rest : List Char}
    (hds : ∀ negative digits, exponent = some (negative, digits) →
      digits ≠ [] ∧ ∀ c ∈ digits, c.isDigit)
    (hrest : EndsNumber rest) :
    outcome (exponentPart (exponentText exponent ++ rest)) = some (exponent, rest) := by
  rw [outcome_exponentPart]
  rcases exponent with _ | ⟨negative, digits⟩
  · rw [if_neg]
    · rfl
    · rintro (he | hE)
      · exact (hrest 'e' he).2.2.1 rfl
      · exact (hrest 'E' hE).2.2.2 rfl
  · obtain ⟨hne, hdigits⟩ := hds negative digits rfl
    have hrun := digitRun_append hne hdigits hrest.endsDigits
    rw [if_pos (.inl rfl)]
    cases negative with
    | false =>
      show (outcome (digitRun (digits ++ rest))).map _ = _
      rw [hrun]
      rfl
    | true =>
      show (outcome (digitRun (digits ++ rest))).map _ = _
      rw [hrun]
      rfl

theorem exponentText_append_head {exponent : Option (Bool × List Char)} {rest : List Char}
    (hrest : EndsNumber rest) :
    ∀ c ∈ (exponentText exponent ++ rest).head?, ¬ c.isDigit ∧ c ≠ '.' := by
  rcases exponent with _ | ⟨negative, digits⟩
  · exact fun c hc => ⟨(hrest c hc).1, (hrest c hc).2.1⟩
  · rintro _ ⟨⟩
    decide

theorem Number.text_append (n : Number) (rest : List Char) :
    n.text ++ rest = (if n.negative then ['-'] else []) ++ (n.whole ++
      ((if n.fraction.isEmpty then [] else '.' :: n.fraction) ++
        (exponentText n.exponent ++ rest))) := by
  have h : n.text = (if n.negative then ['-'] else []) ++ n.whole ++
      (if n.fraction.isEmpty then [] else '.' :: n.fraction) ++ exponentText n.exponent := by
    unfold Number.text
    rcases n.exponent with _ | ⟨negative, digits⟩
    · rfl
    · rfl
  rw [h]
  simp only [List.append_assoc]

theorem unsigned_append {n : Number} (h : n.WellFormed) {rest : List Char}
    (hrest : EndsNumber rest) :
    outcome (unsigned n.negative (n.whole ++
      ((if n.fraction.isEmpty then [] else '.' :: n.fraction) ++
        (exponentText n.exponent ++ rest)))) = some (n, rest) := by
  obtain ⟨hwhole, hne, hzero, hfraction, hexponent⟩ := h
  have hhead := @exponentText_append_head n.exponent rest hrest
  -- the whole part ends at the point or at the exponent, or where the number does
  have hfractionHead : EndsDigits ((if n.fraction.isEmpty then [] else '.' :: n.fraction) ++
      (exponentText n.exponent ++ rest)) := by
    split
    · exact fun c hc => (hhead c hc).1
    · rintro _ ⟨⟩
      decide
  rw [outcome_unsigned, wholePart_append hne hwhole hzero hfractionHead]
  simp only [Option.bind_some]
  rw [fractionPart_append hfraction (fun c hc => (hhead c hc).1) (fun hc => (hhead _ hc).2 rfl)]
  simp only [Option.bind_some]
  rw [exponentPart_append hexponent hrest]
  rfl

theorem head?_whole_append_ne {n : Number} (h : n.WellFormed) (rest : List Char) :
    (n.whole ++ rest).head? ≠ some '-' := by
  obtain ⟨d, tail, hwhole⟩ := List.exists_cons_of_ne_nil h.2.1
  have hd : d.isDigit := h.1 d (hwhole ▸ List.mem_cons_self)
  rw [hwhole]
  rintro ⟨⟩
  exact absurd hd (by decide)

/-- A number is read back from its digits. -/
theorem numberLiteral_append {n : Number} (h : n.WellFormed) {rest : List Char}
    (hrest : EndsNumber rest) : outcome (numberLiteral (n.text ++ rest)) = some (n, rest) := by
  have hunsigned := unsigned_append h hrest
  rw [Number.text_append, outcome_numberLiteral]
  cases hnegative : n.negative with
  | false =>
    rw [hnegative] at hunsigned
    exact (if_neg (head?_whole_append_ne h _)).trans hunsigned
  | true =>
    rw [hnegative] at hunsigned
    exact (if_pos rfl).trans hunsigned

theorem digitRun_digits {cs ds rest : List Char} (h : outcome (digitRun cs) = some (ds, rest)) :
    (∀ c ∈ ds, c.isDigit) ∧ ds ≠ [] ∧ ds.head? = cs.head? := by
  rw [outcome_digitRun] at h
  split at h
  · next hhead =>
    cases h
    obtain ⟨d, hd, hdigit⟩ := (Option.any_eq_true _ _).1 hhead
    have hds : (cs.takeWhile Char.isDigit).head? = cs.head? := by
      rw [List.head?_takeWhile, hd]
      exact Option.filter_some_pos hdigit
    refine ⟨fun c => List.mem_takeWhile_imp, ?_, hds⟩
    intro hnil
    rw [hnil, hd] at hds
    cases hds
  · cases h

theorem wholePart_digits {cs ds rest : List Char} (h : outcome (wholePart cs) = some (ds, rest)) :
    (∀ c ∈ ds, c.isDigit) ∧ ds ≠ [] ∧ (ds.head? = some '0' → ds = ['0']) := by
  rw [outcome_wholePart] at h
  split at h
  · split at h
    · cases h
    · cases h
      exact ⟨fun c hc => List.mem_singleton.1 hc ▸ rfl, List.cons_ne_nil _ _, fun _ => rfl⟩
  · next hhead =>
    obtain ⟨hds, hne, hhead'⟩ := digitRun_digits h
    exact ⟨hds, hne, fun hzero => absurd (hhead' ▸ hzero) hhead⟩

theorem fractionPart_digits {cs ds rest : List Char}
    (h : outcome (fractionPart cs) = some (ds, rest)) : ∀ c ∈ ds, c.isDigit := by
  rw [outcome_fractionPart] at h
  split at h
  · exact (digitRun_digits h).1
  · cases h
    exact nofun

theorem exponentPart_digits {cs rest : List Char} {exponent : Option (Bool × List Char)}
    (h : outcome (exponentPart cs) = some (exponent, rest)) :
    ∀ negative digits, exponent = some (negative, digits) →
      digits ≠ [] ∧ ∀ c ∈ digits, c.isDigit := by
  rw [outcome_exponentPart] at h
  split at h
  · obtain ⟨⟨ds, rest'⟩, hrun, heq⟩ := Option.map_eq_some_iff.1 h
    cases heq
    rintro _ _ ⟨⟩
    obtain ⟨hds, hne, -⟩ := digitRun_digits hrun
    exact ⟨hne, hds⟩
  · cases h
    exact nofun

theorem unsigned_wellFormed {negative : Bool} {cs rest : List Char} {n : Number}
    (h : outcome (unsigned negative cs) = some (n, rest)) : n.WellFormed := by
  rw [outcome_unsigned] at h
  obtain ⟨⟨whole, rest₁⟩, hwhole, h⟩ := Option.bind_eq_some_iff.1 h
  obtain ⟨⟨fraction, rest₂⟩, hfraction, h⟩ := Option.bind_eq_some_iff.1 h
  obtain ⟨⟨exponent, rest₃⟩, hexponent, heq⟩ := Option.map_eq_some_iff.1 h
  cases heq
  obtain ⟨hdigits, hne, hzero⟩ := wholePart_digits hwhole
  exact ⟨hdigits, hne, hzero, fractionPart_digits hfraction, exponentPart_digits hexponent⟩

/-- Whatever is read as a number is written as one. -/
theorem numberLiteral_wellFormed {cs rest : List Char} {n : Number}
    (h : outcome (numberLiteral cs) = some (n, rest)) : n.WellFormed := by
  rw [outcome_numberLiteral] at h
  split at h
  · exact unsigned_wellFormed h
  · exact unsigned_wellFormed h

/-! ## Strings -/

theorem hexValue?_hexDigit : ∀ n < 16, hexValue? (hexDigit n) = some n := by
  decide

theorem outcome_codeUnit {a b c d : Char} {i j k l : Nat} (rest : List Char)
    (ha : hexValue? a = some i) (hb : hexValue? b = some j) (hc : hexValue? c = some k)
    (hd : hexValue? d = some l) :
    outcome (codeUnit (a :: b :: c :: d :: rest)) =
      some (((i * 16 + j) * 16 + k) * 16 + l, rest) := by
  simp only [codeUnit, ha, hb, hc, hd, outcome]

/-- A control is read back from its four digits. -/
theorem hexEscape_control {c : Char} (h : c.toNat < 0x20) (rest : List Char) :
    outcome (hexEscape ('0' :: '0' :: hexDigit (c.toNat / 16) :: hexDigit (c.toNat % 16) :: rest)) =
      some (c, rest) := by
  have hzero : hexValue? '0' = some 0 := by decide
  obtain ⟨p, hunit⟩ := eq_ok_of_outcome (outcome_codeUnit rest hzero hzero
    (hexValue?_hexDigit (c.toNat / 16) (by omega)) (hexValue?_hexDigit (c.toNat % 16) (by omega)))
  have hvalue : ((0 * 16 + 0) * 16 + c.toNat / 16) * 16 + c.toNat % 16 = c.toNat := by omega
  unfold hexEscape
  simp only [hunit, hvalue]
  rw [if_neg (by omega), if_neg (by omega), Char.ofNat_toNat]
  rfl

theorem outcome_escape_digits (cs : List Char) :
    outcome (escape ('u' :: cs)) = outcome (hexEscape cs) :=
  outcome_later (Nat.le_succ _) (hexEscape cs)

/-- A character is written with one letter after a backslash, with four digits, or as it is. -/
theorem writeChar_cases (c : Char) :
    (∃ l, writeChar c = ['\\', l] ∧ ∀ rest, outcome (escape (l :: rest)) = some (c, rest)) ∨
    (c.toNat < 0x20 ∧ writeChar c =
      ['\\', 'u', '0', '0', hexDigit (c.toNat / 16), hexDigit (c.toNat % 16)]) ∨
    (c ≠ '"' ∧ c ≠ '\\' ∧ ¬ c.toNat < 0x20 ∧ writeChar c = [c]) := by
  unfold writeChar
  split_ifs with hquote hslash hback htab hline hfeed hreturn hcontrol
  · subst hquote
    exact .inl ⟨'"', rfl, fun rest => rfl⟩
  · subst hslash
    exact .inl ⟨'\\', rfl, fun rest => rfl⟩
  · subst hback
    exact .inl ⟨'b', rfl, fun rest => rfl⟩
  · subst htab
    exact .inl ⟨'t', rfl, fun rest => rfl⟩
  · subst hline
    exact .inl ⟨'n', rfl, fun rest => rfl⟩
  · subst hfeed
    exact .inl ⟨'f', rfl, fun rest => rfl⟩
  · subst hreturn
    exact .inl ⟨'r', rfl, fun rest => rfl⟩
  · exact .inr (.inl ⟨hcontrol, rfl⟩)
  · exact .inr (.inr ⟨hquote, hslash, hcontrol, rfl⟩)

section StringBody

variable {n : Nat} (read : List Char) {rest : List Char}

theorem stringBody_quote (h : ('"' :: rest).length ≤ n) :
    outcome (stringBody read ('"' :: rest) h) = some (String.ofList read.reverse, rest) := by
  unfold stringBody
  rfl

theorem stringBody_plain {c : Char} (hquote : c ≠ '"') (hslash : c ≠ '\\')
    (hcontrol : ¬ c.toNat < 0x20) (h : (c :: rest).length ≤ n) (h' : rest.length ≤ n) :
    outcome (stringBody read (c :: rest) h) = outcome (stringBody (c :: read) rest h') := by
  rw [stringBody]
  simp only [hquote, hslash, hcontrol, if_false]

theorem stringBody_escape {d : Char} {cs : List Char}
    (hescape : outcome (escape cs) = some (d, rest))
    (h : ('\\' :: cs).length ≤ n) (h' : rest.length ≤ n) :
    outcome (stringBody read ('\\' :: cs) h) = outcome (stringBody (d :: read) rest h') := by
  obtain ⟨p, hescape⟩ := eq_ok_of_outcome hescape
  rw [stringBody]
  simp [hescape]

theorem stringBody_writeChar (c : Char) (h : (writeChar c ++ rest).length ≤ n)
    (h' : rest.length ≤ n) :
    outcome (stringBody read (writeChar c ++ rest) h) =
      outcome (stringBody (c :: read) rest h') := by
  revert h
  rcases writeChar_cases c with ⟨l, hwrite, hescape⟩ | ⟨hcontrol, hwrite⟩ |
    ⟨hquote, hslash, hcontrol, hwrite⟩
  · rw [hwrite]
    exact fun h => stringBody_escape read (hescape rest) h h'
  · rw [hwrite]
    refine fun h => stringBody_escape read ?_ h h'
    exact (outcome_escape_digits _).trans (hexEscape_control hcontrol rest)
  · rw [hwrite]
    exact fun h => stringBody_plain read hquote hslash hcontrol h h'

theorem stringBody_append (s : List Char) (h : (s.flatMap writeChar ++ '"' :: rest).length ≤ n) :
    outcome (stringBody read (s.flatMap writeChar ++ '"' :: rest) h) =
      some (String.ofList (read.reverse ++ s), rest) := by
  induction s generalizing read with
  | nil =>
    rw [List.append_nil]
    exact stringBody_quote read h
  | cons c s ih =>
    have h' : (s.flatMap writeChar ++ '"' :: rest).length ≤ n := by
      simp only [List.flatMap_cons, List.length_append] at h ⊢
      omega
    have hread : read.reverse ++ c :: s = (c :: read).reverse ++ s := by simp
    rw [hread, ← ih (c :: read) h']
    revert h
    rw [List.flatMap_cons, List.append_assoc]
    exact fun h => stringBody_writeChar read c h h'

end StringBody

/-- A string is read back from what stands behind its opening quote. -/
theorem stringLiteral_append (s : String) (rest : List Char) :
    outcome (stringLiteral (s.toList.flatMap writeChar ++ '"' :: rest)) = some (s, rest) := by
  unfold stringLiteral
  rw [stringBody_append]
  simp

end HomeEnergy.Json

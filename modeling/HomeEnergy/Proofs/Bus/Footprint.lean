import HomeEnergy.Proofs.Bus.Journal

/-!
What a device is asked for, read from the journal of its line, and how an exchange with it is put
together from parts that ask for something and parts that do not.

An exchange `Asks` for an operation if it asks for nothing else, and for this at most twice: once,
and once more with a new session. To go well it has to ask. An exchange over a journaled line
`Mirrors` one that keeps no journal if both come to the same.
-/

namespace HomeEnergy.Bus

variable {τ ω α β : Type}

/-! ## What is asked for in a journal -/

/-- The operation that a session was called with. -/
def Entry.operation? : Entry → Option Operation
  | .called _ op _ => some op
  | _ => none

namespace Journal

/-- The operations that the device was asked for. -/
def asked (j : Journal) : List Operation := j.filterMap Entry.operation?

/-- The words that the device was asked to write, each list with the register it begins at. -/
def writes (j : Journal) : List (UInt16 × List Word) := j.asked.filterMap Operation.written?

/-- The word that a write puts into a register. Registers count on from the last one to the
first. -/
def wordFor? (register : UInt16) (write : UInt16 × List Word) : Option Word :=
  write.2[(register - write.1).toNat]?

/-- The word that the device was asked last to write to a register. -/
def lastWord? (j : Journal) (register : UInt16) : Option Word :=
  (j.writes.filterMap (wordFor? register)).getLast?

theorem asked_append (j : Journal) (e : Entry) :
    asked (j ++ [e]) = j.asked ++ e.operation?.toList := by
  unfold asked
  rw [List.filterMap_append]
  cases h : e.operation? <;> simp [h]

theorem writes_eq_of_asked {j j' : Journal} {op : Operation} {k : Nat}
    (h : j'.asked = j.asked ++ List.replicate k op) :
    j'.writes = j.writes ++ op.written?.toList.flatMap (List.replicate k) := by
  unfold writes
  rw [h, List.filterMap_append]
  cases hw : op.written? with
  | none => rw [List.filterMap_replicate_of_none hw, Option.toList_none, List.flatMap_nil]
  | some write =>
    rw [List.filterMap_replicate_of_some hw, Option.toList_some, List.flatMap_singleton]

theorem wordFor?_single (register address : UInt16) (word : Word) :
    wordFor? register (address, [word]) = if register = address then some word else none := by
  unfold wordFor?
  by_cases h : register = address
  · rw [h, if_pos rfl, sub_self]
    rfl
  · have hoffset : (register - address).toNat ≠ 0 := fun hzero =>
      h (sub_eq_zero.1 (UInt16.toNat_inj.1 hzero))
    rw [if_neg h]
    exact List.getElem?_eq_none (Nat.one_le_iff_ne_zero.2 hoffset)

theorem lastWord?_of_writes {j j' : Journal} {ws : List (UInt16 × List Word)}
    (h : j'.writes = j.writes ++ ws) (register : UInt16) :
    j'.lastWord? register =
      (ws.filterMap (wordFor? register)).getLast?.or (j.lastWord? register) := by
  unfold lastWord?
  rw [h, List.filterMap_append, List.getLast?_append]

end Journal

namespace Line

variable (line : Line τ ω) (op : Operation) (w : ω) (j : Journal)

theorem session_asked (held : Option (Nat × τ)) :
    (line.journaled.session held (w, j)).2.2.asked = j.asked := by
  cases held with
  | some s => rfl
  | none =>
    simp only [session, journaled]
    split
    · exact (Journal.asked_append j _).trans (List.append_nil _)
    · exact (Journal.asked_append j _).trans (List.append_nil _)

/-- An attempt asks once, or not at all if there is no session to be had. -/
theorem attempt_asked (held : Option (Nat × τ)) :
    ∃ k ≤ 1, ((line.journaled.attempt op held (w, j)).1.isOk → 0 < k) ∧
      (line.journaled.attempt op held (w, j)).2.2.2.asked = j.asked ++ List.replicate k op := by
  have hsession := line.session_asked w j held
  unfold attempt
  rcases hopened : line.journaled.session held (w, j) with ⟨fault | ⟨n, s⟩, w₁, j₁⟩
  · rw [hopened] at hsession
    exact ⟨0, Nat.zero_le 1, nofun, hsession.trans (List.append_nil _).symm⟩
  · rw [hopened] at hsession
    have hcalled (reply : Except Fault (List Word)) :
        Journal.asked (j₁ ++ [.called n op reply]) = j.asked ++ List.replicate 1 op := by
      rw [Journal.asked_append, hsession]
      rfl
    refine ⟨1, Nat.le_refl 1, fun _ => Nat.one_pos, ?_⟩
    rcases hcall : line.call s op w₁ with ⟨fault | words, w₂⟩
    · simp only [call_journaled hcall]
      exact hcalled _
    · simp only [call_journaled hcall]
      split
      · exact hcalled _
      · exact hcalled _

theorem run_asked (client : Client (Nat × τ)) :
    ∃ k ≤ 2, ((line.journaled.run op client (w, j)).1.isOk → 0 < k) ∧
      (line.journaled.run op client (w, j)).2.2.2.asked = j.asked ++ List.replicate k op := by
  obtain ⟨k₁, hk₁, hfirstOk, hfirst⟩ := line.attempt_asked op w j client.session
  -- the second attempt adds to what the first one has asked for
  have htwice (w₁ : ω) (j₁ : Journal) (h : j₁.asked = j.asked ++ List.replicate k₁ op) :
      ∃ k ≤ 2, ((line.journaled.attempt op none (w₁, j₁)).1.isOk → 0 < k) ∧
        (line.journaled.attempt op none (w₁, j₁)).2.2.2.asked =
          j.asked ++ List.replicate k op := by
    obtain ⟨k₂, hk₂, hsecondOk, hsecond⟩ := line.attempt_asked op w₁ j₁ none
    refine ⟨k₁ + k₂, by omega, fun hok => Nat.add_pos_right k₁ (hsecondOk hok), ?_⟩
    rw [hsecond, h, List.append_assoc, List.replicate_append_replicate]
  rcases run_cases line.journaled op client (w, j) with
    ⟨words, slot, w₁, hattempt, hrun⟩ |
    ⟨first, slot₁, w₁, words, slot₂, w₂, hattempt, hagain, hrun⟩ |
    ⟨first, slot₁, w₁, second, slot₂, w₂, hattempt, hagain, hrun⟩
  · rw [hattempt] at hfirstOk hfirst
    rw [hrun]
    exact ⟨k₁, by omega, hfirstOk, hfirst⟩
  · rw [hattempt] at hfirst
    rw [hrun]
    obtain ⟨k, hk, hok, hasked⟩ := htwice w₁.1 w₁.2 hfirst
    rw [hagain] at hok hasked
    exact ⟨k, hk, hok, hasked⟩
  · rw [hattempt] at hfirst
    rw [hrun]
    obtain ⟨k, hk, -, hasked⟩ := htwice w₁.1 w₁.2 hfirst
    rw [hagain] at hasked
    exact ⟨k, hk, nofun, hasked⟩

end Line

/-! ## Exchanges -/

namespace Exchange

theorem bind_apply (first : Exchange τ ω α) (next : α → Exchange τ ω β) (s : Client τ × ω) :
    (first >>= next) s =
      match first s with
      | (.ok a, s) => next a s
      | (.error fault, s) => (.error fault, s) := by
  show ExceptT.bindCont next (first s).1 (first s).2 = _
  rcases first s with ⟨fault | a, s'⟩
  · rfl
  · rfl

/-- Nothing is done with the device. -/
def Silent (act : Exchange τ ω α) : Prop := ∀ s, (act s).2 = s

theorem Silent.pure (a : α) : Silent (τ := τ) (ω := ω) (Pure.pure a) := fun _ => rfl

theorem Silent.decoded (line : Line τ ω) (what : String) (a : Option α) :
    Silent (line.decoded what a) := by
  cases a with
  | none => exact fun _ => rfl
  | some a => exact fun _ => rfl

theorem Silent.bind {first : Exchange τ ω α} {next : α → Exchange τ ω β} (h : first.Silent)
    (hnext : ∀ a, (next a).Silent) : Silent (first >>= next) := by
  intro s
  have hs := h s
  rw [bind_apply]
  rcases hfirst : first s with ⟨fault | a, s'⟩
  · rw [hfirst] at hs
    exact hs
  · rw [hfirst] at hs
    exact (hnext a s').trans hs

/-- The device is asked for the operation, at most twice, and for nothing else. If the exchange goes
well it is asked at least once. -/
def Asks (op : Operation) (act : Exchange (Nat × τ) (ω × Journal) α) : Prop :=
  ∀ client w j, ∃ k ≤ 2, ((act (client, w, j)).1.isOk → 0 < k) ∧
    (act (client, w, j)).2.2.2.asked = j.asked ++ List.replicate k op

theorem Asks.execute (line : Line τ ω) (op : Operation) :
    Asks op (line.journaled.execute op) := fun client w j => line.run_asked op w j client

/-- What is done with a reply asks for nothing more. -/
theorem Asks.bind {op : Operation} {first : Exchange (Nat × τ) (ω × Journal) α}
    {next : α → Exchange (Nat × τ) (ω × Journal) β} (h : first.Asks op)
    (hnext : ∀ a, (next a).Silent) : Asks op (first >>= next) := by
  intro client w j
  obtain ⟨k, hk, hok, hasked⟩ := h client w j
  refine ⟨k, hk, ?_⟩
  rw [bind_apply]
  rcases hfirst : first (client, w, j) with ⟨fault | a, s⟩
  · rw [hfirst] at hasked
    exact ⟨nofun, hasked⟩
  · rw [hfirst] at hok hasked
    dsimp only
    rw [hnext a s]
    exact ⟨fun _ => hok rfl, hasked⟩

theorem Asks.write (line : Line τ ω) (op : Operation) : Asks op (line.journaled.write op) :=
  (Asks.execute line op).bind fun _ => Silent.pure ()

/-- The exchange comes to the same as one that keeps no journal. -/
def Mirrors (act : Exchange (Nat × τ) (ω × Journal) α) (bare : Exchange τ ω α) : Prop :=
  ∀ client w j, bare (client.plain, w) =
    ((act (client, w, j)).1, (act (client, w, j)).2.1.plain, (act (client, w, j)).2.2.1)

theorem Mirrors.pure (a : α) :
    Mirrors (τ := τ) (ω := ω) (Pure.pure a) (Pure.pure a) := fun _ _ _ => rfl

theorem Mirrors.execute (line : Line τ ω) (op : Operation) :
    Mirrors (line.journaled.execute op) (line.execute op) :=
  fun client w j => Line.run_plain op client w j

theorem Mirrors.decoded (line : Line τ ω) (what : String) (a : Option α) :
    Mirrors (line.journaled.decoded what a) (line.decoded what a) := by
  cases a with
  | none => exact fun _ _ _ => rfl
  | some a => exact fun _ _ _ => rfl

theorem Mirrors.bind {first : Exchange (Nat × τ) (ω × Journal) α} {bare : Exchange τ ω α}
    {next : α → Exchange (Nat × τ) (ω × Journal) β} {bareNext : α → Exchange τ ω β}
    (h : first.Mirrors bare) (hnext : ∀ a, (next a).Mirrors (bareNext a)) :
    Mirrors (first >>= next) (bare >>= bareNext) := by
  intro client w j
  rw [bind_apply, bind_apply, h client w j]
  rcases first (client, w, j) with ⟨fault | a, client', w', j'⟩
  · rfl
  · exact hnext a client' w' j'

theorem Mirrors.write (line : Line τ ω) (op : Operation) :
    Mirrors (line.journaled.write op) (line.write op) :=
  (Mirrors.execute line op).bind fun _ => Mirrors.pure ()

end Exchange

end HomeEnergy.Bus

import HomeEnergy.Bus.Simulated
import Mathlib

/-!
What a client does with the sessions it opens, read from a journal. `Line.journaled` is a line that
behaves like another one and writes down every attempt to open a session and every call, with its
reply. The client cannot tell the difference, so the journal of the one is what happens on the
other.

`broken_session_not_called` says what such a journal can look like, for a line that does whatever it
likes: a session with which a call has failed is not called again. What carries it is
`Journal.Sound`, which every operation keeps.
-/

namespace HomeEnergy.Bus

variable {τ ω : Type}

/-! ## Journals -/

/-- What happens on a line. Sessions go by their numbers, from zero on. -/
inductive Entry where
  | refused (fault : Fault)
  | opened (n : Nat)
  | called (n : Nat) (op : Operation) (reply : Except Fault (List Word))

namespace Entry

/-- The session that was opened. -/
def opened? : Entry → Option Nat
  | .opened n => some n
  | _ => none

/-- The session that was opened or called. -/
def session? : Entry → Option Nat
  | .opened n => some n
  | .called n _ _ => some n
  | .refused _ => none

/-- Whether a session was asked for. -/
def isConnection : Entry → Bool
  | .refused _ => true
  | .opened _ => true
  | .called _ _ _ => false

/-- Whether a session was called and gave a fault, or a reply of the wrong length. -/
def Breaks (n : Nat) : Entry → Prop
  | .called m _ (.error _) => m = n
  | .called m op (.ok words) => m = n ∧ words.length ≠ op.replyLength
  | _ => False

theorem session?_of_opened? {e : Entry} {n : Nat} (h : e.opened? = some n) :
    e.session? = some n := by
  cases e with
  | refused fault => cases h
  | opened m => exact h
  | called m op reply => cases h

theorem Breaks.session?_eq {e : Entry} {n : Nat} (h : e.Breaks n) : e.session? = some n := by
  cases e with
  | refused fault => exact h.elim
  | opened m => exact h.elim
  | called m op reply =>
    cases reply with
    | error fault => exact congrArg some h
    | ok words => exact congrArg some h.1

end Entry

/-- What happened on a line, the oldest first. -/
abbrev Journal := List Entry

namespace Journal

/-- The sessions that were opened, in their order. -/
def sessions (j : Journal) : List Nat := j.filterMap Entry.opened?

/-- The session that was opened last. -/
def newest? (j : Journal) : Option Nat := j.sessions.getLast?

/-- The number of times that a session was asked for. -/
def connections (j : Journal) : Nat := j.countP Entry.isConnection

/-- A session with which no call has failed. -/
def Unbroken (j : Journal) (n : Nat) : Prop := ∀ e ∈ j, ¬ e.Breaks n

/-- A session that may be called: the newest one, as long as no call has failed. -/
def Usable (j : Journal) (n : Nat) : Prop := j.newest? = some n ∧ j.Unbroken n

/-- The journals of clients that call only what may be called. -/
inductive Sound : Journal → Prop
  | empty : Sound []
  | refused {j : Journal} {fault : Fault} (h : Sound j) : Sound (j ++ [.refused fault])
  | opened {j : Journal} (h : Sound j) : Sound (j ++ [.opened j.sessions.length])
  | called {j : Journal} {n : Nat} {op : Operation} {reply : Except Fault (List Word)}
      (h : Sound j) (usable : j.Usable n) : Sound (j ++ [.called n op reply])

theorem sessions_append (j : Journal) (e : Entry) :
    sessions (j ++ [e]) = j.sessions ++ e.opened?.toList := by
  unfold sessions
  rw [List.filterMap_append]
  cases h : e.opened? <;> simp [h]

theorem length_sessions_append (j : Journal) (e : Entry) :
    (sessions (j ++ [e])).length = j.sessions.length + e.opened?.toList.length := by
  rw [sessions_append, List.length_append]

theorem newest?_opened (j : Journal) (n : Nat) : newest? (j ++ [.opened n]) = some n := by
  unfold newest?
  rw [sessions_append]
  exact List.getLast?_concat

theorem newest?_called (j : Journal) (n : Nat) (op : Operation)
    (reply : Except Fault (List Word)) : newest? (j ++ [.called n op reply]) = j.newest? := by
  unfold newest?
  rw [sessions_append]
  exact congrArg List.getLast? (List.append_nil _)

theorem connections_append (j : Journal) (e : Entry) :
    connections (j ++ [e]) = j.connections + if e.isConnection then 1 else 0 := by
  unfold connections
  rw [List.countP_append, List.countP_singleton]

theorem Unbroken.append {j : Journal} {n : Nat} (h : j.Unbroken n) {e : Entry}
    (he : ¬ e.Breaks n) : Unbroken (j ++ [e]) n := by
  intro e' he'
  rcases List.mem_append.1 he' with he' | he'
  · exact h e' he'
  · rwa [List.mem_singleton.1 he']

/-- An entry of a longer journal is the last one or stands further back. -/
theorem eq_or_earlier {j before after : Journal} {last e : Entry}
    (h : j ++ [last] = before ++ e :: after) :
    (j = before ∧ last = e) ∨ ∃ after', j = before ++ e :: after' := by
  rcases List.eq_nil_or_concat after with rfl | ⟨after', last', rfl⟩
  · obtain ⟨hj, hlast⟩ := List.append_inj' h rfl
    exact .inl ⟨hj, List.singleton_inj.1 hlast⟩
  · rw [List.concat_eq_append, ← List.cons_append, ← List.append_assoc] at h
    exact .inr ⟨after', (List.append_inj' h rfl).1⟩

/-- A proper reply leaves a session usable. -/
theorem Usable.called {j : Journal} {n : Nat} (h : j.Usable n) {op : Operation}
    {words : List Word} (hlength : words.length = op.replyLength) :
    Usable (j ++ [.called n op (.ok words)]) n := by
  refine ⟨?_, h.2.append ?_⟩
  · rw [newest?_called]
    exact h.1
  · rintro ⟨-, hne⟩
    exact hne hlength

namespace Sound

variable {j : Journal}

/-- The sessions of a sound journal are numbered in their order. -/
theorem sessions_eq_range (h : j.Sound) :
    j.sessions = List.range j.sessions.length := by
  induction h with
  | empty => rfl
  | refused _ ih =>
    rw [sessions_append]
    simpa [Entry.opened?] using ih
  | opened _ ih =>
    rw [sessions_append]
    simpa [Entry.opened?, List.range_succ] using ih
  | called _ _ ih =>
    rw [sessions_append]
    simpa [Entry.opened?] using ih

/-- Every session in a sound journal has one of the first numbers. -/
theorem session_lt (h : j.Sound) {e : Entry} (he : e ∈ j) {n : Nat} (hn : e.session? = some n) :
    n < j.sessions.length := by
  induction h generalizing e with
  | empty => cases he
  | refused _ ih =>
    rw [length_sessions_append]
    rcases List.mem_append.1 he with he | he
    · exact Nat.lt_add_right _ (ih he hn)
    · rw [List.mem_singleton.1 he] at hn
      cases hn
  | opened _ ih =>
    rw [length_sessions_append]
    rcases List.mem_append.1 he with he | he
    · exact Nat.lt_add_right _ (ih he hn)
    · rw [List.mem_singleton.1 he] at hn
      cases hn
      exact Nat.lt_succ_self _
  | called _ usable ih =>
    rw [length_sessions_append]
    rcases List.mem_append.1 he with he | he
    · exact Nat.lt_add_right _ (ih he hn)
    · rw [List.mem_singleton.1 he] at hn
      cases hn
      -- a session that is called was opened before
      obtain ⟨e', he', hopened⟩ := List.mem_filterMap.1 (List.mem_of_getLast? usable.1)
      exact Nat.lt_add_right _ (ih he' (Entry.session?_of_opened? hopened))

/-- A new session has a new number, so that nothing that has failed counts against it. -/
theorem usable_opened (h : j.Sound) :
    Usable (j ++ [.opened j.sessions.length]) j.sessions.length := by
  refine ⟨newest?_opened j _, Unbroken.append ?_ id⟩
  intro e he hbreaks
  exact Nat.lt_irrefl _ (h.session_lt he hbreaks.session?_eq)

/-- In a sound journal every call finds a usable session. -/
theorem usable_of_called (h : j.Sound) {before after : Journal} {n : Nat} {op : Operation}
    {reply : Except Fault (List Word)} (hj : j = before ++ .called n op reply :: after) :
    before.Usable n := by
  -- the call is the last entry, or it is in the journal that the last entry was added to
  induction h generalizing after with
  | empty =>
    rw [eq_comm, List.append_eq_nil_iff] at hj
    cases hj.2
  | refused _ ih =>
    rcases eq_or_earlier hj with ⟨-, hlast⟩ | ⟨_, hj⟩
    · cases hlast
    · exact ih hj
  | opened _ ih =>
    rcases eq_or_earlier hj with ⟨-, hlast⟩ | ⟨_, hj⟩
    · cases hlast
    · exact ih hj
  | called _ usable ih =>
    rcases eq_or_earlier hj with ⟨rfl, hlast⟩ | ⟨_, hj⟩
    · cases hlast
      exact usable
    · exact ih hj

end Sound

end Journal

/-! ## Lines that keep a journal -/

namespace Line

variable (line : Line τ ω)

/-- The line that does the same and keeps a journal. Its sessions know their numbers. -/
def journaled : Line (Nat × τ) (ω × Journal) where
  host := line.host
  connect := fun (w, j) =>
    match line.connect w with
    | (.ok s, w) => (.ok (j.sessions.length, s), w, j ++ [.opened j.sessions.length])
    | (.error fault, w) => (.error fault, w, j ++ [.refused fault])
  call := fun (n, s) op (w, j) =>
    let (reply, w) := line.call s op w
    (reply, w, j ++ [.called n op reply])

/-- The three ways in which an operation can go: well, well in the second attempt, or not. -/
theorem run_cases (op : Operation) (client : Client τ) (w : ω) :
    (∃ words slot w₁, line.attempt op client.session w = (.ok words, slot, w₁) ∧
      line.run op client w = (.ok words, ⟨slot, client.reconnects⟩, w₁)) ∨
    (∃ first slot₁ w₁ words slot₂ w₂,
      line.attempt op client.session w = (.error first, slot₁, w₁) ∧
      line.attempt op none w₁ = (.ok words, slot₂, w₂) ∧
      line.run op client w = (.ok words, ⟨slot₂, client.reconnects + 1⟩, w₂)) ∨
    (∃ first slot₁ w₁ second slot₂ w₂,
      line.attempt op client.session w = (.error first, slot₁, w₁) ∧
      line.attempt op none w₁ = (.error second, slot₂, w₂) ∧
      line.run op client w = (.error first, ⟨none, client.reconnects + 1⟩, w₂)) := by
  unfold run
  rcases line.attempt op client.session w with ⟨first | words, slot₁, w₁⟩
  · rcases hsecond : line.attempt op none w₁ with ⟨second | words, slot₂, w₂⟩
    · refine .inr (.inr ⟨first, slot₁, w₁, second, slot₂, w₂, rfl, hsecond, ?_⟩)
      simp only [hsecond]
    · refine .inr (.inl ⟨first, slot₁, w₁, words, slot₂, w₂, rfl, hsecond, ?_⟩)
      simp only [hsecond]
  · exact .inl ⟨words, slot₁, w₁, rfl, rfl⟩

/-- A session that has served well is in the slot. -/
theorem isSome_of_attempt {op : Operation} {held slot : Option τ} {w w' : ω} {words : List Word}
    (h : line.attempt op held w = (.ok words, slot, w')) : slot.isSome := by
  unfold attempt at h
  split at h
  · cases h
  · split at h
    · cases h
    · split at h
      · cases h
        rfl
      · cases h

/-- Whether the first attempt at an operation fails. -/
def falters (op : Operation) (client : Client τ) (w : ω) : Bool :=
  !(line.attempt op client.session w).1.isOk

variable {line} {op : Operation} {w w' : ω} {j j' : Journal}

theorem call_journaled {n : Nat} {s : τ} {reply : Except Fault (List Word)}
    (h : line.call s op w = (reply, w')) :
    line.journaled.call (n, s) op (w, j) = (reply, w', j ++ [.called n op reply]) := by
  simp only [journaled, h]

theorem session_journaled {held : Option (Nat × τ)} {result : Except Fault (Nat × τ)}
    (h : line.journaled.session held (w, j) = (result, w', j')) (sound : j.Sound)
    (usable : ∀ s ∈ held, j.Usable s.1) :
    j'.Sound ∧ (∀ s, result = .ok s → j'.Usable s.1) ∧
      j'.connections = j.connections + if held.isNone then 1 else 0 := by
  cases held with
  | some s =>
    cases h
    refine ⟨sound, ?_, rfl⟩
    rintro _ ⟨⟩
    exact usable s rfl
  | none =>
    simp only [session, journaled] at h
    split at h
    · cases h
      refine ⟨sound.opened, ?_, Journal.connections_append j _⟩
      rintro _ ⟨⟩
      exact sound.usable_opened
    · cases h
      exact ⟨sound.refused, nofun, Journal.connections_append j _⟩

/-- An attempt calls one usable session, which is still usable if the attempt goes well. -/
theorem attempt_journaled {held slot : Option (Nat × τ)} {result : Except Fault (List Word)}
    (h : line.journaled.attempt op held (w, j) = (result, slot, w', j')) (sound : j.Sound)
    (usable : ∀ s ∈ held, j.Usable s.1) :
    j'.Sound ∧ (result.isOk → ∀ s ∈ slot, j'.Usable s.1) ∧
      j'.connections = j.connections + if held.isNone then 1 else 0 := by
  unfold attempt at h
  rcases hsession : line.journaled.session held (w, j) with ⟨fault | ⟨n, s⟩, w₁, j₁⟩
  · rw [hsession] at h
    cases h
    obtain ⟨sound', -, hconnections⟩ := session_journaled hsession sound usable
    exact ⟨sound', nofun, hconnections⟩
  · obtain ⟨sound₁, usable₁, hconnections⟩ := session_journaled hsession sound usable
    have hn : j₁.Usable n := usable₁ (n, s) rfl
    have hcalled (reply : Except Fault (List Word)) :
        Journal.connections (j₁ ++ [.called n op reply]) =
          j.connections + if held.isNone then 1 else 0 :=
      (Journal.connections_append j₁ _).trans hconnections
    rw [hsession] at h
    rcases hcall : line.call s op w₁ with ⟨fault | words, w₂⟩
    · simp only [call_journaled hcall] at h
      cases h
      exact ⟨sound₁.called hn, nofun, hcalled _⟩
    · simp only [call_journaled hcall] at h
      split at h
      · next hlength =>
        cases h
        refine ⟨sound₁.called hn, ?_, hcalled _⟩
        rintro - _ ⟨⟩
        exact hn.called hlength
      · cases h
        exact ⟨sound₁.called hn, nofun, hcalled _⟩

/-- An operation leaves a sound journal and holds only what is usable. It asks for a session if it
has none, and again after a failure. -/
theorem run_journaled {client client' : Client (Nat × τ)} {result : Except Fault (List Word)}
    (h : line.journaled.run op client (w, j) = (result, client', w', j')) (sound : j.Sound)
    (usable : ∀ s ∈ client.session, j.Usable s.1) :
    j'.Sound ∧ (∀ s ∈ client'.session, j'.Usable s.1) ∧
      j'.connections = j.connections + (if client.session.isNone then 1 else 0) +
        if line.journaled.falters op client (w, j) then 1 else 0 := by
  unfold falters
  rcases run_cases line.journaled op client (w, j) with
    ⟨words, slot, ⟨w₁, j₁⟩, hfirst, hrun⟩ |
    ⟨first, slot₁, ⟨w₁, j₁⟩, words, slot₂, ⟨w₂, j₂⟩, hfirst, hsecond, hrun⟩ |
    ⟨first, slot₁, ⟨w₁, j₁⟩, second, slot₂, ⟨w₂, j₂⟩, hfirst, hsecond, hrun⟩
  · obtain ⟨sound₁, usable₁, hconnections₁⟩ := attempt_journaled hfirst sound usable
    rw [hfirst]
    cases hrun.symm.trans h
    exact ⟨sound₁, usable₁ rfl, hconnections₁⟩
  · obtain ⟨sound₁, -, hconnections₁⟩ := attempt_journaled hfirst sound usable
    -- the session that failed may still be in `slot₁`; the second attempt begins without one
    obtain ⟨sound₂, usable₂, hconnections₂⟩ := attempt_journaled hsecond sound₁ nofun
    rw [hfirst, ← hconnections₁]
    cases hrun.symm.trans h
    exact ⟨sound₂, usable₂ rfl, hconnections₂⟩
  · obtain ⟨sound₁, -, hconnections₁⟩ := attempt_journaled hfirst sound usable
    obtain ⟨sound₂, -, hconnections₂⟩ := attempt_journaled hsecond sound₁ nofun
    rw [hfirst, ← hconnections₁]
    cases hrun.symm.trans h
    exact ⟨sound₂, nofun, hconnections₂⟩

/-! ## The journal is not noticed -/

theorem session_plain (held : Option (Nat × τ)) (w : ω) (j : Journal) :
    line.session (held.map Prod.snd) w =
      ((line.journaled.session held (w, j)).1.map Prod.snd,
        (line.journaled.session held (w, j)).2.1) := by
  cases held with
  | some s => rfl
  | none =>
    simp only [session, journaled, Option.map_none]
    split
    · next hconnect => exact hconnect
    · next hconnect => exact hconnect

theorem attempt_plain (op : Operation) (held : Option (Nat × τ)) (w : ω) (j : Journal) :
    line.attempt op (held.map Prod.snd) w =
      ((line.journaled.attempt op held (w, j)).1,
        (line.journaled.attempt op held (w, j)).2.1.map Prod.snd,
        (line.journaled.attempt op held (w, j)).2.2.1) := by
  unfold attempt
  rw [session_plain held w j]
  rcases line.journaled.session held (w, j) with ⟨fault | ⟨n, s⟩, w₁, j₁⟩
  · rfl
  · simp only [Except.map]
    rcases hcall : line.call s op w₁ with ⟨fault | words, w₂⟩
    · simp only [call_journaled hcall, Option.map_some]
    · simp only [call_journaled hcall]
      split
      · rfl
      · rfl

end Line

/-- What a client holds, without the number. -/
def Client.plain (client : Client (Nat × τ)) : Client τ :=
  ⟨client.session.map Prod.snd, client.reconnects⟩

theorem Line.run_plain {line : Line τ ω} (op : Operation) (client : Client (Nat × τ)) (w : ω)
    (j : Journal) :
    line.run op client.plain w =
      ((line.journaled.run op client (w, j)).1,
        (line.journaled.run op client (w, j)).2.1.plain,
        (line.journaled.run op client (w, j)).2.2.1) := by
  unfold run
  simp only [Client.plain]
  rw [attempt_plain op client.session w j]
  rcases line.journaled.attempt op client.session (w, j) with ⟨first | words, slot₁, w₁, j₁⟩
  · have hsecond := @attempt_plain _ _ line op none w₁ j₁
    rw [Option.map_none] at hsecond
    simp only [hsecond]
    rcases line.journaled.attempt op none (w₁, j₁) with ⟨second | words, slot₂, w₂, j₂⟩
    · rfl
    · rfl
  · rfl

/-! ## Operations one after another -/

/-- One operation as it was carried out. -/
structure Use (τ ω : Type) where
  operation : Operation
  /-- The client and the world before it. -/
  before : Client τ × ω
  result : Except Fault (List Word)
  /-- The client and the world after it. -/
  after : Client τ × ω

namespace Use

/-- Whether the client had no session. -/
def unheld (u : Use τ ω) : Bool := u.before.1.session.isNone

/-- Whether the first attempt failed. -/
def falters (line : Line τ ω) (u : Use τ ω) : Bool :=
  line.falters u.operation u.before.1 u.before.2

/-- A use of a line that keeps a journal, as a use of the line itself. -/
def plain (u : Use (Nat × τ) (ω × Journal)) : Use τ ω where
  operation := u.operation
  before := (u.before.1.plain, u.before.2.1)
  result := u.result
  after := (u.after.1.plain, u.after.2.1)

end Use

namespace Line

/-- Carries out one operation. -/
def once (line : Line τ ω) (op : Operation) (state : Client τ × ω) : Use τ ω where
  operation := op
  before := state
  result := (line.run op state.1 state.2).1
  after := (line.run op state.1 state.2).2

/-- Carries out operations in their order. -/
def uses (line : Line τ ω) : List Operation → Client τ × ω → List (Use τ ω)
  | [], _ => []
  | op :: ops, state => line.once op state :: line.uses ops (line.once op state).after

/-- The client and the world after operations. -/
def after (line : Line τ ω) (ops : List Operation) (state : Client τ × ω) : Client τ × ω :=
  ops.foldl (fun state op => (line.once op state).after) state

variable {line : Line τ ω}

/-- A client holds a session after an operation exactly if the operation went well. -/
theorem once_session (op : Operation) (state : Client τ × ω) :
    (line.once op state).after.1.session.isSome = (line.once op state).result.isOk := by
  unfold once
  rcases run_cases line op state.1 state.2 with
    ⟨words, slot, w₁, hfirst, hrun⟩ | ⟨first, slot₁, w₁, words, slot₂, w₂, -, hsecond, hrun⟩ |
    ⟨first, slot₁, w₁, second, slot₂, w₂, -, -, hrun⟩
  · rw [hrun]
    exact isSome_of_attempt _ hfirst
  · rw [hrun]
    exact isSome_of_attempt _ hsecond
  · rw [hrun]
    rfl

/-- The counter counts the first attempts that failed. -/
theorem once_reconnects (op : Operation) (state : Client τ × ω) :
    (line.once op state).after.1.reconnects =
      state.1.reconnects + if (line.once op state).falters line then 1 else 0 := by
  unfold Use.falters falters once
  rcases run_cases line op state.1 state.2 with
    ⟨words, slot, w₁, hfirst, hrun⟩ | ⟨first, slot₁, w₁, words, slot₂, w₂, hfirst, -, hrun⟩ |
    ⟨first, slot₁, w₁, second, slot₂, w₂, hfirst, -, hrun⟩
  · rw [hrun, hfirst]
    exact (UInt64.add_zero _).symm
  · rw [hrun, hfirst]
    rfl
  · rw [hrun, hfirst]
    rfl

theorem once_plain (op : Operation) (state : Client (Nat × τ) × ω × Journal) :
    (line.journaled.once op state).plain = line.once op (state.1.plain, state.2.1) := by
  obtain ⟨client, w, j⟩ := state
  unfold once
  simp only [run_plain op client w j]
  rfl

theorem uses_plain (ops : List Operation) (state : Client (Nat × τ) × ω × Journal) :
    (line.journaled.uses ops state).map Use.plain = line.uses ops (state.1.plain, state.2.1) := by
  induction ops generalizing state with
  | nil => rfl
  | cons op ops ih =>
    simp only [uses, List.map_cons]
    rw [once_plain, ih, ← once_plain]
    rfl

/-- A client begins an operation with what it has after the one before. -/
theorem uses_before {ops : List Operation} {state : Client τ × ω} {before after : List (Use τ ω)}
    {u : Use τ ω} (h : line.uses ops state = before ++ u :: after) :
    u = line.once u.operation u.before ∧
      u.before = (before.getLast?.map Use.after).getD state := by
  induction ops generalizing state before with
  | nil =>
    rw [uses, eq_comm, List.append_eq_nil_iff] at h
    cases h.2
  | cons op ops ih =>
    cases before with
    | nil =>
      cases h
      exact ⟨rfl, rfl⟩
    | cons first before =>
      obtain ⟨rfl, htail⟩ := List.cons.inj h
      obtain ⟨hu, hbefore⟩ := ih htail
      refine ⟨hu, hbefore.trans ?_⟩
      rw [List.getLast?_cons]
      cases before.getLast? with
      | none => rfl
      | some previous => rfl

theorem session_of_mem_uses {ops : List Operation} {state : Client τ × ω} {u : Use τ ω}
    (h : u ∈ line.uses ops state) : u.after.1.session.isSome = u.result.isOk := by
  obtain ⟨before, after, h⟩ := List.append_of_mem h
  rw [(uses_before h).1]
  exact once_session _ _

theorem falters_plain (u : Use (Nat × τ) (ω × Journal)) :
    u.plain.falters line = u.falters line.journaled := by
  have hattempt := @attempt_plain _ _ line u.operation u.before.1.session u.before.2.1
    u.before.2.2
  exact congrArg (fun result => !(Prod.fst result).isOk) hattempt

theorem unheld_plain (u : Use (Nat × τ) (ω × Journal)) : u.plain.unheld = u.unheld :=
  Option.isNone_map

theorem once_journaled (op : Operation) {state : Client (Nat × τ) × ω × Journal}
    (sound : state.2.2.Sound) (usable : ∀ s ∈ state.1.session, state.2.2.Usable s.1) :
    let u := line.journaled.once op state
    u.after.2.2.Sound ∧ (∀ s ∈ u.after.1.session, u.after.2.2.Usable s.1) ∧
      u.after.2.2.connections = state.2.2.connections + (if u.unheld then 1 else 0) +
        if u.falters line.journaled then 1 else 0 :=
  run_journaled rfl sound usable

/-- What the operations leave in the journal, and how often they ask for a session. -/
theorem after_journaled {ops : List Operation} {state : Client (Nat × τ) × ω × Journal}
    (sound : state.2.2.Sound) (usable : ∀ s ∈ state.1.session, state.2.2.Usable s.1) :
    (line.journaled.after ops state).2.2.Sound ∧
      (line.journaled.after ops state).2.2.connections = state.2.2.connections +
        (line.journaled.uses ops state).countP (Use.falters line.journaled) +
        (line.journaled.uses ops state).countP Use.unheld := by
  induction ops generalizing state with
  | nil => exact ⟨sound, rfl⟩
  | cons op ops ih =>
    obtain ⟨sound', usable', hconnections⟩ := once_journaled op sound usable
    obtain ⟨soundAfter, hafter⟩ := ih sound' usable'
    refine ⟨soundAfter, hafter.trans ?_⟩
    rw [hconnections, uses, List.countP_cons, List.countP_cons]
    omega

theorem after_reconnects (ops : List Operation) (state : Client τ × ω) :
    (line.after ops state).1.reconnects =
      state.1.reconnects + UInt64.ofNat ((line.uses ops state).countP (Use.falters line)) := by
  induction ops generalizing state with
  | nil => exact (UInt64.add_zero _).symm
  | cons op ops ih =>
    refine (ih _).trans ?_
    rw [once_reconnects, uses, List.countP_cons, UInt64.ofNat_add, UInt64.add_assoc,
      UInt64.add_comm (UInt64.ofNat _)]
    split
    · rfl
    · rfl

end Line

/-- However a device and the way to it behave, and whatever is asked of it: a session with which a
call has failed is not called again, and every call goes to the session opened last. A client holds
a session after an operation exactly if it went well, it counts the operations that failed at first,
and it asks for a session once for each of these and once for each operation that it begins without
one: the first one, and those that follow a failure. -/
theorem broken_session_not_called (line : Line τ ω) (w : ω) (ops : List Operation) :
    let start : Client (Nat × τ) × ω × Journal := (.fresh, w, [])
    let journal := (line.journaled.after ops start).2.2
    let uses := line.uses ops (.fresh, w)
    (line.journaled.uses ops start).map Use.plain = uses ∧
    journal.sessions = List.range journal.sessions.length ∧
    (∀ (before : Journal) n op reply after, journal = before ++ .called n op reply :: after →
      before.newest? = some n ∧ before.Unbroken n) ∧
    (∀ u ∈ uses, u.after.1.session.isSome = u.result.isOk) ∧
    (line.after ops (.fresh, w)).1.reconnects = UInt64.ofNat (uses.countP (Use.falters line)) ∧
    journal.connections = uses.countP (Use.falters line) + uses.countP Use.unheld ∧
    ∀ before u after, uses = before ++ u :: after →
      (u.unheld ↔ ∀ previous ∈ before.getLast?, ¬ previous.result.isOk) := by
  have hplain : (line.journaled.uses ops (.fresh, w, [])).map Use.plain =
      line.uses ops (.fresh, w) := Line.uses_plain ops _
  obtain ⟨sound, hconnections⟩ :=
    @Line.after_journaled τ ω line ops (.fresh, w, []) .empty nofun
  refine ⟨hplain, sound.sessions_eq_range, fun _ _ _ _ _ => sound.usable_of_called, ?_, ?_, ?_, ?_⟩
  · exact fun _ => Line.session_of_mem_uses
  · exact (Line.after_reconnects ops _).trans (UInt64.zero_add _)
  · rw [hconnections, ← hplain, List.countP_map, List.countP_map]
    rw [show Use.falters line ∘ Use.plain = Use.falters line.journaled from
      funext Line.falters_plain, show Use.unheld ∘ Use.plain = Use.unheld from
      funext Line.unheld_plain]
    simp [Journal.connections]
  · intro before u after h
    obtain ⟨-, hbefore⟩ := Line.uses_before h
    unfold Use.unheld
    rw [hbefore]
    cases hlast : before.getLast? with
    | none => simp [Client.fresh]
    | some previous =>
      -- what the one before left behind is what this one begins with
      have hmem : previous ∈ line.uses ops (.fresh, w) := by
        rw [h]
        exact List.mem_append_left _ (List.mem_of_getLast? hlast)
      simp [← Line.session_of_mem_uses hmem]

/-- A device that fails at the first call is called again in another session, which is kept. -/
theorem broken_session_not_called_failingOnce :
    let read : Operation := .readInput 7 1
    let line := Simulated.line "pump"
    let start : Client (Nat × Unit) × Simulated × Journal :=
      (.fresh, { misbehaviour := { fail := 1 } }, [])
    let earlier : Journal := [.opened 0,
      .called 0 read (.error ⟨"pump", .failure "scripted failure #1"⟩), .opened 1,
      .called 1 read (.ok [0])]
    (line.journaled.after [read, read] start).2.2 = earlier ++ [.called 1 read (.ok [0])] ∧
    earlier.newest? = some 1 ∧ earlier.Unbroken 1 := by
  intro read line start earlier
  have hjournal : (line.journaled.after [read, read] start).2.2 =
      earlier ++ [.called 1 read (.ok [0])] := by cbv
  obtain ⟨-, -, hcalled, -⟩ := broken_session_not_called line start.2.1 [read, read]
  exact ⟨hjournal, hcalled earlier 1 read (.ok [0]) [] hjournal⟩

end HomeEnergy.Bus

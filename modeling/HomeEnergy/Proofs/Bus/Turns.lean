import HomeEnergy.Proofs.Bus.Retry

/-!
Operations one after another, up to the first that fails. Each operation is a turn, with the
attempts at it, and `Line.InTurn` says what comes of all of them: the words of every turn, or the
fault of the last one, after which there is no other.

An exchange `TakesTurns` if this is all that it does with the device, and if what it returns goes by
the words alone. So none of its faults is its own: each of them is to be found in the journal
(`Line.InTurn.exists_fault`).
-/

namespace HomeEnergy.Bus

variable {τ ω α β : Type}

/-- What an exchange over a line with a journal begins with and ends with. -/
abbrev Logged (τ ω : Type) := Client (Nat × τ) × ω × Journal

/-- The fault that an entry gives a client to report. -/
def Entry.fault? (host : String) : Entry → Option Fault
  | .refused fault => some fault
  | .opened _ => none
  | .called _ _ (.error fault) => some fault
  | .called _ op (.ok words) =>
    if words.length = op.replyLength then none else some ⟨host, .wrongLength op words.length⟩

/-- The number of calls in an attempt: none if there is no session to be had. -/
def Attempt.calls : Attempt → Nat
  | .refused _ => 0
  | .opened _ _ => 1
  | .held _ _ => 1

/-! ## Single turns -/

/-- An operation that was carried out, and the attempts at it. -/
structure Turn where
  operation : Operation
  attempts : List Attempt

namespace Turn

/-- What the turn leaves in a journal. -/
def entries (t : Turn) : Journal := t.attempts.flatMap (Attempt.entries t.operation)

/-- The number of times that a session was called. -/
def calls (t : Turn) : Nat := (t.attempts.map Attempt.calls).sum

/-- Every call is for the operation. -/
theorem asked_entries (t : Turn) : t.entries.asked = List.replicate t.calls t.operation := by
  obtain ⟨op, attempts⟩ := t
  unfold entries calls Journal.asked
  induction attempts with
  | nil => rfl
  | cons a rest ih =>
    have ha : (a.entries op).filterMap Entry.operation? = List.replicate a.calls op := by
      cases a <;> rfl
    rw [List.flatMap_cons, List.filterMap_append, ih, ha, List.replicate_append_replicate,
      List.map_cons, List.sum_cons]

end Turn

namespace Line

variable {line : Line τ ω}

/-- The turn takes the client and the line from one state to another, and comes to a result. -/
structure Carries (line : Line τ ω) (t : Turn) (s : Logged τ ω)
    (result : Except Fault (List Word)) (s' : Logged τ ω) : Prop where
  executed : line.journaled.execute t.operation s = (result, s')
  runs : line.Runs t.operation s.1.session s.2.1 t.attempts result s'.2.1
  journal : s'.2.2 = s.2.2 ++ t.entries

theorem exists_carries (line : Line τ ω) (op : Operation) (s : Logged τ ω) :
    ∃ attempts, line.Carries ⟨op, attempts⟩ s (line.journaled.execute op s).1
      (line.journaled.execute op s).2 := by
  obtain ⟨attempts, hruns, hjournal⟩ := line.run_runs op s.1 s.2.1 s.2.2
  exact ⟨attempts, rfl, hruns, hjournal⟩

theorem Carries.asked {t : Turn} {s s' : Logged τ ω} {result : Except Fault (List Word)}
    (h : line.Carries t s result s') :
    s'.2.2.asked = s.2.2.asked ++ List.replicate t.calls t.operation := by
  rw [h.journal, ← t.asked_entries]
  exact List.filterMap_append

/-- A client that was served holds a session. -/
theorem Carries.isSome_session {t : Turn} {s s' : Logged τ ω} {words : List Word}
    (h : line.Carries t s (.ok words) s') : s'.1.session.isSome := by
  have hsession := @once_session _ _ line.journaled t.operation s
  have honce : line.journaled.run t.operation s.1 s.2 = (.ok words, s') := h.executed
  unfold once at hsession
  rw [honce] at hsession
  exact hsession

theorem Runs.length_eq {op : Operation} {held : Option (Nat × τ)} {w w' : ω}
    {attempts : List Attempt} {words : List Word}
    (h : line.Runs op held w attempts (.ok words) w') : words.length = op.replyLength := by
  cases h with
  | once hfirst hresult => exact hfirst.length_eq hresult
  | again hfirst hfault hsecond hresult => exact hsecond.length_eq hresult

end Line

namespace Attempt

theorem calls_le (a : Attempt) : a.calls ≤ 1 := by
  cases a with
  | refused fault => exact Nat.zero_le 1
  | opened n reply => exact Nat.le_refl 1
  | held n reply => exact Nat.le_refl 1

theorem refused_of_calls {a : Attempt} (h : a.calls = 0) : ∃ fault, a = .refused fault := by
  cases a with
  | refused fault => exact ⟨fault, rfl⟩
  | opened n reply => cases h
  | held n reply => cases h

theorem calls_of_ok {host : String} {op : Operation} {a : Attempt} {words : List Word}
    (h : a.result host op = .ok words) : a.calls = 1 := by
  cases a with
  | refused fault => cases h
  | opened n reply => rfl
  | held n reply => rfl

theorem exists_fault {host : String} {op : Operation} {a : Attempt} {fault : Fault}
    (h : a.result host op = .error fault) : ∃ e ∈ a.entries op, e.fault? host = some fault := by
  -- a call leaves its reply in the last entry
  have hcalled (n : Nat) (reply : Except Fault (List Word))
      (hreply : judged host op reply = .error fault) :
      (Entry.called n op reply).fault? host = some fault := by
    cases reply with
    | error other =>
      cases hreply
      rfl
    | ok words =>
      rw [judged] at hreply
      rw [Entry.fault?]
      split at hreply
      · cases hreply
      · next hlength =>
        cases hreply
        exact if_neg hlength
  cases a with
  | refused other =>
    cases h
    exact ⟨_, List.mem_singleton_self _, rfl⟩
  | opened n reply =>
    exact ⟨_, List.mem_cons_of_mem _ (List.mem_singleton_self _), hcalled n reply h⟩
  | held n reply => exact ⟨_, List.mem_singleton_self _, hcalled n reply h⟩

end Attempt

namespace Line

variable {line : Line τ ω}

/-- The fault of an operation is that of an attempt. -/
theorem Runs.exists_fault {op : Operation} {held : Option (Nat × τ)} {w w' : ω}
    {attempts : List Attempt} {fault : Fault}
    (h : line.Runs op held w attempts (.error fault) w') :
    ∃ e ∈ (Turn.mk op attempts).entries, e.fault? line.host = some fault := by
  cases h with
  | inVain hfirst hfault hsecond hother =>
    obtain ⟨e, he, hshown⟩ := Attempt.exists_fault hfault
    exact ⟨e, List.mem_flatMap.2 ⟨_, List.mem_cons_self, he⟩, hshown⟩

/-- There are two calls at most. There is none only where no session is held and two attempts to
open one are refused. -/
theorem Runs.calls_cases {op : Operation} {held : Option (Nat × τ)} {w w' : ω}
    {attempts : List Attempt} {result : Except Fault (List Word)}
    (h : line.Runs op held w attempts result w') :
    0 < (Turn.mk op attempts).calls ∧ (Turn.mk op attempts).calls ≤ 2 ∨
      (Turn.mk op attempts).calls = 0 ∧ held = none ∧ (∃ fault, result = .error fault) ∧
        ∃ fault other, attempts = [.refused fault, .refused other] := by
  unfold Turn.calls
  cases h with
  | once hfirst hresult =>
    left
    simp only [List.map_cons, List.map_nil, List.sum_cons, List.sum_nil,
      Attempt.calls_of_ok hresult]
    decide
  | @again first _ _ _ _ _ hfirst hfault hsecond hresult =>
    left
    have hle := first.calls_le
    simp only [List.map_cons, List.map_nil, List.sum_cons, List.sum_nil,
      Attempt.calls_of_ok hresult]
    omega
  | @inVain first second fault _ _ _ hfirst hfault hsecond hother =>
    have hle := first.calls_le
    have hle' := second.calls_le
    simp only [List.map_cons, List.map_nil, List.sum_cons, List.sum_nil]
    rcases Nat.eq_zero_or_pos (first.calls + second.calls) with hzero | hpos
    · obtain ⟨refused, rfl⟩ := Attempt.refused_of_calls (Nat.eq_zero_of_add_eq_zero_right hzero)
      obtain ⟨other, rfl⟩ := Attempt.refused_of_calls (Nat.eq_zero_of_add_eq_zero_left hzero)
      cases hfirst
      exact .inr ⟨rfl, rfl, ⟨fault, rfl⟩, refused, other, rfl⟩
    · exact .inl ⟨by omega, by omega⟩

theorem Runs.calls_le {op : Operation} {held : Option (Nat × τ)} {w w' : ω}
    {attempts : List Attempt} {result : Except Fault (List Word)}
    (h : line.Runs op held w attempts result w') : (Turn.mk op attempts).calls ≤ 2 := by
  rcases h.calls_cases with ⟨-, hle⟩ | ⟨hzero, -⟩
  · exact hle
  · exact hzero.le.trans (Nat.zero_le 2)

/-! ## Turns one after another -/

/-- Operations are carried out in their order until one fails. The turns there were take the client
and the line from one state to another, and come to the words of each or to a fault. -/
inductive InTurn (line : Line τ ω) : List Operation → Logged τ ω → List Turn →
    Except Fault (List (List Word)) → Logged τ ω → Prop
  | finished {s : Logged τ ω} : InTurn line [] s [] (.ok []) s
  | failed {op : Operation} {ops : List Operation} {attempts : List Attempt} {s s' : Logged τ ω}
      {fault : Fault} (hturn : line.Carries ⟨op, attempts⟩ s (.error fault) s') :
      InTurn line (op :: ops) s [⟨op, attempts⟩] (.error fault) s'
  | next {op : Operation} {ops : List Operation} {attempts : List Attempt} {s s₁ s' : Logged τ ω}
      {words : List Word} {turns : List Turn} {outcome : Except Fault (List (List Word))}
      (hturn : line.Carries ⟨op, attempts⟩ s (.ok words) s₁)
      (hrest : InTurn line ops s₁ turns outcome s') :
      InTurn line (op :: ops) s (⟨op, attempts⟩ :: turns) (outcome.map (words :: ·)) s'

namespace InTurn

variable {ops : List Operation} {s s' : Logged τ ω} {turns : List Turn}
  {outcome : Except Fault (List (List Word))}

theorem operations_prefix (h : line.InTurn ops s turns outcome s') :
    turns.map Turn.operation <+: ops := by
  induction h with
  | finished => exact List.nil_prefix
  | failed hturn => exact List.cons_prefix_cons.2 ⟨rfl, List.nil_prefix⟩
  | next hturn hrest ih => exact List.cons_prefix_cons.2 ⟨rfl, ih⟩

theorem journal_eq (h : line.InTurn ops s turns outcome s') :
    s'.2.2 = s.2.2 ++ turns.flatMap Turn.entries := by
  induction h with
  | finished => exact (List.append_nil _).symm
  | failed hturn => rw [hturn.journal, List.flatMap_singleton]
  | next hturn hrest ih => rw [ih, hturn.journal, List.flatMap_cons, List.append_assoc]

/-- Where all goes well every operation has its turn and a reply of the right length. -/
theorem of_ok {replies : List (List Word)} (h : line.InTurn ops s turns (.ok replies) s') :
    turns.map Turn.operation = ops ∧
      List.Forall₂ (fun op words => words.length = op.replyLength) ops replies := by
  generalize houtcome : Except.ok replies = outcome at h
  induction h generalizing replies with
  | finished =>
    cases houtcome
    exact ⟨rfl, .nil⟩
  | failed hturn => cases houtcome
  | @next _ _ _ _ _ _ _ _ outcome hturn hrest ih =>
    cases outcome with
    | error fault => cases houtcome
    | ok replies =>
      cases houtcome
      obtain ⟨hoperations, hlengths⟩ := ih rfl
      exact ⟨congrArg _ hoperations, .cons hturn.runs.length_eq hlengths⟩

/-- A fault is one that the device or the way to it has given, or a reply of the wrong length. -/
theorem exists_fault {fault : Fault} (h : line.InTurn ops s turns (.error fault) s') :
    ∃ e ∈ turns.flatMap Turn.entries, e.fault? line.host = some fault := by
  generalize houtcome : Except.error fault = outcome at h
  induction h with
  | finished => cases houtcome
  | failed hturn =>
    cases houtcome
    rw [List.flatMap_singleton]
    exact hturn.runs.exists_fault
  | @next _ _ _ _ _ _ _ _ outcome hturn hrest ih =>
    cases outcome with
    | ok replies => cases houtcome
    | error other =>
      cases houtcome
      obtain ⟨e, he, hshown⟩ := ih rfl
      exact ⟨e, List.mem_flatMap.2
        ((List.mem_flatMap.1 he).imp fun _ => And.imp_left (List.mem_cons_of_mem _)), hshown⟩

/-- Operations that all go well, and others after them. -/
theorem append {replies : List (List Word)} {s₁ : Logged τ ω} {ops' : List Operation}
    {turns' : List Turn} (h : line.InTurn ops s turns (.ok replies) s₁)
    (h' : line.InTurn ops' s₁ turns' outcome s') :
    line.InTurn (ops ++ ops') s (turns ++ turns') (outcome.map (replies ++ ·)) s' := by
  generalize houtcome : Except.ok replies = first at h
  induction h generalizing replies with
  | finished =>
    cases houtcome
    cases outcome <;> exact h'
  | failed hturn => cases houtcome
  | @next _ _ _ _ _ _ words _ first hturn hrest ih =>
    cases first with
    | error fault => cases houtcome
    | ok replies =>
      cases houtcome
      have hnext := InTurn.next hturn (ih h' rfl)
      cases outcome <;> exact hnext

/-- After a failure nothing else is done, whatever was to come. -/
theorem append_of_error {fault : Fault} (h : line.InTurn ops s turns (.error fault) s')
    (ops' : List Operation) : line.InTurn (ops ++ ops') s turns (.error fault) s' := by
  generalize houtcome : Except.error fault = outcome at h
  induction h with
  | finished => cases houtcome
  | failed hturn =>
    cases houtcome
    exact .failed hturn
  | @next _ _ _ _ _ _ _ _ outcome hturn hrest ih =>
    cases outcome with
    | ok replies => cases houtcome
    | error other =>
      cases houtcome
      exact .next hturn (ih rfl)

/-- Of two operations the first fails, or the second has its turn as well and decides. -/
theorem pair_cases {first second : Operation}
    (h : line.InTurn [first, second] s turns outcome s') :
    (∃ attempts fault, line.Carries ⟨first, attempts⟩ s (.error fault) s' ∧
      outcome = .error fault) ∨
    ∃ attempts words s₁ attempts' result, line.Carries ⟨first, attempts⟩ s (.ok words) s₁ ∧
      line.Carries ⟨second, attempts'⟩ s₁ result s' ∧
      outcome = result.map fun words' => [words, words'] := by
  cases h with
  | failed hturn => exact .inl ⟨_, _, hturn, rfl⟩
  | next hturn hrest =>
    cases hrest with
    | failed hturn' => exact .inr ⟨_, _, _, _, _, hturn, hturn', rfl⟩
    | next hturn' hnone =>
      cases hnone
      exact .inr ⟨_, _, _, _, _, hturn, hturn', rfl⟩

end InTurn

end Line

/-! ## Exchanges in turns -/

namespace Exchange

/-- What an exchange returns goes by the words of its operations, or is their fault. -/
inductive Concludes (Answers : List (List Word) → α → Prop) :
    Except Fault (List (List Word)) → Except Fault α → Prop
  | answered {replies : List (List Word)} {a : α} (h : Answers replies a) :
      Concludes Answers (.ok replies) (.ok a)
  | failed {fault : Fault} : Concludes Answers (.error fault) (.error fault)

/-- The exchange carries out the operations in turn, and what it returns goes by their words. -/
def TakesTurns (line : Line τ ω) (ops : List Operation) (Answers : List (List Word) → α → Prop)
    (act : Exchange (Nat × τ) (ω × Journal) α) : Prop :=
  ∀ s, ∃ turns outcome, line.InTurn ops s turns outcome (act s).2 ∧
    Concludes Answers outcome (act s).1

variable {line : Line τ ω} {Answers : List (List Word) → α → Prop}

theorem TakesTurns.pure {a : α} (h : Answers [] a) : TakesTurns line [] Answers (Pure.pure a) :=
  fun _ => ⟨[], .ok [], .finished, .answered h⟩

theorem TakesTurns.execute (line : Line τ ω) (op : Operation) :
    TakesTurns line [op] (fun replies words => replies = [words] ∧ words.length = op.replyLength)
      (line.journaled.execute op) := by
  intro s
  obtain ⟨attempts, hturn⟩ := line.exists_carries op s
  rcases hexecuted : line.journaled.execute op s with ⟨fault | words, s'⟩
  · rw [hexecuted] at hturn
    exact ⟨_, _, .failed hturn, .failed⟩
  · rw [hexecuted] at hturn
    exact ⟨_, _, .next hturn .finished, .answered ⟨rfl, hturn.runs.length_eq⟩⟩

theorem TakesTurns.bind {first : Exchange (Nat × τ) (ω × Journal) α}
    {next : α → Exchange (Nat × τ) (ω × Journal) β} {ops ops' : List Operation}
    {Answers' : List (List Word) → β → Prop} (h : TakesTurns line ops Answers first)
    (hnext : ∀ replies a, Answers replies a →
      TakesTurns line ops' (fun more b => Answers' (replies ++ more) b) (next a)) :
    TakesTurns line (ops ++ ops') Answers' (first >>= next) := by
  intro s
  obtain ⟨turns, outcome, hturns, hconcludes⟩ := h s
  rw [bind_apply]
  rcases hfirst : first s with ⟨fault | a, s₁⟩
  · rw [hfirst] at hturns hconcludes
    cases hconcludes
    exact ⟨turns, _, hturns.append_of_error ops', .failed⟩
  · rw [hfirst] at hturns hconcludes
    cases hconcludes with
    | answered hanswer =>
      obtain ⟨turns', outcome', hturns', hconcludes'⟩ := hnext _ a hanswer s₁
      refine ⟨turns ++ turns', _, hturns.append hturns', ?_⟩
      dsimp only
      generalize (next a s₁).1 = result at hconcludes' ⊢
      cases hconcludes' with
      | answered hanswer' => exact .answered hanswer'
      | failed => exact .failed

theorem TakesTurns.write (line : Line τ ω) (op : Operation) :
    TakesTurns line [op] (fun _ _ => True) (line.journaled.write op) :=
  (TakesTurns.execute line op).bind fun _ _ _ => TakesTurns.pure trivial

/-- What can be decoded is decoded without the device. -/
theorem TakesTurns.decoded (what : String) {a : Option α} {b : α} (h : a = some b)
    (hanswer : Answers [] b) : TakesTurns line [] Answers (line.journaled.decoded what a) := by
  rw [h]
  exact TakesTurns.pure hanswer

end Exchange

end HomeEnergy.Bus

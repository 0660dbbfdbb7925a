import HomeEnergy.Proofs.Bus.Footprint

/-!
How often an operation is tried, and what is reported of it. An attempt uses the session at hand, or
asks for one if there is none, and calls it once (`Line.Makes`). An operation is one attempt if it
goes well, and otherwise a second one with a session of its own and never a third
(`operation_retried_once`). If the second one fails too, the fault of the first one is reported.

What is said of an attempt is said of the line alone: `Makes` knows nothing of slots that are
emptied and filled.
-/

namespace HomeEnergy.Bus

variable {τ ω : Type}

/-! ## Single attempts -/

/-- What comes of one attempt: there is no session to be had, or a session is called, which is a new
one or the one at hand. Sessions go by their numbers. -/
inductive Attempt where
  | refused (fault : Fault)
  | opened (n : Nat) (reply : Except Fault (List Word))
  | held (n : Nat) (reply : Except Fault (List Word))

namespace Attempt

/-- What the attempt leaves in a journal. -/
def entries (op : Operation) : Attempt → Journal
  | .refused fault => [.refused fault]
  | .opened n reply => [.opened n, .called n op reply]
  | .held n reply => [.called n op reply]

/-- A reply of the wrong length is a fault. -/
def judged (host : String) (op : Operation) : Except Fault (List Word) → Except Fault (List Word)
  | .error fault => .error fault
  | .ok words =>
    if words.length = op.replyLength then .ok words
    else .error ⟨host, .wrongLength op words.length⟩

/-- What the attempt reports. -/
def result (host : String) (op : Operation) : Attempt → Except Fault (List Word)
  | .refused fault => .error fault
  | .opened _ reply => judged host op reply
  | .held _ reply => judged host op reply

theorem judged_eq_ok_iff {host : String} {op : Operation} {reply : Except Fault (List Word)}
    {words : List Word} :
    judged host op reply = .ok words ↔ reply = .ok words ∧ words.length = op.replyLength := by
  cases reply with
  | error fault => exact iff_of_false nofun nofun
  | ok got =>
    by_cases hlength : got.length = op.replyLength
    · rw [judged, if_pos hlength]
      refine ⟨?_, And.left⟩
      rintro ⟨⟩
      exact ⟨rfl, hlength⟩
    · rw [judged, if_neg hlength]
      refine iff_of_false nofun ?_
      rintro ⟨⟨⟩, hwords⟩
      exact hlength hwords

end Attempt

namespace Line

variable (line : Line τ ω) (op : Operation)

/-- An attempt with a given session, or with none, that takes one world to another. Only without a
session is the line asked for one. -/
inductive Makes : Option (Nat × τ) → ω → Attempt → ω → Prop
  | refused {w w' : ω} {fault : Fault} (hconnect : line.connect w = (.error fault, w')) :
      Makes none w (.refused fault) w'
  | opened {n : Nat} {s : τ} {w w₁ w' : ω} {reply : Except Fault (List Word)}
      (hconnect : line.connect w = (.ok s, w₁)) (hcall : line.call s op w₁ = (reply, w')) :
      Makes none w (.opened n reply) w'
  | held {n : Nat} {s : τ} {w w' : ω} {reply : Except Fault (List Word)}
      (hcall : line.call s op w = (reply, w')) : Makes (some (n, s)) w (.held n reply) w'

/-- Whoever opens a session and calls it gets a reply of the right length. -/
def Answers (w : ω) (words : List Word) : Prop :=
  ∃ s w₁ w₂, line.connect w = (.ok s, w₁) ∧ line.call s op w₁ = (.ok words, w₂) ∧
    words.length = op.replyLength

variable {line op}

/-- An attempt asks for a session exactly if there is none. -/
theorem Makes.connections {held : Option (Nat × τ)} {w w' : ω} {a : Attempt}
    (h : line.Makes op held w a w') :
    Journal.connections (a.entries op) = if held.isNone then 1 else 0 := by
  cases h <;> rfl

/-- Whatever an attempt calls a session for, it is the operation. -/
theorem Makes.eq_of_asked {held : Option (Nat × τ)} {w w' : ω} {a : Attempt}
    (h : line.Makes op held w a w') {asked : Operation}
    (hasked : asked ∈ Journal.asked (a.entries op)) : asked = op := by
  cases h with
  | refused hconnect => cases hasked
  | opened hconnect hcall => exact List.mem_singleton.1 hasked
  | held hcall => exact List.mem_singleton.1 hasked

theorem Makes.length_eq {held : Option (Nat × τ)} {w w' : ω} {a : Attempt}
    (h : line.Makes op held w a w') {words : List Word}
    (hresult : a.result line.host op = .ok words) : words.length = op.replyLength := by
  cases h with
  | refused hconnect => cases hresult
  | opened hconnect hcall => exact (Attempt.judged_eq_ok_iff.1 hresult).2
  | held hcall => exact (Attempt.judged_eq_ok_iff.1 hresult).2

/-- There is only one way in which an attempt can go. -/
theorem Makes.unique {held : Option (Nat × τ)} {w w₁ w₂ : ω} {a₁ a₂ : Attempt}
    (h₁ : line.Makes op held w a₁ w₁) (h₂ : line.Makes op held w a₂ w₂) :
    a₁.result line.host op = a₂.result line.host op ∧ w₁ = w₂ := by
  cases h₁ with
  | refused hconnect₁ =>
    cases h₂ with
    | refused hconnect₂ =>
      cases hconnect₁.symm.trans hconnect₂
      exact ⟨rfl, rfl⟩
    | opened hconnect₂ hcall₂ => cases hconnect₁.symm.trans hconnect₂
  | opened hconnect₁ hcall₁ =>
    cases h₂ with
    | refused hconnect₂ => cases hconnect₁.symm.trans hconnect₂
    | opened hconnect₂ hcall₂ =>
      cases hconnect₁.symm.trans hconnect₂
      cases hcall₁.symm.trans hcall₂
      exact ⟨rfl, rfl⟩
  | held hcall₁ =>
    cases h₂ with
    | held hcall₂ =>
      cases hcall₁.symm.trans hcall₂
      exact ⟨rfl, rfl⟩

/-- An attempt without a session goes well exactly if the device answers in a new one. -/
theorem Makes.result_eq_ok_iff {w w' : ω} {a : Attempt} (h : line.Makes op none w a w')
    (words : List Word) : a.result line.host op = .ok words ↔ line.Answers op w words := by
  cases h with
  | refused hconnect =>
    refine iff_of_false nofun ?_
    rintro ⟨s, w₁, w₂, hopened, -⟩
    cases hconnect.symm.trans hopened
  | opened hconnect hcall =>
    refine Attempt.judged_eq_ok_iff.trans ⟨?_, ?_⟩
    · rintro ⟨rfl, hlength⟩
      exact ⟨_, _, _, hconnect, hcall, hlength⟩
    · rintro ⟨s, w₁, w₂, hopened, hcalled, hlength⟩
      cases hconnect.symm.trans hopened
      cases hcall.symm.trans hcalled
      exact ⟨rfl, hlength⟩

variable (line op)

theorem attempt_some (held : τ) (w : ω) :
    line.attempt op (some held) w =
      (Attempt.judged line.host op (line.call held op w).1, some held,
        (line.call held op w).2) := by
  unfold attempt Attempt.judged
  rcases hcall : line.call held op w with ⟨fault | words, w'⟩
  · simp only [session, hcall]
  · simp only [session, hcall]
    split
    · rfl
    · rfl

/-- An attempt with a session that has just been opened is one with a session at hand. -/
theorem attempt_none (w : ω) :
    line.attempt op none w =
      match line.connect w with
      | (.error fault, w) => (.error fault, none, w)
      | (.ok s, w) => line.attempt op (some s) w := by
  rcases hconnect : line.connect w with ⟨fault | s, w'⟩
  · simp only [attempt, session, hconnect]
  · simp only [attempt, session, hconnect]

/-- What is attempted is what the line makes of it, and is to be found in the journal. -/
theorem attempt_makes (held : Option (Nat × τ)) (w : ω) (j : Journal) :
    ∃ a slot w', line.Makes op held w a w' ∧ line.journaled.attempt op held (w, j) =
      (a.result line.host op, slot, w', j ++ a.entries op) := by
  cases held with
  | some held =>
    obtain ⟨n, s⟩ := held
    rcases hcall : line.call s op w with ⟨reply, w'⟩
    refine ⟨.held n reply, some (n, s), w', .held hcall, ?_⟩
    rw [attempt_some, call_journaled hcall]
    rfl
  | none =>
    rcases hconnect : line.connect w with ⟨fault | s, w₁⟩
    · refine ⟨.refused fault, none, w₁, .refused hconnect, ?_⟩
      rw [attempt_none]
      simp only [journaled, hconnect]
      rfl
    · rcases hcall : line.call s op w₁ with ⟨reply, w₂⟩
      refine ⟨.opened j.sessions.length reply, some (j.sessions.length, s), w₂,
        .opened hconnect hcall, ?_⟩
      have hopened : line.journaled.connect (w, j) =
          (.ok (j.sessions.length, s), w₁, j ++ [.opened j.sessions.length]) := by
        simp only [journaled, hconnect]
      rw [attempt_none, hopened]
      dsimp only
      rw [attempt_some, call_journaled hcall, List.append_assoc]
      rfl

/-! ## Whole operations -/

/-- An operation that is tried once, or twice if it does not go well at once. -/
inductive Runs (line : Line τ ω) (op : Operation) (held : Option (Nat × τ)) (w : ω) :
    List Attempt → Except Fault (List Word) → ω → Prop
  | once {first : Attempt} {words : List Word} {w' : ω} (hfirst : line.Makes op held w first w')
      (hresult : first.result line.host op = .ok words) : Runs line op held w [first] (.ok words) w'
  | again {first second : Attempt} {fault : Fault} {words : List Word} {w₁ w' : ω}
      (hfirst : line.Makes op held w first w₁) (hfault : first.result line.host op = .error fault)
      (hsecond : line.Makes op none w₁ second w')
      (hresult : second.result line.host op = .ok words) :
      Runs line op held w [first, second] (.ok words) w'
  | inVain {first second : Attempt} {fault other : Fault} {w₁ w' : ω}
      (hfirst : line.Makes op held w first w₁) (hfault : first.result line.host op = .error fault)
      (hsecond : line.Makes op none w₁ second w')
      (hother : second.result line.host op = .error other) :
      Runs line op held w [first, second] (.error fault) w'

/-- What is carried out is what the attempts come to. -/
theorem run_runs (client : Client (Nat × τ)) (w : ω) (j : Journal) :
    ∃ attempts, line.Runs op client.session w attempts
        (line.journaled.run op client (w, j)).1 (line.journaled.run op client (w, j)).2.2.1 ∧
      (line.journaled.run op client (w, j)).2.2.2 = j ++ attempts.flatMap (Attempt.entries op) := by
  obtain ⟨first, slot₁, w₁, hfirst, hattempt₁⟩ := line.attempt_makes op client.session w j
  obtain ⟨second, slot₂, w₂, hsecond, hattempt₂⟩ :=
    line.attempt_makes op none w₁ (j ++ first.entries op)
  unfold run
  rw [hattempt₁]
  cases hresult₁ : first.result line.host op with
  | ok words =>
    refine ⟨[first], .once hfirst hresult₁, ?_⟩
    rw [List.flatMap_singleton]
  | error fault =>
    dsimp only
    rw [hattempt₂]
    have hjournal : j ++ first.entries op ++ second.entries op =
        j ++ [first, second].flatMap (Attempt.entries op) := by
      simp only [List.flatMap_cons, List.flatMap_nil, List.append_nil, List.append_assoc]
    cases hresult₂ : second.result line.host op with
    | ok words => exact ⟨[first, second], .again hfirst hresult₁ hsecond hresult₂, hjournal⟩
    | error other => exact ⟨[first, second], .inVain hfirst hresult₁ hsecond hresult₂, hjournal⟩

variable {line op}

/-- Where the first attempt has failed it is for the device to answer in a new session. -/
theorem Runs.result_eq_ok_iff {held : Option (Nat × τ)} {w w₁ w' : ω} {attempts : List Attempt}
    {result : Except Fault (List Word)} (h : line.Runs op held w attempts result w')
    {first : Attempt} (hfirst : line.Makes op held w first w₁) (words : List Word) :
    result = .ok words ↔ first.result line.host op = .ok words ∨
      (∃ fault, first.result line.host op = .error fault) ∧ line.Answers op w₁ words := by
  cases h with
  | once hmade hresult =>
    rw [(hmade.unique hfirst).1] at hresult
    rw [hresult]
    refine ⟨.inl, ?_⟩
    rintro (h | ⟨⟨fault, h⟩, -⟩)
    · exact h
    · cases h
  | again hmade hfault hsecond hresult =>
    obtain ⟨hsame, rfl⟩ := hmade.unique hfirst
    rw [hsame] at hfault
    rw [← hresult, hfault, hsecond.result_eq_ok_iff]
    refine ⟨fun h => .inr ⟨⟨_, rfl⟩, h⟩, ?_⟩
    rintro (h | ⟨-, h⟩)
    · cases h
    · exact h
  | inVain hmade hfault hsecond hother =>
    obtain ⟨hsame, rfl⟩ := hmade.unique hfirst
    rw [hsame] at hfault
    rw [hfault]
    refine iff_of_false nofun ?_
    rintro (h | ⟨-, h⟩)
    · cases h
    · rw [← hsecond.result_eq_ok_iff, hother] at h
      cases h

end Line

/-! ## The main result -/

/-- Whatever is asked for, whatever session the client holds, and however the line behaves. There is
one attempt if it goes well, and otherwise a second one without the session and never a third; this
is all that is left in the journal, which makes no difference to anything else. If both fail it is
the first fault that is reported (`Line.Runs`). An attempt asks for a session exactly if there is
none, calls it for nothing but the operation, and goes well only with a reply of the right length.
So an operation goes well exactly if the first attempt does or the device answers in a new session
after that; and where it does, it is no matter what session was held. -/
theorem operation_retried_once (line : Line τ ω) (op : Operation) (client : Client (Nat × τ))
    (w : ω) (j : Journal) :
    let out := line.journaled.run op client (w, j)
    line.run op client.plain w = (out.1, out.2.1.plain, out.2.2.1) ∧
    (∃ attempts, line.Runs op client.session w attempts out.1 out.2.2.1 ∧
      out.2.2.2 = j ++ attempts.flatMap (Attempt.entries op)) ∧
    (∀ held w a w', line.Makes op held w a w' →
      Journal.connections (a.entries op) = (if held.isNone then 1 else 0) ∧
      (∀ asked ∈ Journal.asked (a.entries op), asked = op) ∧
      ∀ words, a.result line.host op = .ok words → words.length = op.replyLength) ∧
    ∀ first w₁, line.Makes op client.session w first w₁ →
      (∀ words, out.1 = .ok words ↔ first.result line.host op = .ok words ∨
        (∃ fault, first.result line.host op = .error fault) ∧ line.Answers op w₁ words) ∧
      ((∃ words, line.Answers op w₁ words) → out.1.isOk) := by
  intro out
  obtain ⟨attempts, hruns, hjournal⟩ := line.run_runs op client w j
  refine ⟨Line.run_plain op client w j, ⟨attempts, hruns, hjournal⟩, ?_, ?_⟩
  · intro held w a w' hmade
    exact ⟨hmade.connections, fun _ => hmade.eq_of_asked, fun _ => hmade.length_eq⟩
  · intro first w₁ hfirst
    have hiff (words : List Word) : out.1 = .ok words ↔ _ := hruns.result_eq_ok_iff hfirst words
    refine ⟨hiff, ?_⟩
    rintro ⟨words, hanswers⟩
    cases hresult : first.result line.host op with
    | ok got => rw [(hiff got).2 (.inl hresult)]; rfl
    | error fault => rw [(hiff words).2 (.inr ⟨⟨fault, hresult⟩, hanswers⟩)]; rfl

/-- The session that is held fails, and the device answers in the next one. -/
theorem operation_retried_once_deadSession :
    let line := Simulated.line "pump"
    let op : Operation := .readInput 7 1
    let client : Client (Nat × Unit) := ⟨some (4, ()), 0⟩
    let w : Simulated := { misbehaviour := { fail := 1 } }
    let fault : Fault := ⟨"pump", .failure "scripted failure #1"⟩
    ∃ w₁, line.Makes op client.session w (.held 4 (.error fault)) w₁ ∧ line.Answers op w₁ [0] ∧
      (line.journaled.run op client (w, [])).1 = .ok [0] := by
  intro line op client w fault
  have hmade : line.Makes op client.session w (.held 4 (.error fault)) (line.call () op w).2 :=
    .held (by cbv)
  have hanswers : line.Answers op (line.call () op w).2 [0] := ⟨(), _, _, rfl, rfl, rfl⟩
  obtain ⟨-, -, -, hfirst⟩ := operation_retried_once line op client w []
  exact ⟨_, hmade, hanswers, ((hfirst _ _ hmade).1 [0]).2 (.inr ⟨⟨fault, rfl⟩, hanswers⟩)⟩

end HomeEnergy.Bus

import HomeEnergy.Shutdown
import Mathlib

/-!
The signal to shut down as it is given and waited for by any number of parties at the same time. A
scene is the signal together with all who have called for shutdown and all who have come to wait,
and each act is a single step of one of them.

A waiter listens before it looks at the flag, and a caller raises the flag before it announces. So a
waiter that finds the flag down listens to an announcement that is still to come, and nobody who
waits is left behind (`waiters_told`). What carries it is `Scene.Sound`, which every act keeps
(`Scene.Sound.perform`).

An announcement is not the only thing that ends the waiting of a listener: it also ends when nobody
has the signal any more. A waiter that holds the signal itself rules this out; one that only listens
does not.
-/

namespace HomeEnergy.Shutdown

/-! ## Those who call -/

/-- How far a call for shutdown has come. -/
inductive Caller where
  | called
  | raised (before : Bool)
  | returned (first : Bool)
deriving DecidableEq

namespace Caller

/-- The next step of a call. Only the one that has raised the flag first announces it. -/
def advance : Caller × Shutdown → Caller × Shutdown
  | (.called, s) => (.raised s.raise.1, s.raise.2)
  | (.raised true, s) => (.returned false, s)
  | (.raised false, s) => (.returned true, s.announce)
  | (.returned first, s) => (.returned first, s)

/-- Two undisturbed steps give the signal. -/
theorem trigger_eq_steps (s : Shutdown) :
    (advance (advance (.called, s))).2 = s.trigger := by
  obtain ⟨isTriggered, announcements⟩ := s
  cases isTriggered <;> rfl

/-- Whether the call was the first to raise the flag. -/
def isFirst : Caller → Bool
  | .raised false | .returned true => true
  | _ => false

/-- Whether the call does not need the signal any more. -/
def isOver : Caller → Bool
  | .returned _ => true
  | _ => false

end Caller

/-! ## Those who wait -/

inductive Waiting where
  | arrived
  | listening (l : Listener)
  | blocked (l : Listener)
  | released
deriving DecidableEq

/-- A waiter, and whether it holds the signal for as long as it waits. -/
structure Waiter where
  holdsSignal : Bool
  waiting : Waiting
deriving DecidableEq

namespace Waiting

/-- The next step of waiting. Listening has no end without an announcement while someone has the
signal. -/
def advance (s : Shutdown) (isHeld : Bool) : Waiting → Waiting
  | .arrived => .listening s.listen
  | .listening l => if s.isTriggered then .released else .blocked l
  | .blocked l => if s.hears l || !isHeld then .released else .blocked l
  | .released => .released

/-- Two undisturbed steps of a listener show whether it has to wait any longer. -/
theorem releases_iff (s : Shutdown) (l : Listener) :
    advance s true (advance s true (.listening l)) = .released ↔ s.releases l = true := by
  obtain ⟨isTriggered, announcements⟩ := s
  cases isTriggered with
  | true => exact iff_of_true rfl rfl
  | false =>
    show (if (hears ⟨false, announcements⟩ l || !true) = true then released else .blocked l) =
      released ↔ hears ⟨false, announcements⟩ l = true
    cases hears ⟨false, announcements⟩ l with
    | true => exact iff_of_true rfl rfl
    | false => exact iff_of_false nofun nofun

/-- The number of steps to the end, if none of them is in vain. -/
def distance : Waiting → Nat
  | .arrived => 3
  | .listening _ => 2
  | .blocked _ => 1
  | .released => 0

theorem distance_le (w : Waiting) : w.distance ≤ 3 := by
  cases w with
  | arrived => exact Nat.le_refl 3
  | listening l => exact Nat.le_succ 2
  | blocked l => exact Nat.le_add_left 1 2
  | released => exact Nat.zero_le 3

theorem released_of_distance {w : Waiting} (h : w.distance = 0) : w = .released := by
  cases w with
  | released => rfl
  | arrived | listening l | blocked l => cases h

end Waiting

namespace Waiter

def advance (s : Shutdown) (isHeld : Bool) (w : Waiter) : Waiter :=
  { w with waiting := w.waiting.advance s isHeld }

/-- Whether the waiter has the signal: to begin to listen, or because it holds it. -/
def needsSignal (w : Waiter) : Bool :=
  w.waiting = .arrived || w.holdsSignal && w.waiting ≠ .released

end Waiter

/-! ## Scenes -/

/-- The signal, whether anyone has it, and all who have called or come to wait so far. -/
structure Scene where
  signal : Shutdown
  isHeld : Bool
  callers : List Caller
  waiters : List Waiter
deriving DecidableEq

inductive Act where
  | call
  | wait (holdsSignal : Bool)
  | advanceCaller (i : Nat)
  | advanceWaiter (i : Nat)
  | letGo
deriving DecidableEq

namespace Scene

def fresh : Scene := ⟨.fresh, true, [], []⟩

/-- Whether the signal is in the hands of someone who has called or come to wait. -/
def isNeeded (s : Scene) : Bool :=
  s.callers.any (!·.isOver) || s.waiters.any Waiter.needsSignal

/-- The scene after an act. Nobody comes any more after the signal was let go, which it cannot be
while it is needed. -/
def perform (s : Scene) : Act → Scene
  | .call => if s.isHeld then { s with callers := s.callers ++ [.called] } else s
  | .wait holdsSignal =>
    if s.isHeld then { s with waiters := s.waiters ++ [⟨holdsSignal, .arrived⟩] } else s
  | .advanceCaller i =>
    match s.callers[i]? with
    | some c =>
      { s with
        signal := (Caller.advance (c, s.signal)).2
        callers := s.callers.set i (Caller.advance (c, s.signal)).1 }
    | none => s
  | .advanceWaiter i =>
    match s.waiters[i]? with
    | some w => { s with waiters := s.waiters.set i (w.advance s.signal s.isHeld) }
    | none => s
  | .letGo => if s.isNeeded then s else { s with isHeld := false }

def play (s : Scene) (acts : List Act) : Scene := acts.foldl perform s

theorem play_concat (s : Scene) (acts : List Act) (a : Act) :
    s.play (acts ++ [a]) = (s.play acts).perform a := by
  unfold play
  rw [List.foldl_append, List.foldl_cons, List.foldl_nil]

end Scene

namespace Scene

/-- An act does nothing, adds someone, takes someone a step further, or lets the signal go. -/
theorem perform_cases (s : Scene) (a : Act) :
    (s.perform a = s ∧ ∀ i, a = .advanceWaiter i → s.waiters[i]? = none) ∨
    (a = .call ∧ s.perform a = { s with callers := s.callers ++ [.called] }) ∨
    (∃ holdsSignal, a = .wait holdsSignal ∧ s.isHeld = true ∧
      s.perform a = { s with waiters := s.waiters ++ [⟨holdsSignal, .arrived⟩] }) ∨
    (∃ i c, a = .advanceCaller i ∧ s.callers[i]? = some c ∧
      s.perform a = { s with
        signal := (Caller.advance (c, s.signal)).2
        callers := s.callers.set i (Caller.advance (c, s.signal)).1 }) ∨
    (∃ i w, a = .advanceWaiter i ∧ s.waiters[i]? = some w ∧
      s.perform a = { s with waiters := s.waiters.set i (w.advance s.signal s.isHeld) }) ∨
    (a = .letGo ∧ (∀ w ∈ s.waiters, w.needsSignal = false) ∧
      s.perform a = { s with isHeld := false }) := by
  cases a with
  | call =>
    by_cases hheld : s.isHeld = true
    · exact Or.inr (Or.inl ⟨rfl, if_pos hheld⟩)
    · exact Or.inl ⟨if_neg hheld, nofun⟩
  | wait holdsSignal =>
    by_cases hheld : s.isHeld = true
    · exact Or.inr (Or.inr (Or.inl ⟨holdsSignal, rfl, hheld, if_pos hheld⟩))
    · exact Or.inl ⟨if_neg hheld, nofun⟩
  | advanceCaller i =>
    cases hi : s.callers[i]? with
    | some c =>
      refine Or.inr (Or.inr (Or.inr (Or.inl ⟨i, c, rfl, hi, ?_⟩)))
      simp only [perform, hi]
    | none =>
      refine Or.inl ⟨?_, nofun⟩
      simp only [perform, hi]
  | advanceWaiter i =>
    cases hi : s.waiters[i]? with
    | some w =>
      refine Or.inr (Or.inr (Or.inr (Or.inr (Or.inl ⟨i, w, rfl, hi, ?_⟩))))
      simp only [perform, hi]
    | none =>
      refine Or.inl ⟨?_, ?_⟩
      · simp only [perform, hi]
      · rintro _ ⟨⟩
        exact hi
  | letGo =>
    cases hneeded : s.isNeeded with
    | true => exact Or.inl ⟨if_pos hneeded, nofun⟩
    | false =>
      refine Or.inr (Or.inr (Or.inr (Or.inr (Or.inr ⟨rfl, fun w hw => ?_, ?_⟩))))
      · have hnobody := (Bool.or_eq_false_iff.1 hneeded).2
        exact eq_false_of_ne_true (List.any_eq_false.1 hnobody w hw)
      · exact if_neg (hneeded ▸ Bool.false_ne_true)

end Scene

/-! ## The invariant -/

/-- What holds of a waiter: it has missed no announcement if it found the flag down, and it was only
released for a reason. -/
def Waiter.Sound (s : Scene) (w : Waiter) : Prop :=
  match w.waiting with
  | .arrived => s.isHeld
  | .listening l => l.missed ≤ s.signal.announcements ∧ (w.holdsSignal → s.isHeld)
  | .blocked l => l.missed = 0 ∧ (w.holdsSignal → s.isHeld)
  | .released => s.signal.isTriggered ∨ (w.holdsSignal = false ∧ s.isHeld = false)

namespace Scene

/-- The flag is raised exactly if one call was the first to raise it, and the announcements are
those of first calls that have returned. -/
structure Sound (s : Scene) : Prop where
  one_first : s.callers.countP Caller.isFirst = if s.signal.isTriggered then 1 else 0
  announced : s.signal.announcements = s.callers.count (.returned true)
  waiters : ∀ w ∈ s.waiters, w.Sound s

theorem sound_fresh : fresh.Sound := ⟨rfl, rfl, nofun⟩

namespace Sound

variable {s : Scene} {c : Caller} {w : Waiter} {i : Nat}

theorem announcements_le (h : s.Sound) :
    s.signal.announcements ≤ if s.signal.isTriggered then 1 else 0 := by
  rw [h.announced, ← h.one_first, List.count_eq_countP]
  refine List.countP_mono_left fun c _ hc => ?_
  cases eq_of_beq hc
  rfl

/-- There is no announcement before the flag is raised. -/
theorem triggered_of_announced (h : s.Sound) (ha : 0 < s.signal.announcements) :
    s.signal.isTriggered = true := by
  by_contra hdown
  have := h.announcements_le
  rw [if_neg hdown] at this
  omega

/-- The first call has returned after its announcement. -/
theorem announced_of_returned (h : s.Sound) (hc : .returned true ∈ s.callers) :
    0 < s.signal.announcements := by
  rw [h.announced]
  exact List.count_pos_iff.2 hc

end Sound

end Scene

/-! ## What acts do -/

/-- What a waiter has noticed stays so as time goes on. -/
theorem Waiter.Sound.later {s s' : Scene} {w : Waiter} (h : w.Sound s)
    (hheld : s'.isHeld = s.isHeld)
    (htriggered : s.signal.isTriggered → s'.signal.isTriggered)
    (hannouncements : s.signal.announcements ≤ s'.signal.announcements) : w.Sound s' := by
  unfold Waiter.Sound at h ⊢
  rw [hheld]
  cases hw : w.waiting with
  | arrived =>
    rw [hw] at h
    exact h
  | listening l =>
    rw [hw] at h
    exact ⟨Nat.le_trans h.1 hannouncements, h.2⟩
  | blocked l =>
    rw [hw] at h
    exact h
  | released =>
    rw [hw] at h
    exact h.imp_left htriggered

/-- A waiter that does not need the signal is not concerned if it is let go. -/
theorem Waiter.Sound.letGo {s : Scene} {w : Waiter} (h : w.Sound s)
    (hneeds : w.needsSignal = false) : w.Sound { s with isHeld := false } := by
  obtain ⟨holdsSignal, waiting⟩ := w
  cases waiting with
  | arrived => cases hneeds
  | listening l =>
    cases holdsSignal with
    | true => cases hneeds
    | false => exact ⟨h.1, nofun⟩
  | blocked l =>
    cases holdsSignal with
    | true => cases hneeds
    | false => exact ⟨h.1, nofun⟩
  | released => exact h.imp_right fun hgone => ⟨hgone.1, rfl⟩

theorem countP_set_add {α : Type} (p : α → Bool) {l : List α} {i : Nat} {a : α}
    (h : l[i]? = some a) (b : α) :
    (l.set i b).countP p + [a].countP p = l.countP p + [b].countP p := by
  obtain ⟨hi, rfl⟩ := List.getElem?_eq_some_iff.1 h
  have hcounted := List.boole_getElem_le_countP (p := p) hi
  rw [List.countP_set hi, List.countP_singleton, List.countP_singleton]
  omega

namespace Scene

variable {s : Scene} {c : Caller} {w : Waiter} {i : Nat}

/-- A call that goes a step further becomes the first one exactly if it raises the flag, and makes
the announcement exactly if it returns as the first one. -/
theorem advance_counts (c : Caller) (signal : Shutdown) :
    let next := Caller.advance (c, signal)
    ([next.1].countP Caller.isFirst + (if signal.isTriggered then 1 else 0) =
      [c].countP Caller.isFirst + if next.2.isTriggered then 1 else 0) ∧
    [next.1].count (.returned true) + signal.announcements =
      [c].count (.returned true) + next.2.announcements := by
  obtain ⟨isTriggered, announcements⟩ := signal
  cases c with
  | called => cases isTriggered <;> exact ⟨rfl, rfl⟩
  | raised before =>
    cases before with
    | true => exact ⟨rfl, rfl⟩
    | false =>
      refine ⟨rfl, ?_⟩
      show 1 + announcements = 0 + (announcements + 1)
      omega
  | returned first => exact ⟨rfl, rfl⟩

theorem advance_later (c : Caller) (signal : Shutdown) :
    (signal.isTriggered → (Caller.advance (c, signal)).2.isTriggered) ∧
      signal.announcements ≤ (Caller.advance (c, signal)).2.announcements := by
  cases c with
  | called => exact ⟨fun _ => rfl, Nat.le_refl _⟩
  | raised before =>
    cases before with
    | true => exact ⟨id, Nat.le_refl _⟩
    | false => exact ⟨id, Nat.le_succ _⟩
  | returned first => exact ⟨id, Nat.le_refl _⟩

/-- What is true of the signal stays so, as long as it is not let go. -/
theorem perform_later (s : Scene) (a : Act) :
    (a ≠ .letGo → (s.perform a).isHeld = s.isHeld) ∧
      (s.signal.isTriggered → (s.perform a).signal.isTriggered) ∧
      s.signal.announcements ≤ (s.perform a).signal.announcements := by
  rcases s.perform_cases a with ⟨heq, -⟩ | ⟨-, heq⟩ | ⟨_, -, -, heq⟩ | ⟨i, c, -, -, heq⟩ |
    ⟨i, w, -, -, heq⟩ | ⟨rfl, -, heq⟩
  · rw [heq]
    exact ⟨fun _ => rfl, id, Nat.le_refl _⟩
  · rw [heq]
    exact ⟨fun _ => rfl, id, Nat.le_refl _⟩
  · rw [heq]
    exact ⟨fun _ => rfl, id, Nat.le_refl _⟩
  · rw [heq]
    exact ⟨fun _ => rfl, advance_later c s.signal⟩
  · rw [heq]
    exact ⟨fun _ => rfl, id, Nat.le_refl _⟩
  · rw [heq]
    exact ⟨fun h => absurd rfl h, id, Nat.le_refl _⟩

/-- A waiter that looks at the flag and finds it down has missed nothing, since there was nothing to
be missed; and whoever is released has found it raised, has heard an announcement, or has outlasted
the signal. -/
theorem Sound.advance_waiter (h : s.Sound) (hw : w.Sound s) :
    (w.advance s.signal s.isHeld).Sound s := by
  obtain ⟨holdsSignal, waiting⟩ := w
  cases waiting with
  | arrived => exact ⟨Nat.le_refl _, fun _ => hw⟩
  | listening l =>
    unfold Waiter.Sound Waiter.advance Waiting.advance
    by_cases hraised : s.signal.isTriggered = true
    · simp only [if_pos hraised]
      exact Or.inl hraised
    · simp only [if_neg hraised]
      have hnone := h.announcements_le
      rw [if_neg hraised] at hnone
      exact ⟨Nat.le_zero.1 (Nat.le_trans hw.1 hnone), hw.2⟩
  | blocked l =>
    unfold Waiter.Sound Waiter.advance Waiting.advance
    by_cases hears : s.signal.hears l = true
    · have hpos : 0 < s.signal.announcements := Nat.lt_of_le_of_lt (Nat.zero_le _)
        (of_decide_eq_true hears)
      simp only [hears, Bool.true_or, if_true]
      exact Or.inl (h.triggered_of_announced hpos)
    · cases hheld : s.isHeld with
      | true =>
        simp only [eq_false_of_ne_true hears, Bool.not_true, Bool.or_false, if_neg
          Bool.false_ne_true]
        exact ⟨hw.1, fun _ => trivial⟩
      | false =>
        simp only [Bool.not_false, Bool.or_true, if_true]
        refine Or.inr ⟨?_, trivial⟩
        cases holdsSignal with
        | true => exact absurd (hw.2 rfl) (by rw [hheld]; exact Bool.false_ne_true)
        | false => rfl
  | released => exact hw

/-- Every act keeps the scene sound. -/
theorem Sound.perform (h : s.Sound) (a : Act) : (s.perform a).Sound := by
  rcases s.perform_cases a with ⟨heq, -⟩ | ⟨-, heq⟩ | ⟨holdsSignal, -, hheld, heq⟩ |
    ⟨i, c, -, hi, heq⟩ | ⟨i, w, -, hi, heq⟩ | ⟨-, hneeds, heq⟩
  · rw [heq]
    exact h
  · rw [heq]
    refine ⟨?_, ?_, fun w hw => (h.waiters w hw).later rfl id (Nat.le_refl _)⟩
    · exact List.countP_append.trans h.one_first
    · show s.signal.announcements = (s.callers ++ [Caller.called]).count (.returned true)
      rw [List.count_append]
      exact h.announced
  · rw [heq]
    refine ⟨h.one_first, h.announced, fun w hw => ?_⟩
    rcases List.mem_append.1 hw with hold | hnew
    · exact (h.waiters w hold).later rfl id (Nat.le_refl _)
    · rw [List.mem_singleton.1 hnew]
      exact hheld
  · obtain ⟨hfirst, hannounced⟩ := advance_counts c s.signal
    obtain ⟨htriggered, hannouncements⟩ := advance_later c s.signal
    have hone := h.one_first
    have hcount := h.announced
    have hset := countP_set_add Caller.isFirst hi (Caller.advance (c, s.signal)).1
    have hset' := countP_set_add (· == .returned true) hi (Caller.advance (c, s.signal)).1
    unfold List.count at hcount hannounced
    rw [heq]
    refine ⟨?_, ?_, fun w hw => (h.waiters w hw).later rfl htriggered hannouncements⟩
    · dsimp only
      omega
    · dsimp only
      unfold List.count
      omega
  · have hnext := h.advance_waiter (h.waiters w (List.mem_of_getElem? hi))
    rw [heq]
    refine ⟨h.one_first, h.announced, fun w' hw' => ?_⟩
    rcases List.mem_or_eq_of_mem_set hw' with hold | rfl
    · exact (h.waiters w' hold).later rfl id (Nat.le_refl _)
    · exact hnext.later rfl id (Nat.le_refl _)
  · rw [heq]
    exact ⟨h.one_first, h.announced, fun w hw => (h.waiters w hw).letGo (hneeds w hw)⟩

theorem sound_play (acts : List Act) : (fresh.play acts).Sound := by
  induction acts using List.reverseRecOn with
  | nil => exact sound_fresh
  | append_singleton acts a ih =>
    rw [play_concat]
    exact ih.perform a

/-! ## After the announcement -/

/-- A call that has returned stays so. -/
theorem returned_perform {first : Bool} (h : .returned first ∈ s.callers) (a : Act) :
    .returned first ∈ (s.perform a).callers := by
  rcases s.perform_cases a with ⟨heq, -⟩ | ⟨-, heq⟩ | ⟨_, -, -, heq⟩ | ⟨i, c, -, hi, heq⟩ |
    ⟨i, w, -, hi, heq⟩ | ⟨-, -, heq⟩
  · rw [heq]
    exact h
  · rw [heq]
    exact List.mem_append_left _ h
  · rw [heq]
    exact h
  · rw [heq]
    obtain ⟨j, hj⟩ := List.getElem?_of_mem h
    by_cases hij : i = j
    · subst hij
      rw [hi] at hj
      cases hj
      exact List.mem_set (List.getElem?_eq_some_iff.1 hi).1 _
    · exact List.mem_of_getElem? ((List.getElem?_set_ne hij).trans hj)
  · rw [heq]
    exact h
  · rw [heq]
    exact h

/-- Whoever waits for the announcement when it is made has not missed it. -/
theorem Sound.hears (h : s.Sound) (hc : .returned true ∈ s.callers) {l : Listener}
    {holdsSignal : Bool} (hw : Waiter.Sound s ⟨holdsSignal, .blocked l⟩) :
    s.signal.hears l = true := by
  have hmissed : l.missed = 0 := hw.1
  refine decide_eq_true ?_
  rw [hmissed]
  exact h.announced_of_returned hc

/-- Where the announcement has been made, no step of a waiter is in vain. -/
theorem Sound.distance_advance (h : s.Sound) (hc : .returned true ∈ s.callers) (hw : w.Sound s) :
    (w.advance s.signal s.isHeld).waiting.distance ≤ w.waiting.distance - 1 := by
  have hannounced := h.announced_of_returned hc
  obtain ⟨holdsSignal, waiting⟩ := w
  unfold Waiter.advance Waiting.advance
  cases waiting with
  | arrived => exact Nat.le_refl _
  | listening l =>
    simp only [if_pos (h.triggered_of_announced hannounced)]
    exact Nat.zero_le _
  | blocked l =>
    simp only [h.hears hc hw, Bool.true_or, if_true]
    exact Nat.le_refl _
  | released => exact Nat.le_refl _

/-- After the first call has returned, each step of a waiter brings it nearer to its release, and
nothing that others do takes it back. -/
theorem Sound.distance_perform (h : s.Sound) (hc : .returned true ∈ s.callers)
    (hw : s.waiters[i]? = some w) (a : Act) :
    ∃ w', (s.perform a).waiters[i]? = some w' ∧
      w'.waiting.distance ≤ w.waiting.distance - if a = .advanceWaiter i then 1 else 0 := by
  rcases s.perform_cases a with ⟨heq, hnot⟩ | ⟨rfl, heq⟩ | ⟨_, rfl, -, heq⟩ |
    ⟨j, c, rfl, -, heq⟩ | ⟨j, w', rfl, hj, heq⟩ | ⟨rfl, -, heq⟩
  · have hother : a ≠ .advanceWaiter i := by
      intro he
      rw [hnot i he] at hw
      cases hw
    rw [heq, if_neg hother]
    exact ⟨w, hw, Nat.le_refl _⟩
  · rw [heq]
    exact ⟨w, hw, Nat.le_refl _⟩
  · rw [heq]
    exact ⟨w, (List.getElem?_append_left (List.getElem?_eq_some_iff.1 hw).1).trans hw,
      Nat.le_refl _⟩
  · rw [heq]
    exact ⟨w, hw, Nat.le_refl _⟩
  · rw [heq]
    by_cases hij : j = i
    · subst hij
      rw [hw] at hj
      cases hj
      rw [if_pos rfl]
      exact ⟨_, List.getElem?_set_self (List.getElem?_eq_some_iff.1 hw).1,
        h.distance_advance hc (h.waiters w (List.mem_of_getElem? hw))⟩
    · rw [if_neg fun he => hij (Act.advanceWaiter.inj he)]
      exact ⟨w, (List.getElem?_set_ne hij).trans hw, Nat.le_refl _⟩
  · rw [heq]
    exact ⟨w, hw, Nat.le_refl _⟩

theorem Sound.distance_play (h : s.Sound) (hc : .returned true ∈ s.callers)
    (hw : s.waiters[i]? = some w) (later : List Act) :
    ∃ w', (s.play later).waiters[i]? = some w' ∧
      w'.waiting.distance ≤ w.waiting.distance - later.count (.advanceWaiter i) := by
  induction later generalizing s w with
  | nil => exact ⟨w, hw, Nat.le_refl _⟩
  | cons a rest ih =>
    obtain ⟨w₁, hw₁, hstep⟩ := h.distance_perform hc hw a
    obtain ⟨w₂, hw₂, hrest⟩ := ih (h.perform a) (returned_perform hc a) hw₁
    refine ⟨w₂, hw₂, ?_⟩
    rw [List.count_cons]
    simp only [beq_iff_eq]
    omega

end Scene

/-! ## The main result -/

/-- However many call for shutdown and wait for it, and in whatever order their steps come. When the
first call has returned, nobody waits in vain: there is an announcement for everyone who waits for
one, and whoever waits is released after at most three steps of its own, whatever others do in the
meantime. A waiter that holds the signal is only released after the flag was raised, and any other
one only then or after the signal was let go. There is at most one announcement. -/
theorem waiters_told (acts : List Act) :
    let s := Scene.fresh.play acts
    (.returned true ∈ s.callers → ∀ w ∈ s.waiters, ∀ l, w.waiting = .blocked l →
      s.signal.hears l) ∧
    (.returned true ∈ s.callers → ∀ i w later, s.waiters[i]? = some w →
      3 ≤ later.count (.advanceWaiter i) →
        ∃ w', (s.play later).waiters[i]? = some w' ∧ w'.waiting = .released) ∧
    (∀ w ∈ s.waiters, w.waiting = .released →
      s.signal.isTriggered ∨ (w.holdsSignal = false ∧ s.isHeld = false)) ∧
    s.signal.announcements ≤ 1 := by
  intro s
  have h : s.Sound := Scene.sound_play acts
  refine ⟨?_, ?_, ?_, ?_⟩
  · rintro hc ⟨holdsSignal, waiting⟩ hw l rfl
    exact h.hears hc (h.waiters _ hw)
  · intro hc i w later hw hsteps
    obtain ⟨w', hw', hdistance⟩ := h.distance_play hc hw later
    have hnear := w.waiting.distance_le
    exact ⟨w', hw', Waiting.released_of_distance (by omega)⟩
  · rintro ⟨holdsSignal, waiting⟩ hw rfl
    exact h.waiters _ hw
  · refine Nat.le_trans h.announcements_le ?_
    split <;> decide

/-- Two call and two wait. The first waiter finds the flag down, and the second one begins to listen
between the raising of the flag and the announcement. The call that came last is the one that raises
the flag. -/
def racing : List Act :=
  [.wait true, .wait false, .call, .call, .advanceWaiter 0, .advanceWaiter 0, .advanceCaller 1,
    .advanceCaller 0, .advanceCaller 0, .advanceWaiter 1, .advanceCaller 1]

theorem waiters_told_racing :
    let s := Scene.fresh.play racing
    let later : List Act := [.advanceWaiter 1, .call, .advanceWaiter 1, .letGo, .advanceWaiter 1]
    s.callers = [.returned false, .returned true] ∧
    s.waiters = [⟨true, .blocked ⟨0⟩⟩, ⟨false, .listening ⟨0⟩⟩] ∧ s.signal.hears ⟨0⟩ ∧
    3 ≤ later.count (.advanceWaiter 1) ∧
    ∃ w, (s.play later).waiters[1]? = some w ∧ w.waiting = .released := by
  intro s later
  have hcallers : s.callers = [.returned false, .returned true] := rfl
  have hwaiters : s.waiters = [⟨true, .blocked ⟨0⟩⟩, ⟨false, .listening ⟨0⟩⟩] := rfl
  have hfirst : .returned true ∈ s.callers := by rw [hcallers]; decide
  obtain ⟨hheard, htold, -⟩ := waiters_told racing
  refine ⟨hcallers, hwaiters, ?_, by decide, ?_⟩
  · exact hheard hfirst ⟨true, .blocked ⟨0⟩⟩ (by rw [hwaiters]; decide) ⟨0⟩ rfl
  · exact htold hfirst 1 ⟨false, .listening ⟨0⟩⟩ later (by rw [hwaiters]; rfl) (by decide)

end HomeEnergy.Shutdown

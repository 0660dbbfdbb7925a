import HomeEnergy.Proofs.Control.Run

/-!
The operator and the cycles at the same time. A scene is a control loop together with the cycles
that are under way, any number of them; each act is a single step of one cycle, or a single write of
the operator to the panel. A call for manual mode is two such writes, the setpoint and then the
mode, with acts of cycles before, between and after them.

A cycle that has read the mode and has not stored its setpoint yet is deciding. What it will store
may have been settled before the call, and then it overwrites what the operator has asked for
(`setManual_overwritten`). `Scene.Settled` is the state of affairs in which nothing of the kind is
to be feared; it is kept by every act of a cycle, and without it the operator's setpoint is lost
sooner or later (`Scene.settled_iff`).
-/

namespace HomeEnergy.Control

/-! ## Scenes -/

/-- A control loop and the cycles that are under way or done, in the order of their beginning. -/
structure Scene (ω : Type) where
  manager : Manager ω
  cycles : List Cycle

inductive Act where
  | begin
  | advance (i : Nat) (now : Timestamp)
  | storeSetpoint (c : Current)
  | storeMode (mode : Mode)
deriving DecidableEq

def Act.isOfCycle : Act → Bool
  | .begin | .advance _ _ => true
  | .storeSetpoint _ | .storeMode _ => false

namespace Scene

variable {ω : Type}

def perform (d : Devices ω) (s : Scene ω) : Act → Scene ω
  | .begin => { s with cycles := s.cycles ++ [.begun] }
  | .advance i now =>
    match s.cycles[i]? with
    | some c =>
      ⟨(Cycle.advance d now (c, s.manager)).2,
        s.cycles.set i (Cycle.advance d now (c, s.manager)).1⟩
    | none => s
  | .storeSetpoint c => { s with manager.panel := s.manager.panel.storeSetpoint c }
  | .storeMode mode => { s with manager.panel := s.manager.panel.storeMode mode }

def play (d : Devices ω) (s : Scene ω) (acts : List Act) : Scene ω := acts.foldl (perform d) s

theorem play_concat (d : Devices ω) (s : Scene ω) (acts : List Act) (a : Act) :
    s.play d (acts ++ [a]) = (s.play d acts).perform d a := by
  unfold play
  rw [List.foldl_append, List.foldl_cons, List.foldl_nil]

/-- What every act of a cycle keeps is kept by any number of them. -/
theorem play_induction {d : Devices ω} {P : Scene ω → Prop}
    (step : ∀ s a, a.isOfCycle = true → P s → P (s.perform d a)) {s : Scene ω} (hs : P s)
    (acts : List Act) (hacts : ∀ a ∈ acts, a.isOfCycle = true) : P (s.play d acts) := by
  induction acts generalizing s with
  | nil => exact hs
  | cons a rest ih =>
    exact ih (step s a (hacts a List.mem_cons_self) hs)
      fun b hb => hacts b (List.mem_cons_of_mem a hb)

theorem perform_advance {s : Scene ω} {i : Nat} {c : Cycle} (h : s.cycles[i]? = some c)
    (d : Devices ω) (now : Timestamp) :
    s.perform d (.advance i now) =
      ⟨(Cycle.advance d now (c, s.manager)).2,
        s.cycles.set i (Cycle.advance d now (c, s.manager)).1⟩ := by
  simp only [perform, h]

end Scene

/-! ## What cycles have decided -/

namespace Cycle

variable {ω : Type}

/-- Whether a cycle has read the mode and not stored its setpoint yet. -/
def isDeciding : Cycle → Bool
  | .modeRead _ _ | .heldRead _ _ _ => true
  | _ => false

/-- The setpoint that a cycle will store whatever is written to the panel in the meantime. -/
def decided? (limits : CurrentLimits) : Cycle → Option Current
  | .modeRead snapshot .auto => some (automaticSetpoint snapshot limits)
  | .heldRead snapshot mode held => some (Control.setpoint mode held snapshot limits)
  | _ => none

/-- The current that the next step of a cycle asks of the charger. -/
def command? : Cycle → Option Current
  | .stored _ c => some c
  | _ => none

/-- All that a cycle has read of the panel, and all that it has made of it, is manual mode at the
given current. -/
def Holds (held : Current) : Cycle → Prop
  | .begun | .polled _ => True
  | .modeRead _ mode => mode = .manual
  | .heldRead _ mode c => mode = .manual ∧ c = held
  | .stored _ c | .commanded _ c | .done c => c = held

theorem decided?_of_not_isDeciding {c : Cycle} (h : c.isDeciding = false)
    (limits : CurrentLimits) : c.decided? limits = none := by
  cases c <;> first | rfl | cases h

/-- Only a cycle that is deciding writes to the panel. -/
theorem panel_advance {c : Cycle} (h : c.isDeciding = false) (d : Devices ω) (now : Timestamp)
    (m : Manager ω) : (advance d now (c, m)).2.panel = m.panel := by
  cases c <;> first | rfl | cases h

theorem mode_advance (d : Devices ω) (now : Timestamp) (c : Cycle) (m : Manager ω) :
    (advance d now (c, m)).2.panel.mode = m.panel.mode := by
  cases c <;> rfl

/-- A cycle whose decision is the operator's leaves the panel as it is, and keeps to it. -/
theorem advance_agreed {m : Manager ω} {c : Cycle} (hmode : m.panel.mode = .manual)
    (hagreed : ∀ c', c.decided? m.panel.limits = some c' → c' = m.panel.setpoint)
    (d : Devices ω) (now : Timestamp) :
    (advance d now (c, m)).2.panel = m.panel ∧
      ∀ c', (advance d now (c, m)).1.decided? m.panel.limits = some c' →
        c' = m.panel.setpoint := by
  cases c with
  | begun => exact ⟨rfl, fun _ h => by cases h⟩
  | polled snapshot =>
    refine ⟨rfl, ?_⟩
    show ∀ c', decided? _ (.modeRead snapshot m.panel.mode) = some c' → _
    rw [hmode]
    exact fun _ h => by cases h
  | modeRead snapshot mode =>
    refine ⟨rfl, ?_⟩
    intro c' h
    cases mode with
    | auto => exact hagreed c' h
    | manual =>
      cases h
      rfl
  | heldRead snapshot mode held =>
    have hsame : Control.setpoint mode held snapshot m.panel.limits = m.panel.setpoint :=
      hagreed _ rfl
    refine ⟨?_, fun _ h => by cases h⟩
    show m.panel.storeSetpoint (Control.setpoint mode held snapshot m.panel.limits) = m.panel
    rw [hsame]
    rfl
  | stored snapshot c => exact ⟨rfl, fun _ h => by cases h⟩
  | commanded snapshot c => exact ⟨rfl, fun _ h => by cases h⟩
  | done c => exact ⟨rfl, fun _ h => by cases h⟩

theorem advance_holds {m : Manager ω} {c : Cycle} (hmode : m.panel.mode = .manual)
    (h : c.Holds m.panel.setpoint) (d : Devices ω) (now : Timestamp) :
    (advance d now (c, m)).1.Holds m.panel.setpoint := by
  cases c with
  | begun => trivial
  | polled snapshot => exact hmode
  | modeRead snapshot mode => exact ⟨h, rfl⟩
  | heldRead snapshot mode held =>
    obtain ⟨rfl, rfl⟩ := h
    rfl
  | stored snapshot c => exact h
  | commanded snapshot c => exact h
  | done c => exact h

/-- A step asks the charger for what `command?` says, and for nothing else. -/
theorem log_advance (d : Devices ω) (now : Timestamp) (c : Cycle)
    (m : Manager (ω × List Current)) :
    (advance d.logged now (c, m)).2.devices.2 = m.devices.2 ++ c.command?.toList := by
  cases c with
  | begun =>
    show (d.logged.poll now m.devices).2.2 = m.devices.2 ++ []
    rw [poll_logged, List.append_nil]
  | stored snapshot c => rfl
  | polled _ | modeRead _ _ | heldRead _ _ _ | commanded _ _ | done _ =>
    exact (List.append_nil _).symm

end Cycle

/-! ## Settled scenes -/

namespace Scene

variable {ω : Type} {d : Devices ω} {s : Scene ω} {held : Current}

/-- The panel is in manual mode at the given current, and no cycle has decided otherwise. -/
structure Settled (held : Current) (s : Scene ω) : Prop where
  mode_eq : s.manager.panel.mode = .manual
  setpoint_eq : s.manager.panel.setpoint = held
  agreed : ∀ c ∈ s.cycles, ∀ c', c.decided? s.manager.panel.limits = some c' → c' = held

theorem Settled.perform (h : s.Settled held) {a : Act} (ha : a.isOfCycle = true) :
    (s.perform d a).Settled held := by
  obtain ⟨hmode, rfl, hagreed⟩ := h
  cases a with
  | begin =>
    refine ⟨hmode, rfl, ?_⟩
    intro c hc
    rcases List.mem_append.1 hc with hold | hnew
    · exact hagreed c hold
    · cases List.mem_singleton.1 hnew
      exact fun _ h => by cases h
  | advance i now =>
    cases hi : s.cycles[i]? with
    | none =>
      simp only [Scene.perform, hi]
      exact ⟨hmode, rfl, hagreed⟩
    | some c =>
      obtain ⟨hpanel, hnext⟩ :=
        Cycle.advance_agreed hmode (hagreed c (List.mem_of_getElem? hi)) d now
      rw [perform_advance hi]
      refine ⟨?_, ?_, ?_⟩
      · rw [hpanel]; exact hmode
      · rw [hpanel]
      · rw [hpanel]
        intro c' hc'
        rcases List.mem_or_eq_of_mem_set hc' with hold | rfl
        · exact hagreed c' hold
        · exact hnext
  | storeSetpoint c => cases ha
  | storeMode mode => cases ha

/-- The operator's setpoint stays for good exactly if the scene is settled: what a cycle has
decided it stores sooner or later. -/
theorem settled_iff :
    s.Settled held ↔ ∀ acts, (∀ a ∈ acts, Act.isOfCycle a = true) →
      (s.play d acts).manager.panel.mode = .manual ∧
        (s.play d acts).manager.panel.setpoint = held := by
  constructor
  · intro h acts hacts
    have hlater : (s.play d acts).Settled held :=
      play_induction (fun _ _ ha hs => hs.perform ha) h acts hacts
    exact ⟨hlater.mode_eq, hlater.setpoint_eq⟩
  · intro h
    obtain ⟨hmode, hsetpoint⟩ := h [] (fun _ ha => by cases ha)
    refine ⟨hmode, hsetpoint, ?_⟩
    intro c hc c' hdecided
    obtain ⟨i, hi⟩ := List.getElem?_of_mem hc
    have hlt : i < s.cycles.length := (List.getElem?_eq_some_iff.1 hi).1
    let now : Timestamp := ⟨0, 0, 0⟩
    cases c with
    | modeRead snapshot mode =>
      cases mode with
      | auto =>
        -- two steps to the store: the setpoint that is read in between does not count
        cases hdecided
        have hset := (h [.advance i now, .advance i now] (by simp [Act.isOfCycle])).2
        show automaticSetpoint snapshot s.manager.panel.limits = held
        rw [← hset]
        show _ = ((s.perform d (.advance i now)).perform d (.advance i now)).manager.panel.setpoint
        rw [perform_advance hi, perform_advance (List.getElem?_set_self hlt)]
        rfl
      | manual => cases hdecided
    | heldRead snapshot mode held' =>
      cases hdecided
      have hset := (h [.advance i now] (by simp [Act.isOfCycle])).2
      rw [← hset]
      show _ = (s.perform d (.advance i now)).manager.panel.setpoint
      rw [perform_advance hi]
      rfl
    | begun => cases hdecided
    | polled snapshot => cases hdecided
    | stored snapshot c => cases hdecided
    | commanded snapshot c => cases hdecided
    | done c => cases hdecided

/-- The panel after an act of a cycle is as it was, or as a step of one of the cycles leaves it. -/
theorem panel_perform {a : Act} (ha : a.isOfCycle = true) :
    (s.perform d a).manager.panel = s.manager.panel ∨
      ∃ c ∈ s.cycles, ∃ now,
        (s.perform d a).manager.panel = (Cycle.advance d now (c, s.manager)).2.panel := by
  cases a with
  | begin => exact Or.inl rfl
  | advance i now =>
    cases hi : s.cycles[i]? with
    | none => exact Or.inl (by simp only [Scene.perform, hi])
    | some c => exact Or.inr ⟨c, List.mem_of_getElem? hi, now, by rw [perform_advance hi]⟩
  | storeSetpoint c => cases ha
  | storeMode mode => cases ha

theorem mode_perform {a : Act} (ha : a.isOfCycle = true) :
    (s.perform d a).manager.panel.mode = s.manager.panel.mode := by
  rcases panel_perform (d := d) ha with hsame | ⟨c, -, now, hstep⟩
  · rw [hsame]
  · rw [hstep, Cycle.mode_advance]

/-- Every cycle from the `n`-th on has read nothing but the operator's setpoint. -/
def HoldsFrom (n : Nat) (held : Current) (s : Scene ω) : Prop :=
  ∀ i c, n ≤ i → s.cycles[i]? = some c → c.Holds held

theorem HoldsFrom.perform {n : Nat} (h : s.HoldsFrom n held) (hsettled : s.Settled held) {a : Act}
    (ha : a.isOfCycle = true) : (s.perform d a).HoldsFrom n held := by
  obtain ⟨hmode, rfl, -⟩ := hsettled
  intro j c hj hc
  cases a with
  | begin =>
    have hget : (s.cycles ++ [.begun])[j]? = some c := hc
    rw [List.getElem?_append] at hget
    split at hget
    · exact h j c hj hget
    · cases List.mem_singleton.1 (List.mem_of_getElem? hget)
      trivial
  | advance i now =>
    cases hi : s.cycles[i]? with
    | none =>
      simp only [Scene.perform, hi] at hc
      exact h j c hj hc
    | some c' =>
      rw [perform_advance hi, List.getElem?_set] at hc
      split at hc
      · next hij =>
        subst hij
        split at hc
        · cases hc
          exact Cycle.advance_holds hmode (h i c' hj hi) d now
        · cases hc
      · exact h j c hj hc
  | storeSetpoint c => cases ha
  | storeMode mode => cases ha

/-! ## Calls for manual mode -/

def Undecided (s : Scene ω) : Prop := ∀ c ∈ s.cycles, c.isDeciding = false

theorem Undecided.panel_eq (h : s.Undecided) {a : Act} (ha : a.isOfCycle = true) :
    (s.perform d a).manager.panel = s.manager.panel := by
  rcases Scene.panel_perform (d := d) ha with hsame | ⟨c, hc, now, hstep⟩
  · exact hsame
  · rw [hstep, Cycle.panel_advance (h c hc)]

/-- The scene in which a call for manual mode returns that writes the given setpoint: the acts come
between its two writes. -/
def called (d : Devices ω) (s : Scene ω) (held : Current) (acts : List Act) : Scene ω :=
  ((s.perform d (.storeSetpoint held)).play d acts).perform d (.storeMode .manual)

/-- No cycle is deciding at any time between the two writes of a call. -/
def Quiet (d : Devices ω) (s : Scene ω) (held : Current) (acts : List Act) : Prop :=
  ∀ earlier later, acts = earlier ++ later →
    ((s.perform d (.storeSetpoint held)).play d earlier).Undecided

theorem settled_of_quiet {acts : List Act} (hquiet : Quiet d s held acts)
    (hacts : ∀ a ∈ acts, a.isOfCycle = true) : (s.called d held acts).Settled held := by
  have hpanel : ((s.perform d (.storeSetpoint held)).play d acts).manager.panel =
      s.manager.panel.storeSetpoint held := by
    induction acts using List.reverseRecOn with
    | nil => rfl
    | append_singleton acts a ih =>
      have hundecided := hquiet acts [a] rfl
      rw [play_concat, hundecided.panel_eq (hacts a (by simp))]
      refine ih ?_ fun b hb => hacts b (List.mem_append_left _ hb)
      rintro earlier later rfl
      exact hquiet earlier (later ++ [a]) (List.append_assoc _ _ _)
  have hundecided : (s.called d held acts).Undecided := hquiet acts [] (List.append_nil _).symm
  refine ⟨rfl, ?_, ?_⟩
  · show ((s.perform d (.storeSetpoint held)).play d acts).manager.panel.setpoint = held
    rw [hpanel]
    rfl
  · intro c hc c' hdecided
    rw [Cycle.decided?_of_not_isDeciding (hundecided c hc)] at hdecided
    cases hdecided

end Scene

/-! ## The main result -/

/-- What becomes of a call for manual mode, in whatever scene it is made and whatever cycles do
between its two writes and afterwards. The mode stays for good. The setpoint does exactly if no
cycle has decided otherwise when the call returns. If no cycle is deciding between the two writes,
it does: the panel is in manual mode at this setpoint in every later scene, and every cycle that
begins after the call asks it of the charger, and nothing else. -/
theorem setManual_kept {ω : Type} (d : Devices ω) (s : Scene (ω × List Current))
    {c held : Current} (hheld : Panel.held? s.manager.panel.limits c = some held)
    (during : List Act) (hduring : ∀ a ∈ during, a.isOfCycle = true) :
    let returned := s.called d.logged held during
    (c = .zero → held = .zero) ∧
    (c ≠ .zero →
      c.clamp? s.manager.panel.limits.least s.manager.panel.limits.most = some held) ∧
    (∀ acts, (∀ a ∈ acts, Act.isOfCycle a = true) →
      (returned.play d.logged acts).manager.panel.mode = .manual) ∧
    (returned.Settled held ↔ ∀ acts, (∀ a ∈ acts, Act.isOfCycle a = true) →
      (returned.play d.logged acts).manager.panel.setpoint = held) ∧
    (s.Quiet d.logged held during → ∀ acts, (∀ a ∈ acts, Act.isOfCycle a = true) →
      let later := returned.play d.logged acts
      later.manager.panel.mode = .manual ∧ later.manager.panel.setpoint = held ∧
        ∀ i cycle now, returned.cycles.length ≤ i → later.cycles[i]? = some cycle →
          (later.perform d.logged (.advance i now)).manager.devices.2 =
            later.manager.devices.2 ++ cycle.command?.toList ∧
          ∀ command, cycle.command? = some command → command = held) := by
  intro returned
  have hmode : ∀ acts, (∀ a ∈ acts, Act.isOfCycle a = true) →
      (returned.play d.logged acts).manager.panel.mode = .manual :=
    Scene.play_induction (P := fun s => s.manager.panel.mode = .manual)
      (fun _ _ ha h => (Scene.mode_perform ha).trans h) rfl
  refine ⟨?_, ?_, hmode, ?_, ?_⟩
  · rintro rfl
    cases hheld
    rfl
  · intro hne
    unfold Panel.held? at hheld
    rw [if_neg hne] at hheld
    exact hheld
  · rw [Scene.settled_iff]
    constructor
    · intro h acts hacts
      exact (h acts hacts).2
    · intro h acts hacts
      exact ⟨hmode acts hacts, h acts hacts⟩
  · intro hquiet acts hacts later
    have hsettled : returned.Settled held := Scene.settled_of_quiet hquiet hduring
    have hnone : returned.HoldsFrom returned.cycles.length held := by
      intro i cycle hi hcycle
      rw [List.getElem?_eq_none hi] at hcycle
      cases hcycle
    obtain ⟨hlater, hholds⟩ :=
      Scene.play_induction (P := fun s => s.Settled held ∧ s.HoldsFrom returned.cycles.length held)
        (fun _ _ ha h => ⟨h.1.perform ha, h.2.perform h.1 ha⟩) ⟨hsettled, hnone⟩ acts hacts
    refine ⟨hlater.mode_eq, hlater.setpoint_eq, ?_⟩
    intro i cycle now hi hcycle
    constructor
    · rw [Scene.perform_advance hcycle]
      exact Cycle.log_advance d now cycle later.manager
    · intro command hcommand
      have hcycleHolds := hholds i cycle hi hcycle
      cases cycle <;> cases hcommand
      exact hcycleHolds

def deaf : Devices Unit where
  grid := { update := fun w => (.error (unanswered "grid"), w), reading := fun _ => none }
  charger := { update := fun w => (.error (unanswered "charger"), w), reading := fun _ => none }
  setMaxCurrent _ w := (.error (unanswered "charger"), w)
  heatPump := { update := fun w => (.error (unanswered "heat pump"), w), reading := fun _ => none }
  solar := none
  battery := none

def idle : Scene (Unit × List Current) :=
  ⟨.fresh .default ((), []) ⟨0, 0, 0⟩, []⟩

theorem setManual_kept_polled :
    let now : Timestamp := ⟨0, 0, 0⟩
    let s := idle.play deaf.logged [.begin, .advance 0 now]
    Panel.held? s.manager.panel.limits ⟨40⟩ = some ⟨32⟩ ∧
    (∀ a ∈ [Act.begin], a.isOfCycle = true) ∧ s.Quiet deaf.logged ⟨32⟩ [.begin] ∧
    ∀ acts, (∀ a ∈ acts, Act.isOfCycle a = true) →
      ((s.called deaf.logged ⟨32⟩ [.begin]).play deaf.logged acts).manager.panel.setpoint =
        ⟨32⟩ := by
  intro now s
  have hheld : Panel.held? s.manager.panel.limits ⟨40⟩ = some ⟨32⟩ := rfl
  have hduring : ∀ a ∈ [Act.begin], a.isOfCycle = true := by decide
  have hquiet : s.Quiet deaf.logged ⟨32⟩ [.begin] := by
    intro earlier later h
    have hcases : earlier = [] ∨ earlier = [.begin] := by
      cases earlier with
      | nil => exact Or.inl rfl
      | cons a rest =>
        obtain ⟨rfl, hrest⟩ := List.cons.inj h
        exact Or.inr (by rw [(List.append_eq_nil_iff.1 hrest.symm).1])
    rcases hcases with rfl | rfl
    · show ∀ c ∈ [Cycle.polled _], c.isDeciding = false
      exact fun c hc => by cases List.mem_singleton.1 hc; rfl
    · show ∀ c ∈ [Cycle.polled _, .begun], c.isDeciding = false
      simp [Cycle.isDeciding]
  obtain ⟨-, -, -, -, hkept⟩ := setManual_kept deaf s hheld [.begin] hduring
  exact ⟨hheld, hduring, hquiet, fun acts hacts => (hkept hquiet acts hacts).2.1⟩

/-- A cycle that has read automatic mode before the call stores its own setpoint after it. The
operator has asked for 16 A and the mode is manual, but the panel shows zero from then on, and zero
is what the next cycle asks of the charger. -/
theorem setManual_overwritten :
    let now : Timestamp := ⟨0, 0, 0⟩
    let returned := (idle.play deaf.logged [.begin, .advance 0 now, .advance 0 now]).called
      deaf.logged ⟨16⟩ []
    let later := returned.play deaf.logged (List.replicate 4 (.advance 0 now))
    let next := later.play deaf.logged (.begin :: List.replicate 6 (.advance 1 now))
    Panel.held? .default ⟨16⟩ = some ⟨16⟩ ∧
    returned.manager.panel = ⟨.manual, ⟨16⟩, .default⟩ ∧
    later.manager.panel = ⟨.manual, .zero, .default⟩ ∧ later.cycles = [.done .zero] ∧
    next.cycles = [.done .zero, .done .zero] ∧ next.manager.devices.2 = [.zero, .zero] := by
  refine ⟨rfl, rfl, rfl, rfl, rfl, rfl⟩

end HomeEnergy.Control

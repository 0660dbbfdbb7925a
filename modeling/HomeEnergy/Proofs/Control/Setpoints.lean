import HomeEnergy.Proofs.Binary64.Bounds
import HomeEnergy.Proofs.Control.Run
import HomeEnergy.Settings.Energy

/-!
What a run of the control loop does with the charger. The setpoint is zero or within the limits
after every operation, each cycle asks the charger once, for the current that it returns, and in
manual mode this is the current that the operator has asked for.

The invariant is `Journal.Sound`: `Journal.Sound.after` is the step and `Journal.exists_run` the
run. Everything that the limits have to do with it goes by their order, without which the operator
could not even ask for a current.
-/

namespace HomeEnergy.Control

open Binary64 (Magnitude)

/-! ## One setpoint -/

namespace CurrentLimits

/-- A current that may be asked of a charger: none at all, or one within the limits. -/
def Allows (l : CurrentLimits) (c : Current) : Prop :=
  c = .zero ∨ (l.least.amps ≤ c.amps ∧ c.amps ≤ l.most.amps)

/-- The current that the operator gets who asks for `c`. -/
def nearest (l : CurrentLimits) (c : Current) : Current :=
  if c = .zero then .zero else ⟨max l.least.amps (min c.amps l.most.amps)⟩

theorem held?_eq {l : CurrentLimits} (h : l.Ordered) (c : Current) :
    Panel.held? l c = some (l.nearest c) := by
  unfold Panel.held? nearest Current.clamp?
  split
  · rfl
  · exact if_pos h

theorem nearest_allowed {l : CurrentLimits} (h : l.Ordered) (c : Current) :
    l.Allows (l.nearest c) := by
  unfold nearest
  split
  · exact Or.inl rfl
  · exact Or.inr (Current.clamp?_between (if_pos h))

end CurrentLimits

theorem limitedCurrent_between {limits : CurrentLimits} (h : limits.Ordered) (watts : Nat)
    (voltage : Voltage) :
    limits.least.amps ≤ (limitedCurrent watts voltage limits).amps ∧
      (limitedCurrent watts voltage limits).amps ≤ limits.most.amps := by
  let raw := Magnitude.ofQuotient watts voltage.volts.toNat
  let most := Magnitude.ofNat limits.most.amps.toNat
  let least := Magnitude.ofNat limits.least.amps.toNat
  have hordered : least.le most = true := Magnitude.ofNat_le_ofNat.2 h
  obtain ⟨n, hn, hleast, hmost⟩ := Magnitude.nearest?_between
    (Magnitude.le_greatest_right (raw.least most) least)
    (Magnitude.greatest_le (Magnitude.least_le_right raw most) hordered)
  have hc : limitedCurrent watts voltage limits = ⟨UInt32.ofNat n⟩ := by
    show (⟨UInt32.ofNat (((raw.least most).greatest least).nearest?.getD 0)⟩ : Current) = _
    rw [hn, Option.getD_some]
  have hlt : n < UInt32.size := Nat.lt_of_le_of_lt hmost limits.most.amps.toNat_lt
  rw [hc, UInt32.le_iff_toNat_le, UInt32.le_iff_toNat_le, UInt32.toNat_ofNat_of_lt' hlt]
  exact ⟨hleast, hmost⟩

theorem automaticSetpoint_allowed {limits : CurrentLimits} (h : limits.Ordered) (s : Snapshot) :
    limits.Allows (automaticSetpoint s limits) := by
  unfold automaticSetpoint
  split
  · dsimp only
    split
    · exact Or.inr ⟨UInt32.le_refl _, h⟩
    · exact Or.inr (limitedCurrent_between h _ _)
  · exact Or.inl rfl

/-- A snapshot with all that the automatic mode goes by. -/
def Snapshot.Suffices (s : Snapshot) : Prop :=
  s.gridPower.isSome ∧ s.gridVoltage.isSome ∧ s.chargerPower.isSome

theorem automaticSetpoint_of_not_suffices {s : Snapshot} (h : ¬ s.Suffices)
    (limits : CurrentLimits) : automaticSetpoint s limits = .zero := by
  unfold automaticSetpoint
  split
  · next hgrid hvoltage hcharger =>
    refine absurd ⟨?_, ?_, ?_⟩ h
    · rw [hgrid]; rfl
    · rw [hvoltage]; rfl
    · rw [hcharger]; rfl
  · rfl

/-! ## Whole runs -/

namespace Journal

variable {ω : Type} {limits : CurrentLimits} {start : Timestamp} {operations : List Operation}
  {j : Journal ω}

/-- What holds of the journal of some operations on a loop that was started with the given
limits. -/
structure Sound (limits : CurrentLimits) (start : Timestamp) (operations : List Operation)
    (j : Journal ω) : Prop where
  limits_eq : j.manager.panel.limits = limits
  automatic : Operation.manual? operations = none → j.manager.panel.mode = .auto
  manual : ∀ c, Operation.manual? operations = some c →
    j.manager.panel.mode = .manual ∧ j.manager.panel.setpoint = limits.nearest c
  allowed : limits.Allows j.manager.panel.setpoint
  latest_eq : j.manager.latest.value =
    (j.outcomes.getLast?.map (·.snapshot)).getD (.empty start)

theorem sound_fresh (limits : CurrentLimits) (devices : ω) (start : Timestamp) :
    Sound limits start [] ⟨[], .fresh limits devices start⟩ where
  limits_eq := rfl
  automatic _ := rfl
  manual _ h := by cases h
  allowed := Or.inl rfl
  latest_eq := rfl

namespace Sound

theorem runCycle_auto (h : Sound limits start operations j) (d : Devices ω) (now : Timestamp)
    (hmode : j.manager.panel.mode = .auto) :
    (j.manager.runCycle d now).1 = automaticSetpoint (d.poll now j.manager.devices).1 limits := by
  show setpoint j.manager.panel.mode _ _ j.manager.panel.limits = _
  rw [hmode, h.limits_eq]
  rfl

theorem runCycle_manual (h : Sound limits start operations j) (d : Devices ω) (now : Timestamp)
    {c : Current} (hc : Operation.manual? operations = some c) :
    (j.manager.runCycle d now).1 = limits.nearest c := by
  obtain ⟨hmode, hsetpoint⟩ := h.manual c hc
  show setpoint j.manager.panel.mode j.manager.panel.setpoint _ _ = _
  rw [hmode, hsetpoint]
  rfl

theorem runCycle_allowed (h : Sound limits start operations j) (hlimits : limits.Ordered)
    (d : Devices ω) (now : Timestamp) : limits.Allows (j.manager.runCycle d now).1 := by
  cases hmanual : Operation.manual? operations with
  | none =>
    rw [h.runCycle_auto d now (h.automatic hmanual)]
    exact automaticSetpoint_allowed hlimits _
  | some c =>
    rw [h.runCycle_manual d now hmanual]
    exact CurrentLimits.nearest_allowed hlimits c

/-- Every operation can be carried out, and what holds of the journal still does after it. -/
theorem after (h : Sound limits start operations j) (hlimits : limits.Ordered) (d : Devices ω)
    (op : Operation) :
    ∃ j', j.after? d op = some j' ∧ Sound limits start (operations ++ [op]) j' := by
  cases op with
  | setAuto =>
    refine ⟨_, rfl, h.limits_eq, fun _ => rfl, ?_, h.allowed, h.latest_eq⟩
    intro c hc
    rw [Operation.manual?_concat] at hc
    cases hc
  | setManual c =>
    have hpanel : j.manager.panel.setManual? c =
        some ((j.manager.panel.storeSetpoint (limits.nearest c)).storeMode .manual) := by
      unfold Panel.setManual?
      rw [h.limits_eq, CurrentLimits.held?_eq hlimits]
      rfl
    have hmanual : Operation.manual? (operations ++ [.setManual c]) = some c :=
      Operation.manual?_concat _ _
    refine ⟨_, congrArg (Option.map _) hpanel, h.limits_eq, ?_, ?_,
      CurrentLimits.nearest_allowed hlimits c, h.latest_eq⟩
    · intro hnone
      rw [hmanual] at hnone
      cases hnone
    · intro c' hc'
      rw [hmanual] at hc'
      cases hc'
      exact ⟨rfl, rfl⟩
  | cycle now =>
    have hmanual : Operation.manual? (operations ++ [.cycle now]) =
        Operation.manual? operations := Operation.manual?_concat _ _
    refine ⟨_, rfl, h.limits_eq, ?_, ?_, h.runCycle_allowed hlimits d now, ?_⟩
    · rw [hmanual]
      exact h.automatic
    · intro c hc
      rw [hmanual] at hc
      exact ⟨(h.manual c hc).1, h.runCycle_manual d now hc⟩
    · dsimp only
      rw [List.getLast?_concat]
      rfl

end Sound

/-- Every run can be carried out to its end. -/
theorem exists_run (hlimits : limits.Ordered) (d : Devices ω) (devices : ω) (start : Timestamp)
    (operations : List Operation) :
    ∃ j, run? d (.fresh limits devices start) operations = some j ∧
      Sound limits start operations j := by
  induction operations using List.reverseRecOn with
  | nil => exact ⟨_, rfl, sound_fresh limits devices start⟩
  | append_singleton operations op ih =>
    obtain ⟨j, hj, hsound⟩ := ih
    obtain ⟨j', hj', hsound'⟩ := hsound.after hlimits d op
    refine ⟨j', ?_, hsound'⟩
    rw [run?_concat, hj]
    exact hj'

end Journal

/-! ## The main result -/

/-- The control loop over a whole run, with limits from the settings and whatever the devices do.
Every operation can be carried out. What is asked of the charger is what the cycles return, one
current for each cycle; it is what the panel shows after the cycle, and it is zero or within the
limits. In manual mode it is the current that the operator has asked for last, or the nearest within
the limits. In automatic mode it is zero if a reading that is needed is absent. The snapshot that is
published is that of the last cycle. What is said of the next cycle after any operations holds of
each cycle of a run. -/
theorem charger_commanded {ω : Type} (settings : Settings.Energy) {limits : CurrentLimits}
    (hlimits : settings.limits = .ok limits) (d : Devices ω) (devices : ω) (start : Timestamp)
    (operations : List Operation) :
    ∃ j, Journal.run? d (.fresh limits devices start) operations = some j ∧
      (Journal.run? d.logged (.fresh limits (devices, []) start) operations).map
        (·.manager.devices.2) = some (j.outcomes.map (·.setpoint)) ∧
      limits.Allows j.manager.panel.setpoint ∧
      (Operation.manual? operations = none → j.manager.panel.mode = .auto) ∧
      (∀ c, Operation.manual? operations = some c →
        j.manager.panel.mode = .manual ∧ j.manager.panel.setpoint = limits.nearest c ∧
          ∀ now, (j.manager.outcome d now).setpoint = limits.nearest c) ∧
      (∀ now, j.manager.panel.mode = .auto → ¬ (j.manager.outcome d now).snapshot.Suffices →
        (j.manager.outcome d now).setpoint = .zero) ∧
      (∀ now, limits.Allows (j.manager.outcome d now).setpoint ∧
        (j.manager.runCycle d now).2.panel.setpoint = (j.manager.outcome d now).setpoint ∧
        (j.manager.runCycle d now).2.latest.value = (j.manager.outcome d now).snapshot) ∧
      j.manager.latest.value = (j.outcomes.getLast?.map (·.snapshot)).getD (.empty start) := by
  have hordered := Settings.Energy.limits_ordered hlimits
  obtain ⟨j, hj, hsound⟩ := Journal.exists_run hordered d devices start operations
  refine ⟨j, hj, ?_, hsound.allowed, hsound.automatic, ?_, ?_, ?_, hsound.latest_eq⟩
  · have hlogged := Journal.run?_logged d (.fresh limits devices start) operations
    rw [hj] at hlogged
    exact congrArg (Option.map (·.manager.devices.2)) hlogged
  · intro c hc
    obtain ⟨hmode, hsetpoint⟩ := hsound.manual c hc
    exact ⟨hmode, hsetpoint, fun now => hsound.runCycle_manual d now hc⟩
  · intro now hmode habsent
    show (j.manager.runCycle d now).1 = .zero
    rw [hsound.runCycle_auto d now hmode]
    exact automaticSetpoint_of_not_suffices habsent limits
  · intro now
    exact ⟨hsound.runCycle_allowed hordered d now, rfl, rfl⟩

/-- Devices of which only the grid meter and the charger can be read, and the grid meter only every
other time. They count what is asked of the charger. -/
def flickering : Devices Nat where
  grid :=
    { update := fun n => (if n % 2 = 0 then .ok () else .error (unanswered "grid"), n)
      reading := fun _ => some ⟨⟨500⟩, ⟨230⟩⟩ }
  charger := { update := fun n => (.ok (), n), reading := fun _ => some ⟨3000⟩ }
  setMaxCurrent _ n := (.error (unanswered "charger"), n + 1)
  heatPump := { update := fun n => (.error (unanswered "heat pump"), n), reading := fun _ => none }
  solar := none
  battery := none

theorem charger_commanded_flickering :
    let limits : CurrentLimits := ⟨⟨6⟩, ⟨16⟩⟩
    let now : Timestamp := ⟨0, 0, 0⟩
    let operations : List Operation := [.cycle now, .cycle now, .setManual ⟨40⟩, .cycle now]
    (Settings.Energy.ofTexts [("maxcurrent", "16")]).limits = .ok limits ∧
    Operation.manual? operations = some ⟨40⟩ ∧
    ∃ j, Journal.run? flickering (.fresh limits 0 now) operations = some j ∧
      (Journal.run? flickering.logged (.fresh limits (0, []) now) operations).map
        (·.manager.devices.2) = some (j.outcomes.map (·.setpoint)) ∧
      (j.manager.outcome flickering now).setpoint = ⟨16⟩ := by
  intro limits now operations
  have hlimits : (Settings.Energy.ofTexts [("maxcurrent", "16")]).limits = .ok limits := by cbv
  have hmanual : Operation.manual? operations = some ⟨40⟩ := rfl
  obtain ⟨j, hj, hlog, -, -, hheld, -⟩ :=
    charger_commanded _ hlimits flickering 0 now operations
  exact ⟨hlimits, hmanual, j, hj, hlog, (hheld _ hmanual).2.2 now⟩

end HomeEnergy.Control

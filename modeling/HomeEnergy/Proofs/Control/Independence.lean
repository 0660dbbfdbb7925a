import HomeEnergy.Proofs.Control.Setpoints

/-!
What the charger depends on. Heat pump, solar inverter and battery are polled, logged and published
together with the grid meter and the charger, but they have no say in what is asked of the charger.

This is a statement on two runs, which may be over quite different devices. Their inputs are the
operator's calls and, for each cycle, what has come of the grid meter and of the charger
(`Journal.inputs`). Runs with the same inputs stay alike in all that has to do with the charger:
`Journal.Alike.after` is the step, `Journal.Alike.run` the run.
-/

namespace HomeEnergy.Control

/-! ## Inputs -/

/-- What an operation goes by. -/
inductive Input where
  | setAuto
  | setManual (c : Current)
  | cycle (grid : Option GridReading) (charger : Option Power)
deriving DecidableEq

/-- What a poll of all devices gets from the grid meter and the charger. -/
def Devices.input {ω : Type} (d : Devices ω) (w : ω) : Input :=
  let (grid, w) := d.grid.poll w
  .cycle grid (d.charger.poll w).1

namespace Journal

variable {ω : Type}

def input (d : Devices ω) (j : Journal ω) : Operation → Input
  | .setAuto => .setAuto
  | .setManual c => .setManual c
  | .cycle _ => d.input j.manager.devices

/-- The inputs of a run, up to an operation that cannot be carried out. -/
def inputs (d : Devices ω) : Journal ω → List Operation → List Input
  | _, [] => []
  | j, op :: rest => j.input d op :: ((j.after? d op).map fun j => inputs d j rest).getD []

end Journal

/-! ## What the charger is controlled by -/

/-- The readings of the grid meter and the charger. -/
def Snapshot.metered (s : Snapshot) : Option Power × Option Voltage × Option Power :=
  (s.gridPower, s.gridVoltage, s.chargerPower)

theorem setpoint_metered {s₁ s₂ : Snapshot} (h : s₁.metered = s₂.metered) (mode : Mode)
    (held : Current) (limits : CurrentLimits) :
    setpoint mode held s₁ limits = setpoint mode held s₂ limits := by
  simp only [Snapshot.metered, Prod.mk.injEq] at h
  obtain ⟨hpower, hvoltage, hcharger⟩ := h
  unfold setpoint automaticSetpoint
  rw [hpower, hvoltage, hcharger]

section

variable {ω₁ ω₂ : Type} {d₁ : Devices ω₁} {d₂ : Devices ω₂}

theorem metered_poll {w₁ : ω₁} {w₂ : ω₂} (h : d₁.input w₁ = d₂.input w₂) (now₁ now₂ : Timestamp) :
    (d₁.poll now₁ w₁).1.metered = (d₂.poll now₂ w₂).1.metered := by
  simp only [Devices.input, Input.cycle.injEq] at h
  obtain ⟨hgrid, hcharger⟩ := h
  simp only [Snapshot.metered, Devices.poll, hgrid, hcharger]

/-- All of an outcome that has to do with the charger. -/
def Outcome.charging (o : Outcome) :
    Mode × (Option Power × Option Voltage × Option Power) × Current :=
  (o.mode, o.snapshot.metered, o.setpoint)

/-! ## Two runs -/

namespace Journal

/-- Two journals that differ at most in what has nothing to do with the charger. -/
structure Alike (j₁ : Journal ω₁) (j₂ : Journal ω₂) : Prop where
  panel : j₁.manager.panel = j₂.manager.panel
  outcomes : j₁.outcomes.map (·.charging) = j₂.outcomes.map (·.charging)
  published : j₁.manager.latest.value.metered = j₂.manager.latest.value.metered

namespace Alike

variable {j₁ : Journal ω₁} {j₂ : Journal ω₂}

theorem commands (h : j₁.Alike j₂) :
    j₁.outcomes.map (·.setpoint) = j₂.outcomes.map (·.setpoint) := by
  have hcharging := congrArg (List.map (·.2.2)) h.outcomes
  rw [List.map_map, List.map_map] at hcharging
  exact hcharging

theorem charging_outcome (h : j₁.Alike j₂)
    (hinput : d₁.input j₁.manager.devices = d₂.input j₂.manager.devices) (now₁ now₂ : Timestamp) :
    (j₁.manager.outcome d₁ now₁).charging = (j₂.manager.outcome d₂ now₂).charging := by
  have hmetered := metered_poll hinput now₁ now₂
  have hsetpoint : (j₁.manager.runCycle d₁ now₁).1 = (j₂.manager.runCycle d₂ now₂).1 := by
    unfold Manager.runCycle
    dsimp only
    rw [h.panel]
    exact setpoint_metered hmetered _ _ _
  simp only [Outcome.charging, Manager.outcome, h.panel, hmetered, hsetpoint]

theorem after (h : j₁.Alike j₂) {op₁ op₂ : Operation} (hinput : j₁.input d₁ op₁ = j₂.input d₂ op₂) :
    Option.Rel Alike (j₁.after? d₁ op₁) (j₂.after? d₂ op₂) := by
  cases op₁ with
  | setAuto =>
    cases op₂ with
    | setAuto => exact .some ⟨congrArg Panel.setAuto h.panel, h.outcomes, h.published⟩
    | setManual c => cases hinput
    | cycle now => cases hinput
  | setManual c =>
    cases op₂ with
    | setAuto => cases hinput
    | setManual c' =>
      cases hinput
      show Option.Rel Alike (Option.map _ (j₁.manager.panel.setManual? c)) (Option.map _ _)
      rw [h.panel]
      cases j₂.manager.panel.setManual? c with
      | none => exact .none
      | some panel => exact .some ⟨rfl, h.outcomes, h.published⟩
    | cycle now => cases hinput
  | cycle now₁ =>
    cases op₂ with
    | setAuto => cases hinput
    | setManual c => cases hinput
    | cycle now₂ =>
      have houtcome := h.charging_outcome hinput now₁ now₂
      refine .some ⟨?_, ?_, metered_poll hinput now₁ now₂⟩
      · have hsetpoint : (j₁.manager.runCycle d₁ now₁).1 = (j₂.manager.runCycle d₂ now₂).1 :=
          congrArg (·.2.2) houtcome
        show j₁.manager.panel.storeSetpoint (j₁.manager.runCycle d₁ now₁).1 =
          j₂.manager.panel.storeSetpoint (j₂.manager.runCycle d₂ now₂).1
        rw [h.panel, hsetpoint]
      · simp only [List.map_append, List.map_cons, List.map_nil, h.outcomes, houtcome]

theorem map_commands {j₁? : Option (Journal ω₁)} {j₂? : Option (Journal ω₂)}
    (h : Option.Rel Alike j₁? j₂?) :
    (j₁?.map fun j => j.outcomes.map (·.setpoint)) =
      j₂?.map fun j => j.outcomes.map (·.setpoint) := by
  cases h with
  | none => rfl
  | some halike => exact congrArg some halike.commands

/-- Runs with the same inputs can be carried out equally far, and are alike after every number of
operations. -/
theorem run (h : j₁.Alike j₂) {operations₁ operations₂ : List Operation}
    (hinputs : inputs d₁ j₁ operations₁ = inputs d₂ j₂ operations₂) (n : Nat) :
    Option.Rel Alike ((operations₁.take n).foldlM (after? d₁) j₁)
      ((operations₂.take n).foldlM (after? d₂) j₂) := by
  induction operations₁ generalizing operations₂ j₁ j₂ n with
  | nil =>
    cases operations₂ with
    | nil =>
      rw [List.take_nil]
      exact .some h
    | cons op₂ rest₂ => cases hinputs
  | cons op₁ rest₁ ih =>
    cases operations₂ with
    | nil => cases hinputs
    | cons op₂ rest₂ =>
      obtain ⟨hinput, hrest⟩ := List.cons.inj hinputs
      cases n with
      | zero => exact .some h
      | succ n =>
        rw [List.take_succ_cons, List.take_succ_cons, List.foldlM_cons, List.foldlM_cons]
        have hafter := h.after hinput
        generalize j₁.after? d₁ op₁ = after₁ at hrest hafter ⊢
        generalize j₂.after? d₂ op₂ = after₂ at hrest hafter ⊢
        cases hafter with
        | none => exact .none
        | some halike => exact ih halike hrest n

end Alike

end Journal

end

/-! ## The main result -/

/-- Two runs with the same limits, over whatever devices, but with the same calls of the operator
and the same that has come of grid meter and charger in each cycle. After every number of
operations, mode and setpoint are the same, and so is all that was published of grid meter and
charger; and the same currents have been asked of the charger. -/
theorem charger_independent {ω₁ ω₂ : Type} {d₁ : Devices ω₁} {d₂ : Devices ω₂}
    {limits : CurrentLimits} {devices₁ : ω₁} {devices₂ : ω₂} {start₁ start₂ : Timestamp}
    {operations₁ operations₂ : List Operation}
    (hinputs : Journal.inputs d₁ ⟨[], .fresh limits devices₁ start₁⟩ operations₁ =
      Journal.inputs d₂ ⟨[], .fresh limits devices₂ start₂⟩ operations₂) (n : Nat) :
    Option.Rel Journal.Alike
      (Journal.run? d₁ (.fresh limits devices₁ start₁) (operations₁.take n))
      (Journal.run? d₂ (.fresh limits devices₂ start₂) (operations₂.take n)) ∧
    (Journal.run? d₁.logged (.fresh limits (devices₁, []) start₁) (operations₁.take n)).map
        (·.manager.devices.2) =
      (Journal.run? d₂.logged (.fresh limits (devices₂, []) start₂) (operations₂.take n)).map
        (·.manager.devices.2) := by
  have hfresh : Journal.Alike (⟨[], .fresh limits devices₁ start₁⟩ : Journal ω₁)
      (⟨[], .fresh limits devices₂ start₂⟩ : Journal ω₂) := ⟨rfl, rfl, rfl⟩
  have hrun := hfresh.run hinputs n
  refine ⟨hrun, ?_⟩
  calc (Journal.run? d₁.logged (.fresh limits (devices₁, []) start₁) (operations₁.take n)).map
        (·.manager.devices.2)
      = (Journal.run? d₁ (.fresh limits devices₁ start₁) (operations₁.take n)).map
          fun j => j.outcomes.map (·.setpoint) :=
        Journal.commands_run? d₁ (.fresh limits devices₁ start₁) _
    _ = (Journal.run? d₂ (.fresh limits devices₂ start₂) (operations₂.take n)).map
          fun j => j.outcomes.map (·.setpoint) := Journal.Alike.map_commands hrun
    _ = _ := (Journal.commands_run? d₂ (.fresh limits devices₂ start₂) _).symm

/-- Devices like `flickering`, but with a heat pump that answers, a solar inverter, and a battery
that does not answer. -/
def equipped : Devices Nat :=
  { flickering with
    heatPump := { update := fun n => (.ok (), n), reading := fun n => some ⟨Int32.ofNat n⟩ }
    solar := some { update := fun n => (.ok (), n), reading := fun _ => some ⟨2500⟩ }
    battery := some
      { update := fun n => (.error (unanswered "battery"), n), reading := fun _ => none } }

theorem charger_independent_equipped :
    let limits : CurrentLimits := ⟨⟨6⟩, ⟨16⟩⟩
    let operations (now : Timestamp) : List Operation :=
      [.cycle now, .cycle now, .setManual ⟨9⟩, .cycle now]
    let run (d : Devices Nat) (now : Timestamp) :=
      Journal.run? d.logged (.fresh limits (0, []) now) ((operations now).take 4)
    Journal.inputs flickering ⟨[], .fresh limits 0 ⟨0, 0, 0⟩⟩ (operations ⟨0, 0, 0⟩) =
      Journal.inputs equipped ⟨[], .fresh limits 0 ⟨1, 0, 0⟩⟩ (operations ⟨1, 0, 0⟩) ∧
    (run flickering ⟨0, 0, 0⟩).map (·.manager.devices.2) =
      (run equipped ⟨1, 0, 0⟩).map (·.manager.devices.2) ∧
    (run flickering ⟨0, 0, 0⟩).map (·.manager.latest.value.solarPower) ≠
      (run equipped ⟨1, 0, 0⟩).map (·.manager.latest.value.solarPower) := by
  intro limits operations run
  have hinputs : Journal.inputs flickering ⟨[], .fresh limits 0 ⟨0, 0, 0⟩⟩ (operations ⟨0, 0, 0⟩) =
      Journal.inputs equipped ⟨[], .fresh limits 0 ⟨1, 0, 0⟩⟩ (operations ⟨1, 0, 0⟩) := rfl
  refine ⟨hinputs, (charger_independent hinputs 4).2, ?_⟩
  have hnone : (run flickering ⟨0, 0, 0⟩).map (·.manager.latest.value.solarPower) = some none := rfl
  have hsome : (run equipped ⟨1, 0, 0⟩).map (·.manager.latest.value.solarPower) =
      some (some ⟨2500⟩) := rfl
  rw [hnone, hsome]
  decide

end HomeEnergy.Control

import HomeEnergy.Control.Manager
import Mathlib

/-!
Runs of the control loop: what is done with it by the operator and by itself, one whole operation
after another, and the journal of what its cycles have seen and done.

`Devices.logged` writes down what is asked of the charger. A run over logged devices is the run over
the devices themselves, with the currents that its cycles returned in the log (`run?_logged`).
-/

namespace HomeEnergy.Control

open Device (Source)

inductive Operation where
  | setAuto
  | setManual (c : Current)
  | cycle (now : Timestamp)
deriving DecidableEq

namespace Operation

/-- What an operation makes of the current that the operator holds the charger at, if any. -/
def holds : Option Current → Operation → Option Current
  | _, .setAuto => none
  | _, .setManual c => some c
  | held, .cycle _ => held

/-- The current that was asked for by the last call for manual mode, unless a call for automatic
mode came after it. -/
def manual? (operations : List Operation) : Option Current := operations.foldl holds none

theorem manual?_concat (operations : List Operation) (op : Operation) :
    manual? (operations ++ [op]) = holds (manual? operations) op := by
  unfold manual?
  rw [List.foldl_append, List.foldl_cons, List.foldl_nil]

end Operation

/-! ## The journal of a run -/

/-- What a cycle has seen, and the current that it returns. -/
structure Outcome where
  mode : Mode
  snapshot : Snapshot
  setpoint : Current
deriving DecidableEq

def Manager.outcome {ω : Type} (m : Manager ω) (d : Devices ω) (now : Timestamp) : Outcome :=
  ⟨m.panel.mode, (d.poll now m.devices).1, (m.runCycle d now).1⟩

/-- A control loop with the outcomes of its cycles so far. -/
structure Journal (ω : Type) where
  outcomes : List Outcome
  manager : Manager ω

namespace Journal

variable {ω : Type}

/-- The journal after an operation; there is none if the operation cannot be carried out. -/
def after? (d : Devices ω) (j : Journal ω) : Operation → Option (Journal ω)
  | .setAuto => some { j with manager.panel := j.manager.panel.setAuto }
  | .setManual c =>
    (j.manager.panel.setManual? c).map fun panel => { j with manager.panel := panel }
  | .cycle now => some ⟨j.outcomes ++ [j.manager.outcome d now], (j.manager.runCycle d now).2⟩

def run? (d : Devices ω) (m : Manager ω) (operations : List Operation) : Option (Journal ω) :=
  operations.foldlM (after? d) ⟨[], m⟩

theorem run?_concat (d : Devices ω) (m : Manager ω) (operations : List Operation)
    (op : Operation) :
    run? d m (operations ++ [op]) = (run? d m operations).bind fun j => j.after? d op := by
  unfold run?
  rw [List.foldlM_append]
  refine congrArg (Option.bind _) (funext fun j => ?_)
  rw [List.foldlM_cons]
  exact bind_pure _

end Journal

/-! ## Writing down what is asked of the charger -/

/-- Devices that besides write down each current that is asked of the charger. -/
def Devices.logged {ω : Type} (d : Devices ω) : Devices (ω × List Current) where
  grid := d.grid.within Prod.fst fun w s => (w, s.2)
  charger := d.charger.within Prod.fst fun w s => (w, s.2)
  setMaxCurrent c s := ((d.setMaxCurrent c s.1).1, (d.setMaxCurrent c s.1).2, s.2 ++ [c])
  heatPump := d.heatPump.within Prod.fst fun w s => (w, s.2)
  solar := d.solar.map (·.within Prod.fst fun w s => (w, s.2))
  battery := d.battery.map (·.within Prod.fst fun w s => (w, s.2))

section Logged

variable {ω : Type}

theorem poll_logged (d : Devices ω) (now : Timestamp) (w : ω) (log : List Current) :
    d.logged.poll now (w, log) = ((d.poll now w).1, (d.poll now w).2, log) := by
  simp only [Devices.poll, Devices.logged, Source.poll_within, pollIfPresent_within, implies_true]

def Manager.withLog (m : Manager ω) (log : List Current) : Manager (ω × List Current) :=
  ⟨m.panel, (m.devices, log), m.latest⟩

/-- A cycle asks one thing of the charger, and that is what it returns. -/
theorem runCycle_logged (d : Devices ω) (now : Timestamp) (m : Manager ω) (log : List Current) :
    (m.withLog log).runCycle d.logged now =
      ((m.runCycle d now).1, (m.runCycle d now).2.withLog (log ++ [(m.runCycle d now).1])) := by
  simp only [Manager.runCycle, Manager.withLog, poll_logged]
  rfl

theorem outcome_logged (d : Devices ω) (now : Timestamp) (m : Manager ω) (log : List Current) :
    (m.withLog log).outcome d.logged now = m.outcome d now := by
  unfold Manager.outcome
  rw [runCycle_logged]
  simp only [Manager.withLog, poll_logged]

namespace Journal

def logged (j : Journal ω) : Journal (ω × List Current) :=
  ⟨j.outcomes, j.manager.withLog (j.outcomes.map (·.setpoint))⟩

theorem after?_logged (d : Devices ω) (j : Journal ω) (op : Operation) :
    j.logged.after? d.logged op = (j.after? d op).map logged := by
  cases op with
  | setAuto => rfl
  | setManual c =>
    show Option.map _ (j.manager.panel.setManual? c) = _
    unfold after?
    rw [Option.map_map]
    rfl
  | cycle now =>
    unfold after? logged
    dsimp only
    rw [outcome_logged, runCycle_logged, Option.map_some, List.map_append]
    rfl

theorem run?_logged (d : Devices ω) (m : Manager ω) (operations : List Operation) :
    run? d.logged (m.withLog []) operations = (run? d m operations).map logged := by
  induction operations using List.reverseRecOn with
  | nil => rfl
  | append_singleton operations op ih =>
    rw [run?_concat, run?_concat, ih]
    cases run? d m operations with
    | none => rfl
    | some j => exact after?_logged d j op

/-- What has been asked of the charger is what the cycles return. -/
theorem commands_run? (d : Devices ω) (m : Manager ω) (operations : List Operation) :
    (run? d.logged (m.withLog []) operations).map (·.manager.devices.2) =
      (run? d m operations).map fun j => j.outcomes.map (·.setpoint) := by
  rw [run?_logged, Option.map_map]
  rfl

end Journal

end Logged

def unanswered (host : String) : Bus.Fault := ⟨host, .failure "no answer"⟩

end HomeEnergy.Control

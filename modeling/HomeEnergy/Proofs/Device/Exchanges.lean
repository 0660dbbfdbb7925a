import HomeEnergy.Control.Home
import HomeEnergy.Proofs.Bus.Footprint

/-!
What the exchanges with the devices of a home ask for, and what becomes of them if the lines keep
journals: nothing but the journals.
-/

namespace HomeEnergy

open Bus (Exchange Line)

/-! ## Single devices -/

namespace Device

variable {κ τ ω ρ α : Type}

theorem Charger.asks_power (line : Line τ ω) (r : ChargerRegisters) :
    (Charger.power line.journaled r).Asks (.readInput r.totalPower 2) :=
  (Exchange.Asks.execute line _).bind fun _ =>
    (Exchange.Silent.decoded _ _ _).bind fun _ => Exchange.Silent.pure _

theorem Charger.asks_setMaxCurrent (line : Line τ ω) (c : Current) (r : ChargerRegisters) :
    (Charger.setMaxCurrent line.journaled c r).Asks
      (.writeSingle r.maxCurrent (Charger.wordOfCurrent c)) := Exchange.Asks.write line _

theorem Charger.asks_keepAlive (line : Line τ ω) (r : ChargerRegisters) :
    (Charger.keepAlive line.journaled r).Asks (.writeSingle r.keepAlive 1) :=
  Exchange.Asks.write line _

theorem Charger.mirrors_power (line : Line τ ω) (r : ChargerRegisters) :
    (Charger.power line.journaled r).Mirrors (Charger.power line r) :=
  (Exchange.Mirrors.execute line _).bind fun _ =>
    (Exchange.Mirrors.decoded line _ _).bind fun _ => Exchange.Mirrors.pure _

theorem Charger.mirrors_setMaxCurrent (line : Line τ ω) (c : Current) (r : ChargerRegisters) :
    (Charger.setMaxCurrent line.journaled c r).Mirrors (Charger.setMaxCurrent line c r) :=
  Exchange.Mirrors.write line _

theorem Charger.mirrors_keepAlive (line : Line τ ω) (r : ChargerRegisters) :
    (Charger.keepAlive line.journaled r).Mirrors (Charger.keepAlive line r) :=
  Exchange.Mirrors.write line _

theorem HeatPump.mirrors_power (line : Line τ ω) (r : HeatPumpRegisters) :
    (HeatPump.power line.journaled r).Mirrors (HeatPump.power line r) :=
  (Exchange.Mirrors.execute line _).bind fun _ =>
    (Exchange.Mirrors.decoded line _ _).bind fun _ => Exchange.Mirrors.pure _

theorem Solar.mirrors_power (line : Line τ ω) (r : SolarRegisters) :
    (Solar.power line.journaled r).Mirrors (Solar.power line r) :=
  (Exchange.Mirrors.execute line _).bind fun _ =>
    (Exchange.Mirrors.decoded line _ _).bind fun _ => Exchange.Mirrors.pure _

theorem Battery.mirrors_number (line : Line τ ω) (address : UInt16) :
    (Battery.number line.journaled address).Mirrors (Battery.number line address) :=
  (Exchange.Mirrors.execute line _).bind fun _ =>
    (Exchange.Mirrors.decoded line _ _).bind fun _ => Exchange.Mirrors.pure _

theorem Battery.mirrors_amount (line : Line τ ω) (address : UInt16) :
    (Battery.amount line.journaled address).Mirrors (Battery.amount line address) :=
  (Exchange.Mirrors.execute line _).bind fun _ => Exchange.Mirrors.decoded line _ _

theorem Battery.mirrors_reading (line : Line τ ω) (r : BatteryRegisters) :
    (Battery.reading line.journaled r).Mirrors (Battery.reading line r) :=
  (mirrors_number line _).bind fun _ => (mirrors_number line _).bind fun _ =>
    (mirrors_number line _).bind fun _ => (mirrors_amount line _).bind fun _ =>
      Exchange.Mirrors.pure _

/-- The adapter without the numbers of its client's sessions. -/
def Adapter.plain (a : Adapter κ (Nat × τ) ρ) : Adapter κ τ ρ :=
  ⟨a.registers, a.client.plain, a.reading⟩

end Device

namespace Control

open Device

/-! ## Devices behind their lines -/

namespace Attached

variable {κ τ ω ρ α : Type}

/-- The device without its journal. -/
def plain (a : Attached κ (Nat × τ) (ω × Bus.Journal) ρ) : Attached κ τ ω ρ :=
  ⟨a.adapter.plain, a.world.1⟩

theorem perform_plain {act : κ → Exchange (Nat × τ) (ω × Bus.Journal) α} {bare : κ → Exchange τ ω α}
    (h : ∀ r, (act r).Mirrors (bare r)) (a : Attached κ (Nat × τ) (ω × Bus.Journal) ρ) :
    a.plain.perform bare = ((a.perform act).1, (a.perform act).2.plain) := by
  have hbare := h a.adapter.registers a.adapter.client a.world.1 a.world.2
  rcases hact : act a.adapter.registers (a.adapter.client, a.world) with ⟨result, client, w, j⟩
  rw [hact] at hbare
  simp only [perform, Adapter.perform, plain, Adapter.plain, hact, hbare]

theorem update_plain {act : κ → Exchange (Nat × τ) (ω × Bus.Journal) ρ} {bare : κ → Exchange τ ω ρ}
    (h : ∀ r, (act r).Mirrors (bare r)) (a : Attached κ (Nat × τ) (ω × Bus.Journal) ρ) :
    (source bare).update a.plain =
      (((source act).update a).1, ((source act).update a).2.plain) := by
  have hbare := h a.adapter.registers a.adapter.client a.world.1 a.world.2
  rcases hact : act a.adapter.registers (a.adapter.client, a.world) with
    ⟨fault | reading, client, w, j⟩ <;>
    rw [hact] at hbare <;>
    simp only [source, Adapter.update, Adapter.perform, plain, Adapter.plain, hact, hbare]

theorem poll_plain {act : κ → Exchange (Nat × τ) (ω × Bus.Journal) ρ} {bare : κ → Exchange τ ω ρ}
    (h : ∀ r, (act r).Mirrors (bare r)) (a : Attached κ (Nat × τ) (ω × Bus.Journal) ρ) :
    (source bare).poll a.plain = (((source act).poll a).1, ((source act).poll a).2.plain) := by
  unfold Source.poll
  rw [update_plain h a]
  rcases (source act).update a with ⟨_ | _, a'⟩
  · rfl
  · rfl

/-- An update leaves the world as the exchange does, and the registers as they are. It goes well if
the exchange does, and only then is there another reading. -/
theorem update_eq_perform (poll : κ → Exchange τ ω ρ) (a : Attached κ τ ω ρ) :
    let updated := (source poll).update a
    updated.1.isOk = (a.perform poll).1.isOk ∧ updated.2.world = (a.perform poll).2.world ∧
      updated.2.adapter.registers = a.adapter.registers ∧
      (updated.2.adapter.reading = a.adapter.reading ∨ updated.1.isOk) := by
  rcases h : poll a.adapter.registers (a.adapter.client, a.world) with ⟨_ | _, client, w⟩
  · simp only [source, perform, Adapter.update, Adapter.perform, h, true_or, and_true]
    rfl
  · simp only [source, perform, Adapter.update, Adapter.perform, h, true_and]
    exact ⟨rfl, .inr rfl⟩

/-- A poll leaves the world as the exchange does, and the registers as they are. -/
theorem poll_eq_perform (poll : κ → Exchange τ ω ρ) (a : Attached κ τ ω ρ) :
    ((source poll).poll a).2.world = (a.perform poll).2.world ∧
      ((source poll).poll a).2.adapter.registers = a.adapter.registers := by
  obtain ⟨-, hworld, hregisters, -⟩ := update_eq_perform poll a
  unfold Source.poll
  rcases hupdate : (source poll).update a with ⟨_ | _, a'⟩ <;>
    rw [hupdate] at hworld hregisters <;>
    exact ⟨hworld, hregisters⟩

/-- An exchange that asks for one operation leaves in the journal what that operation writes. -/
theorem writes_perform {act : κ → Exchange (Nat × τ) (ω × Bus.Journal) α} {op : Bus.Operation}
    (a : Attached κ (Nat × τ) (ω × Bus.Journal) ρ) (h : (act a.adapter.registers).Asks op) :
    ∃ k ≤ 2, ((a.perform act).1.isOk → 0 < k) ∧ (a.perform act).2.world.2.writes =
      a.world.2.writes ++ op.written?.toList.flatMap (List.replicate k) := by
  obtain ⟨k, hk, hok, hasked⟩ := h a.adapter.client a.world.1 a.world.2
  exact ⟨k, hk, hok, Bus.Journal.writes_eq_of_asked hasked⟩

end Attached

end Control

end HomeEnergy

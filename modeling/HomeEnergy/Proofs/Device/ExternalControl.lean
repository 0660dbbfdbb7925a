import HomeEnergy.Proofs.Bus.Turns
import HomeEnergy.Proofs.Bus.Words
import HomeEnergy.Proofs.Device.Exchanges

/-!
Asking a battery for a power. There are two steps, each of them a write that is tried at most twice:
external control is enabled, and then, only if that has gone well, the power is set
(`power_set_once_enabled`). A battery to which no session can be opened is not asked for anything
(`power_unasked`).
-/

namespace HomeEnergy

open Bus (Exchange Fault Line Logged Operation Turn Word natOfWords)

namespace Device.Battery

variable {τ ω : Type}

/-- The write that enables external control. -/
def enabling (r : BatteryRegisters) : Operation :=
  .writeMultiple r.controlMode (Bus.wordsOfUInt32 externalControl)

/-- The write that sets a power. -/
def setting (r : BatteryRegisters) (p : Power) : Operation :=
  .writeMultiple r.powerSetpoint (Bus.wordsOfInt32 p.watts)

theorem takesTurns_setPower (line : Line τ ω) (p : Power) (r : BatteryRegisters) :
    (setPower line.journaled p r).TakesTurns line [enabling r, setting r p] fun _ _ => True :=
  (Exchange.TakesTurns.write line (enabling r)).bind fun _ _ _ =>
    Exchange.TakesTurns.write line (setting r p)

theorem mirrors_setPower (line : Line τ ω) (p : Power) (r : BatteryRegisters) :
    (setPower line.journaled p r).Mirrors (setPower line p r) :=
  (Exchange.Mirrors.write line _).bind fun _ => Exchange.Mirrors.write line _

end Device.Battery

namespace Control

open Device

variable {τ ω : Type}

/-- What is done about a power, with these two writes. Either control cannot be enabled: there are
at most two calls to enable it, none only where no session is held and two attempts to open one are
refused; the fault is reported and the power is not set. Or it is enabled with one or two calls, and
then there are one or two calls that set the power, which decide how it all ends. -/
def SetOnceEnabled (line : Line τ ω) (enabling setting : Bus.Operation) (start : Logged τ ω)
    (result : Except Fault Unit) (stop : Logged τ ω) : Prop :=
  (∃ attempts fault k, line.Carries ⟨enabling, attempts⟩ start (.error fault) stop ∧
    result = .error fault ∧ k ≤ 2 ∧
    stop.2.2.asked = start.2.2.asked ++ List.replicate k enabling ∧
    (k = 0 → start.1.session = none ∧
      ∃ first second, attempts = [.refused first, .refused second])) ∨
  ∃ attempts words middle attempts' outcome k m,
    line.Carries ⟨enabling, attempts⟩ start (.ok words) middle ∧
    line.Carries ⟨setting, attempts'⟩ middle outcome stop ∧
    result = outcome.map (fun _ => ()) ∧ (0 < k ∧ k ≤ 2) ∧ (0 < m ∧ m ≤ 2) ∧
    stop.2.2.asked =
      start.2.2.asked ++ List.replicate k enabling ++ List.replicate m setting

theorem setOnceEnabled_of_inTurn {line : Line τ ω} {enabling setting : Bus.Operation}
    {start stop : Logged τ ω} {turns : List Turn} {outcome : Except Fault (List (List Word))}
    {result : Except Fault Unit} {Answers : List (List Word) → Unit → Prop}
    (h : line.InTurn [enabling, setting] start turns outcome stop)
    (hresult : Exchange.Concludes Answers outcome result) :
    SetOnceEnabled line enabling setting start result stop := by
  rcases h.pair_cases with
    ⟨attempts, fault, hturn, rfl⟩ | ⟨attempts, words, middle, attempts', last, hturn, hlast, rfl⟩
  · cases hresult
    refine .inl ⟨attempts, fault, _, hturn, rfl, hturn.runs.calls_le, hturn.asked, ?_⟩
    intro hnone
    rcases hturn.runs.calls_cases with ⟨hpos, -⟩ | ⟨-, hheld, -, hrefused⟩
    · exact absurd hnone hpos.ne'
    · exact ⟨hheld, hrefused⟩
  · refine .inr ⟨attempts, words, middle, attempts', last, (Turn.mk enabling attempts).calls,
      (Turn.mk setting attempts').calls, hturn, hlast, ?_, ?_, ?_, ?_⟩
    · cases last <;> cases hresult <;> rfl
    · rcases hturn.runs.calls_cases with hcalls | ⟨-, -, ⟨fault, hfault⟩, -⟩
      · exact hcalls
      · cases hfault
    -- the session that has just served is still held, so there is one to be called
    · rcases hlast.runs.calls_cases with hcalls | ⟨-, hheld, -⟩
      · exact hcalls
      · have hsession := hturn.isSome_session
        rw [hheld] at hsession
        cases hsession
    · rw [hlast.asked, hturn.asked]

/-- For any power, any registers, any session that is held and any behaviour of the battery. The
power is set once control is enabled (`SetOnceEnabled`), in two words each: those that spell 802 and
those that are read as this very power. There are no other calls, and the reading stays. Journals
are not noticed. -/
theorem power_set_once_enabled (line : Line τ ω) (p : Power)
    (a : Attached BatteryRegisters (Nat × τ) (ω × Bus.Journal) BatteryReading) :
    let r := a.adapter.registers
    let (result, a') := a.perform (Battery.setPower line.journaled p)
    a.plain.perform (Battery.setPower line p) = (result, a'.plain) ∧
    a'.adapter.reading = a.adapter.reading ∧
    ∃ control power : List Word, control.length = 2 ∧ natOfWords control = 802 ∧
      power.length = 2 ∧ Bus.int32OfWords? power = some p.watts ∧
      SetOnceEnabled line (.writeMultiple r.controlMode control)
        (.writeMultiple r.powerSetpoint power) (a.adapter.client, a.world) result
        (a'.adapter.client, a'.world) := by
  intro r
  obtain ⟨turns, outcome, hturns, hconcludes⟩ :=
    Battery.takesTurns_setPower line p r (a.adapter.client, a.world)
  refine ⟨Attached.perform_plain (Battery.mirrors_setPower line p) a, rfl,
    Bus.wordsOfUInt32 Battery.externalControl, Bus.wordsOfInt32 p.watts, rfl,
    Bus.natOfWords_wordsOfUInt32 _, rfl, Bus.int32OfWords?_wordsOfInt32 p.watts, ?_⟩
  exact setOnceEnabled_of_inTurn hturns hconcludes

/-- A battery that fails once is asked twice to enable control, and then for the lowest power there
is. -/
theorem power_set_once_enabled_lowest :
    let line := Bus.Simulated.line "battery"
    let a : Attached BatteryRegisters (Nat × Unit) (Bus.Simulated × Bus.Journal) BatteryReading :=
      .fresh .default ({ misbehaviour := { fail := 1 } }, [])
    let (result, a') := a.perform (Battery.setPower line.journaled ⟨Int32.minValue⟩)
    result = .ok () ∧ a'.adapter.reading = none ∧
      a'.world.2.asked = [.writeMultiple 40151 [0, 802], .writeMultiple 40151 [0, 802],
        .writeMultiple 40149 [0x8000, 0]] := by
  intro line a
  exact ⟨by cbv, (power_set_once_enabled line ⟨Int32.minValue⟩ a).2.1, by cbv⟩

/-- Where no session can be opened the battery is not asked for anything. -/
theorem power_unasked :
    let line := Bus.Simulated.line "battery"
    let a : Attached BatteryRegisters (Nat × Unit) (Bus.Simulated × Bus.Journal) BatteryReading :=
      .fresh .default ({ misbehaviour := { refuse := 2 } }, [])
    let (result, a') := a.perform (Battery.setPower line.journaled ⟨-2500⟩)
    result = .error ⟨"battery", .failure "connection refused"⟩ ∧ a'.world.2.asked = [] := by
  intro line a
  exact ⟨by cbv, by cbv⟩

end Control

end HomeEnergy

import HomeEnergy.Control.Home
import HomeEnergy.Device.Meter
import HomeEnergy.Proofs.Control.Run

/-!
What is published of the devices of a home. The readings of a device are there exactly if its poll
in this very cycle has come to something, and then they are what it has come to. What the device has
shown before makes no difference, and neither does any other device (`published_fresh`).

Devices keep their readings in two ways. An adapter that fails reports it and keeps its last good
reading (`Attached.poll_source`). A meter never fails, and where it gives no usable answer
its reading is gone (`poll_meter`). A poll shows what has come of this one exchange in both cases.
-/

namespace HomeEnergy

open Bus (Exchange Fault)
open Control (BatteryReading GridReading Snapshot)

namespace Device

/-! ## Single devices -/

/-- The meter has answered, and a report with this reading can be made out in the answer. -/
def MeterReply.Gives (reply : MeterReply) (r : GridReading) : Prop :=
  ∃ status body, reply = .answered status body ∧ 200 ≤ status ∧ status < 300 ∧
    Report.read? (if status = noContent then "" else body) = some r

theorem MeterReply.reading_eq_ok_iff {reply : MeterReply} {r : GridReading} :
    reply.reading = .ok r ↔ reply.Gives r := by
  constructor
  · intro h
    unfold reading at h
    split at h
    · cases h
    · next status body =>
      split at h
      · next hstatus =>
        split at h
        · next hread =>
          cases h
          exact ⟨status, body, rfl, hstatus.1, hstatus.2, hread⟩
        · cases h
      · cases h
  · rintro ⟨status, body, rfl, hleast, hmost, hread⟩
    simp only [reading, hleast, hmost, hread, and_self, if_true]

theorem poll_meter {γ : Type} (fetch : γ → MeterReply × γ) (m : Meter γ) :
    (Meter.source fetch).poll m =
      ((fetch m.world).1.reading.toOption,
        ⟨(fetch m.world).1.reading.toOption, (fetch m.world).2⟩) := rfl

end Device

namespace Control

open Device

namespace Attached

variable {κ τ ω ρ : Type} (poll : κ → Exchange τ ω ρ) (a : Attached κ τ ω ρ)

/-- A poll shows what comes of the exchange with the device. What was kept plays no part in that,
and is replaced only if something does come of it. -/
theorem poll_source :
    ((source poll).poll a).1 = (a.perform poll).1.toOption ∧
      ((source poll).poll a).2.adapter.reading =
        (a.perform poll).1.toOption.or a.adapter.reading := by
  rcases h : poll a.adapter.registers (a.adapter.client, a.world) with ⟨_ | _, client, w⟩ <;>
    simp only [Source.poll, source, perform, Adapter.update, Adapter.perform, h] <;>
    exact ⟨rfl, rfl⟩

end Attached

/-! ## All devices -/

/-- What comes of polling each device of a home on its own. -/
structure Polls where
  grid : Except MeterFault GridReading
  charger : Except Fault Power
  heatPump : Except Fault Power
  solar : Option (Except Fault Power)
  battery : Option (Except Fault BatteryReading)

/-- The readings that have come of the polls. -/
def Polls.snapshot (p : Polls) (now : Timestamp) : Snapshot where
  gridPower := p.grid.toOption.map (·.power)
  gridVoltage := p.grid.toOption.map (·.voltage)
  chargerPower := p.charger.toOption
  heatPumpPower := p.heatPump.toOption
  solarPower := p.solar.bind Except.toOption
  batteryPower := (p.battery.bind Except.toOption).map (·.power)
  batteryCharge := (p.battery.bind Except.toOption).map (·.stateOfCharge)
  timestamp := now

namespace Home

variable {γ τ ω : Type} (fetch : γ → MeterReply × γ) (lines : Lines τ ω)

def polls (h : Home (Meter γ) τ ω) : Polls where
  grid := (fetch h.grid.world).1.reading
  charger := (h.charger.perform (Charger.power lines.charger)).1
  heatPump := (h.heatPump.perform (HeatPump.power lines.heatPump)).1
  solar := lines.solar.map fun line => (h.solar.perform (Solar.power line)).1
  battery := lines.battery.map fun line => (h.battery.perform (Battery.reading line)).1

/-- What the devices keep once they have been polled. -/
structure Keeps (p : Polls) (h h' : Home (Meter γ) τ ω) : Prop where
  grid : h'.grid.reading = p.grid.toOption
  charger : h'.charger.adapter.reading = p.charger.toOption.or h.charger.adapter.reading
  heatPump : h'.heatPump.adapter.reading = p.heatPump.toOption.or h.heatPump.adapter.reading
  solar : h'.solar.adapter.reading = (p.solar.bind Except.toOption).or h.solar.adapter.reading
  battery :
    h'.battery.adapter.reading = (p.battery.bind Except.toOption).or h.battery.adapter.reading

/-- The devices are polled one after another, but none of them is in the way of another. -/
theorem poll_devices (now : Timestamp) (h : Home (Meter γ) τ ω) :
    ((devices (Meter.source fetch) lines).poll now h).1 = (h.polls fetch lines).snapshot now ∧
      Keeps (h.polls fetch lines) h ((devices (Meter.source fetch) lines).poll now h).2 := by
  obtain ⟨charger, heatPump, solar, battery⟩ := lines
  constructor
  · cases solar <;> cases battery <;>
      simp only [Devices.poll, devices, Source.poll_within, implies_true, pollIfPresent,
        Option.map, poll_meter, (Attached.poll_source _ _).1] <;> rfl
  · constructor <;> cases solar <;> cases battery <;>
      simp only [Devices.poll, devices, Source.poll_within, implies_true, pollIfPresent,
        Option.map, poll_meter, (Attached.poll_source _ _).2] <;> rfl

/-- What is asked of the charger does not touch the readings. -/
theorem Keeps.setMaxCurrent {p : Polls} {h h' : Home (Meter γ) τ ω} (hkeeps : Keeps p h h')
    (grid : Source (Meter γ) GridReading) (lines : Lines τ ω) (c : Current) :
    Keeps p h ((devices grid lines).setMaxCurrent c h').2 :=
  ⟨hkeeps.grid, hkeeps.charger, hkeeps.heatPump, hkeeps.solar, hkeeps.battery⟩

/-- The last cycle of a run publishes what its own polls have come to, whatever has been before. -/
theorem run?_concat_cycle {fetch : γ → MeterReply × γ} {lines : Lines τ ω}
    {m : Manager (Home (Meter γ) τ ω)} {past : List Operation} {now : Timestamp}
    {j : Journal (Home (Meter γ) τ ω)}
    (h : Journal.run? (devices (Meter.source fetch) lines) m (past ++ [.cycle now]) = some j) :
    ∃ before, Journal.run? (devices (Meter.source fetch) lines) m past = some before ∧
      j.manager.latest.value = (before.manager.devices.polls fetch lines).snapshot now ∧
      Keeps (before.manager.devices.polls fetch lines) before.manager.devices
        j.manager.devices := by
  rw [Journal.run?_concat, Option.bind_eq_some_iff] at h
  obtain ⟨before, hbefore, hj⟩ := h
  cases hj
  obtain ⟨hshown, hkeeps⟩ := poll_devices fetch lines now before.manager.devices
  refine ⟨before, hbefore, ?_, ?_⟩
  · rw [Manager.latest_runCycle]
    exact hshown
  · rw [Manager.devices_runCycle]
    exact hkeeps.setMaxCurrent _ _ _

end Home

/-! ## The main result -/

/-- Two homes, each after some past of its own, both polled by one further cycle. What is published
of a home is what its devices have come to in this cycle, each of them on its own; a grid meter has
come to a reading if it has answered with success and a report. The adapters keep their last good
readings all the same. Wherever a device of one home comes to the same as that of the other, the
same is published of both. -/
theorem published_fresh {γ₁ τ₁ ω₁ γ₂ τ₂ ω₂ : Type}
    {fetch₁ : γ₁ → MeterReply × γ₁} {lines₁ : Lines τ₁ ω₁}
    {m₁ : Manager (Home (Meter γ₁) τ₁ ω₁)} {past₁ : List Operation} {now₁ : Timestamp}
    {j₁ : Journal (Home (Meter γ₁) τ₁ ω₁)}
    (h₁ : Journal.run? (Home.devices (Meter.source fetch₁) lines₁) m₁ (past₁ ++ [.cycle now₁]) =
      some j₁)
    {fetch₂ : γ₂ → MeterReply × γ₂} {lines₂ : Lines τ₂ ω₂}
    {m₂ : Manager (Home (Meter γ₂) τ₂ ω₂)} {past₂ : List Operation} {now₂ : Timestamp}
    {j₂ : Journal (Home (Meter γ₂) τ₂ ω₂)}
    (h₂ : Journal.run? (Home.devices (Meter.source fetch₂) lines₂) m₂ (past₂ ++ [.cycle now₂]) =
      some j₂) :
    ∃ before₁ before₂,
      Journal.run? (Home.devices (Meter.source fetch₁) lines₁) m₁ past₁ = some before₁ ∧
      Journal.run? (Home.devices (Meter.source fetch₂) lines₂) m₂ past₂ = some before₂ ∧
      let home₁ := before₁.manager.devices
      let p₁ := home₁.polls fetch₁ lines₁
      let p₂ := before₂.manager.devices.polls fetch₂ lines₂
      let s₁ := j₁.manager.latest.value
      let s₂ := j₂.manager.latest.value
      s₁ = p₁.snapshot now₁ ∧
      (∀ r, p₁.grid = .ok r ↔ (fetch₁ home₁.grid.world).1.Gives r) ∧
      Home.Keeps p₁ home₁ j₁.manager.devices ∧
      (p₁.grid.toOption = p₂.grid.toOption →
        s₁.gridPower = s₂.gridPower ∧ s₁.gridVoltage = s₂.gridVoltage) ∧
      (p₁.charger.toOption = p₂.charger.toOption → s₁.chargerPower = s₂.chargerPower) ∧
      (p₁.heatPump.toOption = p₂.heatPump.toOption → s₁.heatPumpPower = s₂.heatPumpPower) ∧
      (p₁.solar.bind Except.toOption = p₂.solar.bind Except.toOption →
        s₁.solarPower = s₂.solarPower) ∧
      (p₁.battery.bind Except.toOption = p₂.battery.bind Except.toOption →
        s₁.batteryPower = s₂.batteryPower ∧ s₁.batteryCharge = s₂.batteryCharge) := by
  obtain ⟨before₁, hbefore₁, hshown₁, hkeeps⟩ := Home.run?_concat_cycle h₁
  obtain ⟨before₂, hbefore₂, hshown₂, -⟩ := Home.run?_concat_cycle h₂
  refine ⟨before₁, before₂, hbefore₁, hbefore₂, hshown₁,
    fun r => MeterReply.reading_eq_ok_iff, hkeeps, ?_⟩
  rw [hshown₁, hshown₂]
  refine ⟨fun h => ?_, id, id, id, fun h => ?_⟩
  · exact ⟨congrArg (Option.map _) h, congrArg (Option.map _) h⟩
  · exact ⟨congrArg (Option.map _) h, congrArg (Option.map _) h⟩

/-- The way to a device that gives the replies it has left and then no more. -/
def replying : Bus.Line Unit (List (List Bus.Word)) where
  host := "device"
  connect w := (.ok (), w)
  call _ _ w :=
    match w with
    | [] => (.error (unanswered "device"), [])
    | reply :: rest => (.ok reply, rest)

/-- What a meter reports. -/
def reportText : String := "\x7b\"active_power_w\": 2300.5, \"active_voltage_l1_v\": 231\x7d"

theorem gives_reportText {reply : MeterReply} (h : reply = .answered 200 reportText) :
    reply.Gives ⟨⟨2300⟩, ⟨231⟩⟩ :=
  ⟨200, reportText, h, by decide, by decide, by decide +kernel⟩

/-- One heat pump has given a reading in an earlier cycle, another has never been asked before. Both
fail in this cycle, while the meters and the solar inverters of both homes answer. -/
theorem published_fresh_failingHeatPumps :
    let fetch := SimulatedMeter.fetch
    let lines : Lines Unit (List (List Bus.Word)) :=
      ⟨replying, replying, some replying, some replying⟩
    let d := Home.devices (Meter.source fetch) lines
    let home (reports : List MeterReply) (heatPump solar : List (List Bus.Word)) :
        Home (Meter SimulatedMeter) Unit (List (List Bus.Word)) :=
      ⟨⟨none, ⟨.up, reports, ""⟩⟩, .fresh .default [], .fresh .default heatPump,
        .fresh .default solar, .fresh .default []⟩
    let now : Timestamp := ⟨0, 0, 0⟩
    let limits : CurrentLimits := ⟨⟨6⟩, ⟨16⟩⟩
    let report : MeterReply := .answered 200 reportText
    let m₁ := Manager.fresh limits
      (home [.answered 503 "", report] [[120]] [[0, 900], [0, 1500]]) now
    let m₂ := Manager.fresh limits (home [report] [] [[0, 1500]]) now
    ∃ j₁ j₂,
      Journal.run? d m₁ ([.cycle now] ++ [.cycle now]) = some j₁ ∧
      Journal.run? d m₂ ([] ++ [.cycle now]) = some j₂ ∧
      j₁.manager.devices.heatPump.adapter.reading = some ⟨1200⟩ ∧
      j₂.manager.devices.heatPump.adapter.reading = none ∧
      let s₁ := j₁.manager.latest.value
      let s₂ := j₂.manager.latest.value
      s₁.heatPumpPower = none ∧ s₁.heatPumpPower = s₂.heatPumpPower ∧
      s₁.gridPower = some ⟨2300⟩ ∧ s₁.gridVoltage = some ⟨231⟩ ∧
      s₁.gridPower = s₂.gridPower ∧ s₁.gridVoltage = s₂.gridVoltage ∧
      s₁.solarPower = some ⟨1500⟩ ∧ s₁.solarPower = s₂.solarPower := by
  intro fetch lines d home now limits report m₁ m₂
  obtain ⟨j₁, hj₁⟩ : ∃ j, Journal.run? d m₁ ([.cycle now] ++ [.cycle now]) = some j := ⟨_, rfl⟩
  obtain ⟨j₂, hj₂⟩ : ∃ j, Journal.run? d m₂ ([] ++ [.cycle now]) = some j := ⟨_, rfl⟩
  have hkept₁ : (Journal.run? d m₁ ([.cycle now] ++ [.cycle now])).map
      (·.manager.devices.heatPump.adapter.reading) = some (some ⟨1200⟩) := rfl
  have hkept₂ : (Journal.run? d m₂ ([] ++ [.cycle now])).map
      (·.manager.devices.heatPump.adapter.reading) = some none := rfl
  have hreply₁ : (Journal.run? d m₁ [.cycle now]).map
      (fun j => (fetch j.manager.devices.grid.world).1) = some report := rfl
  have hreply₂ : (Journal.run? d m₂ []).map
      (fun j => (fetch j.manager.devices.grid.world).1) = some report := rfl
  have hpolls₁ : (Journal.run? d m₁ [.cycle now]).map (fun j =>
      let p := j.manager.devices.polls fetch lines
      (p.heatPump.toOption, p.solar.bind Except.toOption)) = some (none, some ⟨1500⟩) := rfl
  have hpolls₂ : (Journal.run? d m₂ []).map (fun j =>
      let p := j.manager.devices.polls fetch lines
      (p.heatPump.toOption, p.solar.bind Except.toOption)) = some (none, some ⟨1500⟩) := rfl
  obtain ⟨before₁, before₂, hbefore₁, hbefore₂, hshown, hgives, -, hgrid, -, hheatPump,
    hsolar, -⟩ := published_fresh hj₁ hj₂
  rw [hj₁] at hkept₁
  rw [hj₂] at hkept₂
  rw [hbefore₁] at hreply₁ hpolls₁
  rw [hbefore₂] at hreply₂ hpolls₂
  obtain ⟨hheatPump₁, hsolar₁⟩ := Prod.ext_iff.1 (Option.some.inj hpolls₁)
  obtain ⟨hheatPump₂, hsolar₂⟩ := Prod.ext_iff.1 (Option.some.inj hpolls₂)
  have hgrid₁ : (before₁.manager.devices.polls fetch lines).grid = .ok ⟨⟨2300⟩, ⟨231⟩⟩ :=
    (hgives _).2 (gives_reportText (Option.some.inj hreply₁))
  have hgrid₂ : (before₂.manager.devices.polls fetch lines).grid = .ok ⟨⟨2300⟩, ⟨231⟩⟩ :=
    MeterReply.reading_eq_ok_iff.2 (gives_reportText (Option.some.inj hreply₂))
  obtain ⟨hpower, hvoltage⟩ := hgrid (by rw [hgrid₁, hgrid₂])
  refine ⟨j₁, j₂, hj₁, hj₂, Option.some.inj hkept₁, Option.some.inj hkept₂, ?_,
    hheatPump (hheatPump₁.trans hheatPump₂.symm), ?_, ?_, hpower, hvoltage, ?_,
    hsolar (hsolar₁.trans hsolar₂.symm)⟩
  · rw [hshown]
    exact hheatPump₁
  · rw [hshown, Polls.snapshot, hgrid₁]
    rfl
  · rw [hshown, Polls.snapshot, hgrid₁]
    rfl
  · rw [hshown]
    exact hsolar₁

end Control

end HomeEnergy

import HomeEnergy.Proofs.Control.Interleaving
import HomeEnergy.Proofs.Control.Setpoints
import HomeEnergy.Proofs.Device.Exchanges
import HomeEnergy.Settings.Document

/-!
What reaches the charger, from the text of the settings to the words in its register. The limits are
numbers of 32 bits and the register has 16, so a current that does not fit arrives as the largest
word: with limits above it the charger is asked for less than the least current
(`charger_written_saturated`). Apart from that each word is the setpoint of the cycle that has
written it (`charger_written`).

The invariant is `Scene.Sound`, with `Scene.Sound.perform` as its step. What an act writes is in
`Scene.written_perform`, and who has written what, over a whole run, in `Scene.exists_of_written`.
-/

namespace HomeEnergy

open Bus (Line)
open Device

/-! ## Settings -/

theorem Settings.limits_of_validate {s : Settings} (h : s.validate = .ok ()) :
    ∃ limits, s.energy.limits = .ok limits ∧ limits.Ordered := by
  obtain ⟨loop, hloop, -⟩ := Settings.bind_eq_ok h
  obtain ⟨limits, hlimits, -⟩ := Settings.bind_eq_ok hloop
  exact ⟨limits, hlimits, Settings.Energy.limits_ordered hlimits⟩

namespace Control

/-! ## Words -/

/-- A word that the charger may find in its register: zero, or one within as much of the limits as
there are words for. -/
def CurrentLimits.AllowsWord (l : CurrentLimits) (word : Bus.Word) : Prop :=
  word = 0 ∨ (min l.least.amps.toNat 65535 ≤ word.toNat ∧ word.toNat ≤ l.most.amps.toNat)

theorem toNat_wordOfCurrent (c : Current) :
    (Charger.wordOfCurrent c).toNat = min c.amps.toNat 65535 :=
  UInt16.toNat_ofNat_of_lt' (by rw [UInt16.size]; omega)

theorem CurrentLimits.Allows.word {l : CurrentLimits} {c : Current} (h : l.Allows c) :
    l.AllowsWord (Charger.wordOfCurrent c) := by
  rcases h with rfl | ⟨hleast, hmost⟩
  · exact Or.inl rfl
  · rw [UInt32.le_iff_toNat_le] at hleast hmost
    unfold AllowsWord
    rw [toNat_wordOfCurrent]
    omega

/-! ## Homes with journals -/

section Homes

variable {γ τ ω : Type}

/-- Lines that do the same and keep journals. -/
def Lines.journaled (lines : Lines τ ω) : Lines (Nat × τ) (ω × Bus.Journal) where
  charger := lines.charger.journaled
  heatPump := lines.heatPump.journaled
  solar := lines.solar.map Line.journaled
  battery := lines.battery.map Line.journaled

namespace Home

/-- The home without its journals. -/
def plain (h : Home γ (Nat × τ) (ω × Bus.Journal)) : Home γ τ ω where
  grid := h.grid
  charger := h.charger.plain
  heatPump := h.heatPump.plain
  solar := h.solar.plain
  battery := h.battery.plain

/-- What the charger was asked to write. -/
def written (h : Home γ (Nat × τ) (ω × Bus.Journal)) : List (UInt16 × List Bus.Word) :=
  h.charger.world.2.writes

variable (grid : Source γ GridReading) (lines : Lines τ ω)

/-- The journals are not noticed. -/
theorem poll_plain (now : Timestamp) (h : Home γ (Nat × τ) (ω × Bus.Journal)) :
    (devices grid lines).poll now h.plain =
      (((devices grid lines.journaled).poll now h).1,
        ((devices grid lines.journaled).poll now h).2.plain) := by
  obtain ⟨charger, heatPump, solar, battery⟩ := lines
  have hcharger := Attached.poll_plain (Charger.mirrors_power charger)
  have hheatPump := Attached.poll_plain (HeatPump.mirrors_power heatPump)
  have hsolar (line : Line τ ω) := Attached.poll_plain (Solar.mirrors_power line)
  have hbattery (line : Line τ ω) := Attached.poll_plain (Battery.mirrors_reading line)
  cases solar <;> cases battery <;>
    simp only [Devices.poll, devices, Lines.journaled, Source.poll_within, implies_true,
      pollIfPresent, Option.map, plain, hcharger, hheatPump, hsolar, hbattery]

theorem setMaxCurrent_plain (c : Current) (h : Home γ (Nat × τ) (ω × Bus.Journal)) :
    (devices grid lines).setMaxCurrent c h.plain =
      (((devices grid lines.journaled).setMaxCurrent c h).1,
        ((devices grid lines.journaled).setMaxCurrent c h).2.plain) := by
  have hcharger := Attached.perform_plain (Charger.mirrors_setMaxCurrent lines.charger c) h.charger
  simp only [devices, Lines.journaled, plain, hcharger]

theorem charger_poll (now : Timestamp) (h : Home γ τ ω) :
    ((devices grid lines).poll now h).2.charger =
      ((Attached.source (Charger.power lines.charger)).poll h.charger).2 := by
  obtain ⟨charger, heatPump, solar, battery⟩ := lines
  cases solar <;> cases battery <;>
    simp only [Devices.poll, devices, Source.poll_within, implies_true, pollIfPresent, Option.map]

/-- A poll writes nothing. -/
theorem written_poll (now : Timestamp) (h : Home γ (Nat × τ) (ω × Bus.Journal)) :
    ((devices grid lines.journaled).poll now h).2.written = h.written ∧
      ((devices grid lines.journaled).poll now h).2.charger.adapter.registers =
        h.charger.adapter.registers := by
  obtain ⟨hworld, hregisters⟩ :=
    Attached.poll_eq_perform (Charger.power lines.charger.journaled) h.charger
  obtain ⟨k, -, -, hwrites⟩ := h.charger.writes_perform (Charger.asks_power lines.charger _)
  have hnothing := hwrites.trans (List.append_nil _)
  unfold written
  rw [charger_poll]
  exact ⟨(congrArg (·.2.writes) hworld).trans hnothing, hregisters⟩

/-- A command writes the current to the register for it, perhaps twice. It does so if it goes
well. -/
theorem written_setMaxCurrent (c : Current) (h : Home γ (Nat × τ) (ω × Bus.Journal)) :
    ∃ k ≤ 2, (((devices grid lines.journaled).setMaxCurrent c h).1.isOk → 0 < k) ∧
      ((devices grid lines.journaled).setMaxCurrent c h).2.written = h.written ++
        List.replicate k (h.charger.adapter.registers.maxCurrent, [Charger.wordOfCurrent c]) := by
  obtain ⟨k, hk, hok, hwrites⟩ :=
    h.charger.writes_perform (Charger.asks_setMaxCurrent lines.charger c _)
  rw [Bus.Operation.written?, Option.toList_some, List.flatMap_singleton] at hwrites
  exact ⟨k, hk, hok, hwrites⟩

end Home

end Homes

/-! ## The same steps over other devices -/

section Mirrored

variable {ω ω' : Type}

/-- Devices in the state `ω'` that do, seen through `f`, the same as others in the state `ω`. -/
structure Devices.Mirrors (f : ω' → ω) (d' : Devices ω') (d : Devices ω) : Prop where
  poll : ∀ now w, d.poll now (f w) = ((d'.poll now w).1, f (d'.poll now w).2)
  setMaxCurrent : ∀ c w,
    d.setMaxCurrent c (f w) = ((d'.setMaxCurrent c w).1, f (d'.setMaxCurrent c w).2)

def Manager.through (f : ω' → ω) (m : Manager ω') : Manager ω := ⟨m.panel, f m.devices, m.latest⟩

/-- The scene seen through a function of the devices. -/
def Scene.through (f : ω' → ω) (s : Scene ω') : Scene ω := ⟨s.manager.through f, s.cycles⟩

variable {f : ω' → ω} {d' : Devices ω'} {d : Devices ω}

theorem Cycle.advance_through (h : d'.Mirrors f d) (now : Timestamp) (c : Cycle)
    (m : Manager ω') :
    advance d now (c, m.through f) =
      ((advance d' now (c, m)).1, (advance d' now (c, m)).2.through f) := by
  cases c with
  | begun =>
    simp only [advance, Manager.through, h.poll]
  | stored snapshot c =>
    simp only [advance, Manager.through, h.setMaxCurrent]
  | polled snapshot => rfl
  | modeRead snapshot mode => rfl
  | heldRead snapshot mode held => rfl
  | commanded snapshot c => rfl
  | done c => rfl

theorem Scene.perform_through (h : d'.Mirrors f d) (s : Scene ω') (a : Act) :
    (s.through f).perform d a = (s.perform d' a).through f := by
  cases a with
  | advance i now =>
    cases hi : s.cycles[i]? with
    | none =>
      have hi' : (s.through f).cycles[i]? = none := hi
      simp only [perform, hi, hi']
    | some c =>
      have hi' : (s.through f).cycles[i]? = some c := hi
      rw [perform_advance hi, perform_advance hi']
      have hstep := Cycle.advance_through h now c s.manager
      simp only [through] at hstep ⊢
      rw [hstep]
  | begin => rfl
  | storeSetpoint c => rfl
  | storeMode mode => rfl

theorem Scene.play_through (h : d'.Mirrors f d) (s : Scene ω') (acts : List Act) :
    (s.through f).play d acts = (s.play d' acts).through f := by
  induction acts using List.reverseRecOn with
  | nil => rfl
  | append_singleton acts a ih => rw [play_concat, play_concat, ih, perform_through h]

end Mirrored

/-! ## Scenes in which nothing but what is allowed is on its way to the charger -/

/-- What can happen: calls for manual mode store only what they hold. -/
def Act.Possible (limits : CurrentLimits) : Act → Prop
  | .storeSetpoint held => ∃ c, Panel.held? limits c = some held
  | .begin | .advance _ _ | .storeMode _ => True

/-- The current that a cycle has read or chosen last. -/
def Cycle.current? : Cycle → Option Current
  | .heldRead _ _ c | .stored _ c | .commanded _ c | .done c => some c
  | .begun | .polled _ | .modeRead _ _ => none

theorem setpoint_allowed {limits : CurrentLimits} (h : limits.Ordered) {held : Current}
    (hheld : limits.Allows held) (mode : Mode) (snapshot : Snapshot) :
    limits.Allows (setpoint mode held snapshot limits) := by
  cases mode with
  | manual => exact hheld
  | auto => exact automaticSetpoint_allowed h snapshot

variable {γ τ ω : Type} (grid : Source γ GridReading) (lines : Lines τ ω)
  {limits : CurrentLimits} {register : UInt16}

namespace Cycle

variable {m : Manager (Home γ (Nat × τ) (ω × Bus.Journal))}

/-- A step of a cycle keeps to the limits. -/
theorem allowed_advance {d : Devices ω} {m : Manager ω} (h : m.panel.limits.Ordered)
    (hpanel : m.panel.limits.Allows m.panel.setpoint) {cycle : Cycle}
    (hcycle : ∀ c, cycle.current? = some c → m.panel.limits.Allows c) (now : Timestamp) :
    (advance d now (cycle, m)).2.panel.limits = m.panel.limits ∧
      m.panel.limits.Allows (advance d now (cycle, m)).2.panel.setpoint ∧
      ∀ c, (advance d now (cycle, m)).1.current? = some c → m.panel.limits.Allows c := by
  cases cycle with
  | begun => exact ⟨rfl, hpanel, nofun⟩
  | polled snapshot => exact ⟨rfl, hpanel, nofun⟩
  | modeRead snapshot mode =>
    refine ⟨rfl, hpanel, ?_⟩
    rintro c ⟨⟩
    exact hpanel
  | heldRead snapshot mode held =>
    have hallowed := setpoint_allowed h (hcycle held rfl) mode snapshot
    refine ⟨rfl, hallowed, ?_⟩
    rintro c ⟨⟩
    exact hallowed
  | stored snapshot c => exact ⟨rfl, hpanel, hcycle⟩
  | commanded snapshot c => exact ⟨rfl, hpanel, hcycle⟩
  | done c => exact ⟨rfl, hpanel, hcycle⟩

/-- Two steps of a cycle have to do with the devices. -/
theorem devices_advance (d : Devices ω) (now : Timestamp) (cycle : Cycle) (m : Manager ω) :
    (advance d now (cycle, m)).2.devices =
      match cycle with
      | .begun => (d.poll now m.devices).2
      | .stored _ c => (d.setMaxCurrent c m.devices).2
      | _ => m.devices := by
  cases cycle <;> rfl

theorem registers_advance (cycle : Cycle) (now : Timestamp) :
    (advance (Home.devices grid lines.journaled) now (cycle, m)).2.devices.charger.adapter.registers
      = m.devices.charger.adapter.registers := by
  rw [devices_advance]
  cases cycle with
  | begun =>
    obtain ⟨-, hregisters⟩ := Home.written_poll grid lines now m.devices
    dsimp only
    rw [hregisters]
  | polled _ | modeRead _ _ | heldRead _ _ _ | stored _ _ | commanded _ _ | done _ => rfl

/-- A step writes to the charger what `command?` says, and nothing else. -/
theorem written_advance (cycle : Cycle) (now : Timestamp) :
    ∃ k ≤ 2, (advance (Home.devices grid lines.journaled) now (cycle, m)).2.devices.written =
      m.devices.written ++ cycle.command?.toList.flatMap fun c =>
        List.replicate k (m.devices.charger.adapter.registers.maxCurrent,
          [Charger.wordOfCurrent c]) := by
  rw [devices_advance]
  cases cycle with
  | begun =>
    obtain ⟨hwritten, -⟩ := Home.written_poll grid lines now m.devices
    exact ⟨0, Nat.zero_le 2, hwritten.trans (List.append_nil _).symm⟩
  | stored snapshot c =>
    obtain ⟨k, hk, -, hwritten⟩ := Home.written_setMaxCurrent grid lines c m.devices
    refine ⟨k, hk, hwritten.trans ?_⟩
    rw [command?, Option.toList_some, List.flatMap_singleton]
  | polled _ | modeRead _ _ | heldRead _ _ _ | commanded _ _ | done _ =>
    exact ⟨0, Nat.zero_le 2, (List.append_nil _).symm⟩

end Cycle

namespace Scene

variable {s : Scene (Home γ (Nat × τ) (ω × Bus.Journal))}

/-- What the charger was asked to write. -/
def written (s : Scene (Home γ (Nat × τ) (ω × Bus.Journal))) : List (UInt16 × List Bus.Word) :=
  s.manager.devices.written

/-- The scene without the journals. -/
def plain (s : Scene (Home γ (Nat × τ) (ω × Bus.Journal))) : Scene (Home γ τ ω) :=
  s.through Home.plain

theorem play_plain (s : Scene (Home γ (Nat × τ) (ω × Bus.Journal))) (acts : List Act) :
    s.plain.play (Home.devices grid lines) acts =
      (s.play (Home.devices grid lines.journaled) acts).plain :=
  play_through ⟨Home.poll_plain grid lines, Home.setMaxCurrent_plain grid lines⟩ s acts

/-- Whatever is to be found in the scene is allowed, and commands go to the given register. -/
structure Sound (limits : CurrentLimits) (register : UInt16)
    (s : Scene (Home γ (Nat × τ) (ω × Bus.Journal))) : Prop where
  limits_eq : s.manager.panel.limits = limits
  register_eq : s.manager.devices.charger.adapter.registers.maxCurrent = register
  panel_allowed : limits.Allows s.manager.panel.setpoint
  cycles_allowed : ∀ cycle ∈ s.cycles, ∀ c, cycle.current? = some c → limits.Allows c

theorem sound_fresh (limits : CurrentLimits) (home : Home γ (Nat × τ) (ω × Bus.Journal))
    (start : Timestamp) :
    Sound limits home.charger.adapter.registers.maxCurrent ⟨.fresh limits home start, []⟩ where
  limits_eq := rfl
  register_eq := rfl
  panel_allowed := Or.inl rfl
  cycles_allowed _ h := by cases h

theorem Sound.perform (h : s.Sound limits register) (hlimits : limits.Ordered) {a : Act}
    (ha : a.Possible limits) :
    (s.perform (Home.devices grid lines.journaled) a).Sound limits register := by
  obtain ⟨rfl, rfl, hpanel, hcycles⟩ := h
  cases a with
  | begin =>
    refine ⟨rfl, rfl, hpanel, ?_⟩
    intro cycle hcycle
    rcases List.mem_append.1 hcycle with hold | hnew
    · exact hcycles cycle hold
    · cases List.mem_singleton.1 hnew
      nofun
  | advance i now =>
    cases hi : s.cycles[i]? with
    | none =>
      simp only [Scene.perform, hi]
      exact ⟨rfl, rfl, hpanel, hcycles⟩
    | some cycle =>
      obtain ⟨hsame, hpanel', hcycle'⟩ := Cycle.allowed_advance
        (d := Home.devices grid lines.journaled) hlimits hpanel
        (hcycles cycle (List.mem_of_getElem? hi)) now
      rw [perform_advance hi]
      refine ⟨hsame, congrArg _ (Cycle.registers_advance grid lines cycle now), hpanel', ?_⟩
      intro other hother
      rcases List.mem_or_eq_of_mem_set hother with hold | rfl
      · exact hcycles other hold
      · exact hcycle'
  | storeSetpoint held =>
    obtain ⟨c, hc⟩ := ha
    rw [CurrentLimits.held?_eq hlimits] at hc
    cases hc
    exact ⟨rfl, rfl, CurrentLimits.nearest_allowed hlimits c, hcycles⟩
  | storeMode mode => exact ⟨rfl, rfl, hpanel, hcycles⟩

/-- The current that an act asks of the charger. -/
def command? (s : Scene ω) : Act → Option Current
  | .advance i _ => s.cycles[i]?.bind Cycle.command?
  | .begin | .storeSetpoint _ | .storeMode _ => none

theorem exists_of_command? {s : Scene ω} {a : Act} {c : Current} (h : s.command? a = some c) :
    ∃ i now snapshot, a = .advance i now ∧ s.cycles[i]? = some (.stored snapshot c) := by
  cases a with
  | advance i now =>
    obtain ⟨cycle, hi, hcycle⟩ := Option.bind_eq_some_iff.1 h
    cases cycle <;> cases hcycle
    exact ⟨i, now, _, rfl, hi⟩
  | begin => cases h
  | storeSetpoint held => cases h
  | storeMode mode => cases h

/-- What an act writes to the charger is what it asks of it. -/
theorem written_perform (h : s.Sound limits register) (a : Act) :
    ∃ k ≤ 2, (s.perform (Home.devices grid lines.journaled) a).written =
      s.written ++ (s.command? a).toList.flatMap fun c =>
        List.replicate k (register, [Charger.wordOfCurrent c]) := by
  obtain ⟨-, rfl, -, -⟩ := h
  cases a with
  | advance i now =>
    cases hi : s.cycles[i]? with
    | none =>
      simp only [perform, command?, hi]
      exact ⟨0, Nat.zero_le 2, (List.append_nil _).symm⟩
    | some cycle =>
      rw [perform_advance hi]
      simp only [command?, hi, Option.bind_some]
      exact Cycle.written_advance grid lines cycle now
  | begin | storeSetpoint _ | storeMode _ =>
    exact ⟨0, Nat.zero_le 2, (List.append_nil _).symm⟩

/-- A command that goes well is the last write. -/
theorem getLast?_written (h : s.Sound limits register) {i : Nat} {snapshot : Snapshot} {c : Current}
    (hi : s.cycles[i]? = some (.stored snapshot c))
    (hok : ((Home.devices grid lines.journaled).setMaxCurrent c s.manager.devices).1.isOk)
    (now : Timestamp) :
    (s.perform (Home.devices grid lines.journaled) (.advance i now)).written.getLast? =
      some (register, [Charger.wordOfCurrent c]) := by
  obtain ⟨-, rfl, -, -⟩ := h
  obtain ⟨k, -, hpos, hwritten⟩ := Home.written_setMaxCurrent grid lines c s.manager.devices
  rw [perform_advance hi]
  unfold written
  rw [Cycle.devices_advance]
  dsimp only
  rw [hwritten, List.getLast?_append, List.getLast?_replicate, if_neg (hpos hok).ne',
    Option.some_or]

/-- The `n`-th write to the charger is made in the step with which a cycle asks for its setpoint
`c`. -/
def WritesAt (s : Scene (Home γ (Nat × τ) (ω × Bus.Journal))) (acts : List Act) (n : Nat)
    (c : Current) : Prop :=
  let d := Home.devices grid lines.journaled
  ∃ earlier i now later snapshot, acts = earlier ++ .advance i now :: later ∧
    (s.play d earlier).cycles[i]? = some (.stored snapshot c) ∧
    (s.play d earlier).written.length ≤ n ∧
    n < (s.play d (earlier ++ [.advance i now])).written.length

theorem WritesAt.append {acts : List Act} {n : Nat} {c : Current}
    (h : s.WritesAt grid lines acts n c) (a : Act) : s.WritesAt grid lines (acts ++ [a]) n c := by
  obtain ⟨earlier, i, now, later, snapshot, rfl, hcycle, hleast, hmost⟩ := h
  exact ⟨earlier, i, now, later ++ [a], snapshot, by simp, hcycle, hleast, hmost⟩

theorem Sound.play (h : s.Sound limits register) (hlimits : limits.Ordered) {acts : List Act}
    (hacts : ∀ a ∈ acts, a.Possible limits) :
    (s.play (Home.devices grid lines.journaled) acts).Sound limits register := by
  induction acts using List.reverseRecOn with
  | nil => exact h
  | append_singleton acts a ih =>
    rw [play_concat]
    exact (ih fun b hb => hacts b (List.mem_append_left _ hb)).perform grid lines hlimits
      (hacts a (by simp))

/-- Every write of a run was made by a cycle, and it is the setpoint of that cycle. -/
theorem exists_of_written (h : s.Sound limits register) (hlimits : limits.Ordered)
    (hnone : s.written = []) {acts : List Act} (hacts : ∀ a ∈ acts, a.Possible limits) {n : Nat}
    {entry : UInt16 × List Bus.Word}
    (hentry : (s.play (Home.devices grid lines.journaled) acts).written[n]? = some entry) :
    ∃ c, s.WritesAt grid lines acts n c ∧ limits.Allows c ∧
      entry = (register, [Charger.wordOfCurrent c]) := by
  induction acts using List.reverseRecOn with
  | nil =>
    have hwritten : s.written[n]? = some entry := hentry
    rw [hnone] at hwritten
    cases hwritten
  | append_singleton acts a ih =>
    have hpast : ∀ b ∈ acts, b.Possible limits := fun b hb => hacts b (List.mem_append_left _ hb)
    have hsound := h.play grid lines hlimits hpast
    obtain ⟨k, -, hwritten⟩ := written_perform grid lines hsound a
    have hlast := (List.getElem?_eq_some_iff.1 hentry).1
    rw [play_concat, hwritten, List.getElem?_append] at hentry
    split at hentry
    · obtain ⟨c, hc, hallowed, heq⟩ := ih hpast hentry
      exact ⟨c, hc.append grid lines a, hallowed, heq⟩
    · next hpastLength =>
      -- it was not there before the last act
      obtain ⟨c, hc, hmem⟩ := List.mem_flatMap.1 (List.mem_of_getElem? hentry)
      obtain ⟨i, now, snapshot, rfl, hi⟩ := exists_of_command? (Option.mem_toList.1 hc)
      refine ⟨c, ⟨acts, i, now, [], snapshot, rfl, hi, Nat.le_of_not_lt hpastLength, hlast⟩, ?_,
        List.eq_of_mem_replicate hmem⟩
      exact hsound.cycles_allowed _ (List.mem_of_getElem? hi) c rfl

end Scene

/-! ## The main result -/

/-- What is written to the charger of a home whose settings have been accepted, in whatever scenes
the operator and the cycles make, and whatever the devices do. Each write is a single word in the
register for the current, and it is made by a cycle that has chosen its setpoint `c`, which is zero
or within the limits. The word is `c`, or the largest word if `c` does not fit; so it is zero, or
between the limits as far as there are words for them. A command that goes well is the last write.
All this is read from journals that make no difference to anything else. -/
theorem charger_written (settings : Settings) (h : settings.validate = .ok ()) :
    ∃ limits, settings.energy.limits = .ok limits ∧
      ∀ {γ τ ω : Type} (grid : Source γ GridReading) (lines : Lines τ ω)
        (home : Home γ (Nat × τ) (ω × Bus.Journal)) (w : ω) (start : Timestamp) (acts : List Act),
        home.charger = .fresh settings.devices.chargerRegisters (w, []) →
        (∀ a ∈ acts, a.Possible limits) →
        let first : Scene (Home γ (Nat × τ) (ω × Bus.Journal)) := ⟨.fresh limits home start, []⟩
        let scene := first.play (Home.devices grid lines.journaled) acts
        scene.plain = first.plain.play (Home.devices grid lines) acts ∧
        (∀ n entry, scene.written[n]? = some entry →
          ∃ c word, first.WritesAt grid lines acts n c ∧ limits.Allows c ∧
            entry = (settings.devices.chargerRegisters.maxCurrent, [word]) ∧
            word.toNat = min c.amps.toNat 65535 ∧ limits.AllowsWord word) ∧
        ∀ i now snapshot c, scene.cycles[i]? = some (.stored snapshot c) →
          ((Home.devices grid lines.journaled).setMaxCurrent c scene.manager.devices).1.isOk →
          ∃ word, word.toNat = min c.amps.toNat 65535 ∧
            (scene.perform (Home.devices grid lines.journaled) (.advance i now)).written.getLast? =
              some (settings.devices.chargerRegisters.maxCurrent, [word]) := by
  obtain ⟨limits, hlimits, hordered⟩ := Settings.limits_of_validate h
  refine ⟨limits, hlimits, ?_⟩
  intro γ τ ω grid lines home w start acts hcharger hacts first scene
  subst scene
  have hsound := Scene.sound_fresh limits home start
  have hnone : home.written = [] := by
    unfold Home.written
    rw [hcharger]
    rfl
  rw [hcharger] at hsound
  refine ⟨(Scene.play_plain grid lines first acts).symm, ?_, ?_⟩
  · intro n entry hentry
    obtain ⟨c, hwrites, hallowed, rfl⟩ :=
      Scene.exists_of_written grid lines hsound hordered hnone hacts hentry
    exact ⟨c, Charger.wordOfCurrent c, hwrites, hallowed, rfl, toNat_wordOfCurrent c,
      hallowed.word⟩
  · intro i now snapshot c hi hok
    have hlast :=
      Scene.getLast?_written grid lines (hsound.play grid lines hordered hacts) hi hok now
    exact ⟨Charger.wordOfCurrent c, toNat_wordOfCurrent c, hlast⟩

/-- A home of simulated devices that have not been used, without a reading of the grid. -/
def simulatedHome : Home Unit (Nat × Unit) (Bus.Simulated × Bus.Journal) where
  grid := ()
  charger := .fresh .default ({}, [])
  heatPump := .fresh .default ({}, [])
  solar := .fresh .default ({}, [])
  battery := .fresh .default ({}, [])

def simulatedLines : Lines Unit Bus.Simulated :=
  ⟨Bus.Simulated.line "charger", Bus.Simulated.line "heat_pump", none, none⟩

/-- The operator asks for a current, and then one cycle runs. -/
def asking (c : Current) : List Act :=
  [.storeSetpoint c, .storeMode .manual, .begin] ++ List.replicate 6 (.advance 0 ⟨0, 0, 0⟩)

theorem possible_of_mem_asking {limits : CurrentLimits} {c : Current}
    (h : Panel.held? limits c = some c) : ∀ a ∈ asking c, a.Possible limits := by
  intro a ha
  rcases List.mem_append.1 ha with ha | ha
  · simp only [List.mem_cons, List.not_mem_nil, or_false] at ha
    rcases ha with rfl | rfl | rfl
    · exact ⟨c, h⟩
    · trivial
    · trivial
  · rw [List.eq_of_mem_replicate ha]
    trivial

theorem charger_written_manual :
    let first : Scene (Home Unit (Nat × Unit) (Bus.Simulated × Bus.Journal)) :=
      ⟨.fresh .default simulatedHome ⟨0, 0, 0⟩, []⟩
    Settings.default.validate = .ok () ∧
    (∀ a ∈ asking ⟨16⟩, a.Possible .default) ∧
    (first.play (Home.devices deaf.grid simulatedLines.journaled) (asking ⟨16⟩)).written[0]? =
      some (5004, [16]) ∧
    ∃ c : Current, first.WritesAt deaf.grid simulatedLines (asking ⟨16⟩) 0 c ∧
      CurrentLimits.default.Allows c ∧ (16 : Bus.Word).toNat = min c.amps.toNat 65535 := by
  intro first
  have hvalid : Settings.default.validate = .ok () := by cbv
  have hpossible : ∀ a ∈ asking ⟨16⟩, a.Possible .default := possible_of_mem_asking rfl
  have hwritten : (first.play (Home.devices deaf.grid simulatedLines.journaled)
      (asking ⟨16⟩)).written[0]? = some (5004, [16]) := by decide +kernel
  obtain ⟨limits, hlimits, hscenes⟩ := charger_written Settings.default hvalid
  have hdefault : Settings.default.energy.limits = .ok .default := by cbv
  cases hlimits.symm.trans hdefault
  obtain ⟨c, word, hc, hallowed, hentry, hword, -⟩ := (hscenes deaf.grid simulatedLines
    simulatedHome {} ⟨0, 0, 0⟩ (asking ⟨16⟩) rfl hpossible).2.1 0 _ hwritten
  cases hentry
  exact ⟨hvalid, hpossible, hwritten, c, hc, hallowed, hword⟩

/-- Limits above what fits into the register. The operator asks for 70000 A, which is the least
current, and the cycle asks it of the charger; the word in the register is below it. -/
theorem charger_written_saturated :
    let settings : Settings :=
      { Settings.default with
        energy := .ofTexts [("mincurrent", "70000"), ("maxcurrent", "80000")] }
    let limits : CurrentLimits := ⟨⟨70000⟩, ⟨80000⟩⟩
    let first : Scene (Home Unit (Nat × Unit) (Bus.Simulated × Bus.Journal)) :=
      ⟨.fresh limits simulatedHome ⟨0, 0, 0⟩, []⟩
    let scene := first.play (Home.devices deaf.grid simulatedLines.journaled) (asking ⟨70000⟩)
    settings.validate = .ok () ∧ settings.energy.limits = .ok limits ∧
    (∀ a ∈ asking ⟨70000⟩, a.Possible limits) ∧
    scene.cycles = [.done ⟨70000⟩] ∧ scene.written = [(5004, [65535])] ∧
    (65535 : Bus.Word) ≠ 0 ∧ (65535 : Bus.Word).toNat < limits.least.amps.toNat := by
  intro settings limits first scene
  exact ⟨by cbv, by cbv, possible_of_mem_asking rfl, by decide +kernel, by decide +kernel,
    by decide, by decide⟩

end Control

end HomeEnergy

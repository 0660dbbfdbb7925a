import HomeEnergy.Proofs.Bus.Turns
import HomeEnergy.Proofs.Bus.Words
import HomeEnergy.Proofs.Device.Exchanges

/-!
What becomes of a reading when a device is polled. A poll reads its registers one after another and
makes a reading of all the replies, or gives up with the first fault and leaves the reading as it is
(`update_all_or_nothing`). What a reading is made of the replies is said in numbers without a width,
by one relation for each kind of device.

A reply that was accepted has as many words as were asked for, so none of the polls ever finds it
too short to be decoded: `takesTurns_power` and the like have no case for it.
-/

namespace HomeEnergy

open Bus (Exchange Fault Line Operation Turn Word intOfWords natOfWords)

namespace Device

variable {τ ω : Type}

/-! ## Chargers, heat pumps and solar inverters -/

/-- The power of a charger is the number in its two words. -/
def Charger.Reads (replies : List (List Word)) (p : Power) : Prop :=
  ∃ words, replies = [words] ∧ p.watts.toInt = intOfWords words

/-- The power of a heat pump is ten times the number in its word. -/
def HeatPump.Reads (replies : List (List Word)) (p : Power) : Prop :=
  ∃ words, replies = [words] ∧ p.watts.toInt = 10 * intOfWords words

/-- The power of a solar inverter is the number in its two words, or zero if that is negative. -/
def Solar.Reads (replies : List (List Word)) (p : Power) : Prop :=
  ∃ words, replies = [words] ∧ p.watts.toInt = max (intOfWords words) 0

theorem Charger.takesTurns_power (line : Line τ ω) (r : ChargerRegisters) :
    (Charger.power line.journaled r).TakesTurns line [.readInput r.totalPower 2] Charger.Reads := by
  refine (Exchange.TakesTurns.execute line _).bind ?_
  rintro _ words ⟨rfl, hlength⟩
  obtain ⟨watts, hdecoded, hvalue⟩ := Bus.int32OfWords?_of_length hlength
  rw [hdecoded]
  exact Exchange.TakesTurns.pure ⟨words, rfl, hvalue⟩

theorem HeatPump.toInt_scaled (tens : Int16) : (tens.toInt32 * scale).toInt = 10 * tens.toInt := by
  have hge := tens.le_toInt
  have hlt := tens.toInt_lt
  have hscale : scale.toInt = 10 := rfl
  rw [Int32.toInt_mul, Int16.toInt_toInt32, hscale, Int.mul_comm]
  exact Int.bmod_eq_of_le (by omega) (by omega)

theorem HeatPump.takesTurns_power (line : Line τ ω) (r : HeatPumpRegisters) :
    (HeatPump.power line.journaled r).TakesTurns line [.readInput r.power 1] HeatPump.Reads := by
  refine (Exchange.TakesTurns.execute line _).bind ?_
  rintro _ words ⟨rfl, hlength⟩
  obtain ⟨tens, hdecoded, hvalue⟩ := Bus.int16OfWords?_of_length hlength
  rw [hdecoded]
  refine Exchange.TakesTurns.pure ⟨words, rfl, ?_⟩
  rw [← hvalue]
  exact toInt_scaled tens

theorem Solar.toInt_max_zero (watts : Int32) : (max watts 0).toInt = max watts.toInt 0 := by
  rw [Int.max_comm]
  show (if watts ≤ 0 then 0 else watts).toInt = _
  split
  · next hle => exact (max_eq_left (Int32.le_iff_toInt_le.1 hle)).symm
  · next hle =>
    rw [Int32.le_iff_toInt_le] at hle
    exact (max_eq_right (le_of_not_ge hle)).symm

theorem Solar.takesTurns_power (line : Line τ ω) (r : SolarRegisters) :
    (Solar.power line.journaled r).TakesTurns line [.readInput r.power 2] Solar.Reads := by
  refine (Exchange.TakesTurns.execute line _).bind ?_
  rintro _ words ⟨rfl, hlength⟩
  obtain ⟨watts, hdecoded, hvalue⟩ := Bus.int32OfWords?_of_length hlength
  rw [hdecoded]
  refine Exchange.TakesTurns.pure ⟨words, rfl, ?_⟩
  rw [← hvalue]
  exact toInt_max_zero watts

/-! ## Batteries -/

namespace Battery

/-- The number in two words of a battery, zero where it is not available. -/
def availableOfWords (words : List Word) : Nat :=
  if natOfWords words = 0xFFFFFFFF then 0 else natOfWords words

/-- The requests for a reading, in their order. -/
def reads (r : BatteryRegisters) : List Operation :=
  [.readInput r.stateOfCharge 2, .readInput r.chargePower 2, .readInput r.dischargePower 2,
    .readInput r.lifetimeCharged 4]

/-- The reading of a battery that has given these replies. Its power is what is charged less what is
discharged, as far as 32 bits can hold that, and it is never more than full. -/
def Reads (replies : List (List Word)) (r : Control.BatteryReading) : Prop :=
  ∃ charge charging discharging lifetime, replies = [charge, charging, discharging, lifetime] ∧
    r.power.watts.toInt =
      max (-2 ^ 31) (min ((availableOfWords charging : Int) - availableOfWords discharging)
        (2 ^ 31 - 1)) ∧
    r.stateOfCharge.toNat = min (availableOfWords charge) 100 ∧
    r.lifetimeCharged.wattHours.toNat = natOfWords lifetime

theorem toNat_reported (n : UInt32) :
    (reported n).toNat = if n.toNat = 0xFFFFFFFF then 0 else n.toNat := by
  have hmarker : n = notAvailable ↔ n.toNat = 0xFFFFFFFF := UInt32.toNat_inj.symm
  unfold reported
  by_cases h : n = notAvailable
  · rw [if_pos h, if_pos (hmarker.1 h)]
    rfl
  · rw [if_neg h, if_neg (hmarker.not.1 h)]

theorem toInt_netPower (charging discharging : UInt32) :
    (netPower charging discharging).watts.toInt =
      max (-2 ^ 31) (min ((charging.toNat : Int) - discharging.toNat) (2 ^ 31 - 1)) := by
  show (Int32.ofInt (max _ (min _ _))).toInt = _
  rw [Int32.toInt_minValue, Int32.toInt_maxValue]
  exact Int32.toInt_ofInt_of_le (le_max_left _ _) (by omega)

theorem takesTurns_number (line : Line τ ω) (address : UInt16) :
    (number line.journaled address).TakesTurns line [.readInput address 2]
      fun replies n => ∃ words, replies = [words] ∧ n.toNat = availableOfWords words := by
  refine (Exchange.TakesTurns.execute line _).bind ?_
  rintro _ words ⟨rfl, hlength⟩
  obtain ⟨n, hdecoded, hvalue⟩ := Bus.uint32OfWords?_of_length hlength
  rw [hdecoded]
  refine Exchange.TakesTurns.pure ⟨words, rfl, ?_⟩
  rw [toNat_reported, hvalue]
  rfl

theorem takesTurns_amount (line : Line τ ω) (address : UInt16) :
    (amount line.journaled address).TakesTurns line [.readInput address 4]
      fun replies n => ∃ words, replies = [words] ∧ n.toNat = natOfWords words := by
  refine (Exchange.TakesTurns.execute line _).bind ?_
  rintro _ words ⟨rfl, hlength⟩
  obtain ⟨n, hdecoded, hvalue⟩ := Bus.uint64OfWords?_of_length hlength
  exact Exchange.TakesTurns.decoded _ hdecoded ⟨words, rfl, hvalue⟩

theorem takesTurns_reading (line : Line τ ω) (r : BatteryRegisters) :
    (reading line.journaled r).TakesTurns line (reads r) Reads := by
  refine (takesTurns_number line r.stateOfCharge).bind ?_
  rintro _ stateOfCharge ⟨charge, rfl, hcharge⟩
  refine (takesTurns_number line r.chargePower).bind ?_
  rintro _ charging ⟨chargingWords, rfl, hcharging⟩
  refine (takesTurns_number line r.dischargePower).bind ?_
  rintro _ discharging ⟨dischargingWords, rfl, hdischarging⟩
  refine (takesTurns_amount line r.lifetimeCharged).bind ?_
  rintro _ lifetimeCharged ⟨lifetime, rfl, hlifetime⟩
  have hpower := toInt_netPower charging discharging
  rw [hcharging, hdischarging] at hpower
  have hpercent : (UInt8.ofNat (min stateOfCharge.toNat 100)).toNat =
      min (availableOfWords charge) 100 := by
    rw [UInt8.toNat_ofNat_of_lt' (by rw [UInt8.size]; omega), hcharge]
  exact Exchange.TakesTurns.pure
    ⟨charge, chargingWords, dischargingWords, lifetime, rfl, hpower, hpercent, hlifetime⟩

end Battery

end Device

/-! ## Updates -/

namespace Control

open Device

variable {κ τ ω ρ : Type}

/-- What an update comes to whose poll has these turns. -/
structure Attached.Polled (line : Line τ ω) (ops : List Bus.Operation)
    (Answers : List (List Word) → ρ → Prop) (a : Attached κ (Nat × τ) (ω × Bus.Journal) ρ)
    (turns : List Turn) (outcome : Except Fault (List (List Word))) (result : Except Fault Unit)
    (a' : Attached κ (Nat × τ) (ω × Bus.Journal) ρ) : Prop where
  /-- The reads are carried out in their order until one fails. -/
  inTurn : line.InTurn ops (a.adapter.client, a.world) turns outcome (a'.adapter.client, a'.world)
  operations : turns.map Turn.operation <+: ops
  /-- Nothing else is done with the device. -/
  journal : a'.world.2 = a.world.2 ++ turns.flatMap Turn.entries
  /-- The fault of an update is that of its last read, given by the device or the way to it or for
  a reply of the wrong length, and the reading is the one from before. -/
  failed : ∀ fault, result = .error fault → outcome = .error fault ∧
    a'.adapter.reading = a.adapter.reading ∧
    ∃ e ∈ turns.flatMap Turn.entries, e.fault? line.host = some fault
  /-- After an update that went well the reading is made of the words of all reads, each of them as
  many as were asked for. -/
  succeeded : result = .ok () → ∃ replies reading, outcome = .ok replies ∧
    turns.map Turn.operation = ops ∧
    List.Forall₂ (fun op words => words.length = op.replyLength) ops replies ∧
    a'.adapter.reading = some reading ∧ Answers replies reading

/-- The updates of a kind of device are all or nothing, whatever the device does and whatever
reading there is: a poll carries out its reads in turn and goes by their replies. Journals are not
noticed. -/
def AllOrNothing (line : Line τ ω) (poll : κ → Exchange (Nat × τ) (ω × Bus.Journal) ρ)
    (bare : κ → Exchange τ ω ρ) (reads : κ → List Bus.Operation)
    (Answers : List (List Word) → ρ → Prop) : Prop :=
  ∀ a : Attached κ (Nat × τ) (ω × Bus.Journal) ρ,
    let updated := (Attached.source poll).update a
    (Attached.source bare).update a.plain = (updated.1, updated.2.plain) ∧
      ∃ turns outcome, Attached.Polled line (reads a.adapter.registers) Answers a turns outcome
        updated.1 updated.2

theorem AllOrNothing.of_takesTurns {line : Line τ ω}
    {poll : κ → Exchange (Nat × τ) (ω × Bus.Journal) ρ} {bare : κ → Exchange τ ω ρ}
    {reads : κ → List Bus.Operation} {Answers : List (List Word) → ρ → Prop}
    (hturns : ∀ r, (poll r).TakesTurns line (reads r) Answers)
    (hmirrors : ∀ r, (poll r).Mirrors (bare r)) : AllOrNothing line poll bare reads Answers := by
  intro a updated
  refine ⟨Attached.update_plain hmirrors a, ?_⟩
  obtain ⟨turns, outcome, hturns, hconcludes⟩ :=
    hturns a.adapter.registers (a.adapter.client, a.world)
  refine ⟨turns, outcome, ?_⟩
  rcases hpoll : poll a.adapter.registers (a.adapter.client, a.world) with
    ⟨fault | reading, client, w, j⟩
  · have hupdated : updated =
        (.error fault, ⟨⟨a.adapter.registers, client, a.adapter.reading⟩, w, j⟩) := by
      simp only [updated, Attached.source, Adapter.update, Adapter.perform, hpoll]
    rw [hpoll] at hturns hconcludes
    rw [hupdated]
    cases hconcludes
    refine ⟨hturns, hturns.operations_prefix, hturns.journal_eq, fun other h => ?_, fun h => ?_⟩
    · cases h
      exact ⟨rfl, rfl, hturns.exists_fault⟩
    · cases h
  · have hupdated : updated = (.ok (), ⟨⟨a.adapter.registers, client, some reading⟩, w, j⟩) := by
      simp only [updated, Attached.source, Adapter.update, Adapter.perform, hpoll]
    rw [hpoll] at hturns hconcludes
    rw [hupdated]
    cases hconcludes with
    | answered hanswer =>
      obtain ⟨hoperations, hlengths⟩ := hturns.of_ok
      refine ⟨hturns, hturns.operations_prefix, hturns.journal_eq, fun fault h => ?_, fun _ => ?_⟩
      · cases h
      · exact ⟨_, reading, rfl, hoperations, hlengths, rfl, hanswer⟩

/-- Every kind of device with registers, for any registers, any reading that there is, any session
and any behaviour. An update that fails leaves the reading as it was, and no read comes after the
one that has failed; so it is with each of the four reads of a battery. An update that goes well
puts a reading in its place that is made of the words that were read just now. No fault is the
poll's own, as a reply that was accepted is never too short. -/
theorem update_all_or_nothing (line : Line τ ω) :
    AllOrNothing line (Charger.power line.journaled) (Charger.power line)
      (fun r => [.readInput r.totalPower 2]) Charger.Reads ∧
    AllOrNothing line (HeatPump.power line.journaled) (HeatPump.power line)
      (fun r => [.readInput r.power 1]) HeatPump.Reads ∧
    AllOrNothing line (Solar.power line.journaled) (Solar.power line)
      (fun r => [.readInput r.power 2]) Solar.Reads ∧
    AllOrNothing line (Battery.reading line.journaled) (Battery.reading line) Battery.reads
      Battery.Reads :=
  ⟨.of_takesTurns (Charger.takesTurns_power line) (Charger.mirrors_power line),
    .of_takesTurns (HeatPump.takesTurns_power line) (HeatPump.mirrors_power line),
    .of_takesTurns (Solar.takesTurns_power line) (Solar.mirrors_power line),
    .of_takesTurns (Battery.takesTurns_reading line) (Battery.mirrors_reading line)⟩

/-- A battery that stops answering with its third read keeps the reading that it had. -/
theorem update_all_or_nothing_thirdRead :
    let fault : Fault := ⟨"battery", .failure "gone"⟩
    let line : Line Unit Nat := {
      host := "battery"
      connect := fun n => (.ok (), n)
      call := fun _ _ n => (if n < 2 then .ok [0, 40] else .error fault, n + 1) }
    let a : Attached BatteryRegisters (Nat × Unit) (Nat × Bus.Journal) BatteryReading :=
      ⟨⟨.default, .fresh, some ⟨⟨-1800⟩, 64, ⟨52000⟩⟩⟩, 0, []⟩
    let updated := (Attached.source (Battery.reading line.journaled)).update a
    updated.1 = .error fault ∧ updated.2.adapter.reading = a.adapter.reading ∧
      updated.2.world.2.asked = [.readInput 30845 2, .readInput 31393 2, .readInput 31395 2,
        .readInput 31395 2] := by
  intro fault line a updated
  have hfailed : updated.1 = .error fault := rfl
  obtain ⟨-, -, -, hbattery⟩ := update_all_or_nothing line
  obtain ⟨-, turns, outcome, hpolled⟩ := hbattery a
  exact ⟨hfailed, (hpolled.failed fault hfailed).2.1, rfl⟩

end Control

end HomeEnergy

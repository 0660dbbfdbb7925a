import HomeEnergy.Proofs.Control.Exactness

/-!
How the automatic current answers to a change of what it goes by. More power left for the charger, a
lower voltage and wider or higher limits never lower it, and of the two powers it depends on nothing
but the difference. The steps between the rules, where no power is left or no voltage is read, and
the rounding go in the same direction as the quotient (`CurrentLimits.exact_mono`).
-/

namespace HomeEnergy.Control

/-- The current in exact arithmetic rises with the power, falls with the voltage, and rises with
either limit. -/
theorem CurrentLimits.exact_mono {l l' : CurrentLimits} (h : l.Ordered) (h' : l'.Ordered)
    (hleast : l.least.amps ≤ l'.least.amps) (hmost : l.most.amps ≤ l'.most.amps) {a a' : Int}
    (ha : a ≤ a') {v v' : Nat} (hv : v' ≤ v) : l.exact a v ≤ l'.exact a' v' := by
  have hleastCast : (l.least.amps.toNat : Rat) ≤ l'.least.amps.toNat := Nat.cast_le.2 hleast
  have hmostCast : (l.most.amps.toNat : Rat) ≤ l'.most.amps.toNat := Nat.cast_le.2 hmost
  rcases Int.lt_or_le 0 a with hpos | hnone
  · rcases Nat.eq_zero_or_pos v' with rfl | hv'
    · calc l.exact a v ≤ l.most.amps.toNat := (exact_between h a v).2
        _ ≤ l'.most.amps.toNat := by exact_mod_cast hmostCast
        _ = l'.exact a' 0 := (exact_zero (hpos.trans_le ha)).symm
    · have hquotient : (a : Rat) / v ≤ a' / v' :=
        div_le_div₀ (Int.cast_nonneg (hpos.trans_le ha).le) (Int.cast_le.2 ha)
          (Nat.cast_pos.2 hv') (Nat.cast_le.2 hv)
      rw [exact_of_pos (hv'.trans_le hv), exact_of_pos hv']
      exact round_mono (max_le_max hleastCast (min_le_min hmostCast hquotient))
  · calc l.exact a v = l.least.amps.toNat := exact_of_nonpos hnone
      _ ≤ l'.least.amps.toNat := by exact_mod_cast hleastCast
      _ ≤ l'.exact a' v' := (exact_between h' a' v').1

/-- Two currents of the automatic mode. More import from the grid never raises the current, more
power of the charger never lowers it, a higher voltage never raises it, also if the other voltage is
zero, and higher limits never lower it; this holds of all these changes together, and so of each of
them. As for the powers, only the difference between them counts. -/
theorem setpoint_responds {s s' : Snapshot} {grid grid' charger charger' : Power}
    {voltage voltage' : Voltage} (hs : s.metered = (some grid, some voltage, some charger))
    (hs' : s'.metered = (some grid', some voltage', some charger')) {limits limits' : CurrentLimits}
    (h : limits.Ordered) (h' : limits'.Ordered) (held held' : Current) :
    let c := setpoint .auto held s limits
    let c' := setpoint .auto held' s' limits'
    (grid'.watts ≤ grid.watts → charger.watts ≤ charger'.watts → voltage'.volts ≤ voltage.volts →
      limits.least.amps ≤ limits'.least.amps → limits.most.amps ≤ limits'.most.amps →
      c.amps ≤ c'.amps) ∧
    (charger.watts.toInt - grid.watts.toInt = charger'.watts.toInt - grid'.watts.toInt →
      voltage = voltage' → limits = limits' → c = c') := by
  intro c c'
  have hc : (c.amps.toNat : Int) = limits.exact (available grid charger) voltage.volts.toNat :=
    amps_automaticSetpoint hs h
  have hc' : (c'.amps.toNat : Int) =
      limits'.exact (available grid' charger') voltage'.volts.toNat := amps_automaticSetpoint hs' h'
  refine ⟨?_, ?_⟩
  · intro hgrid hcharger hvoltage hleast hmost
    have havailable : available grid charger ≤ available grid' charger' :=
      Int.sub_le_sub (Int32.le_iff_toInt_le.1 hcharger) (Int32.le_iff_toInt_le.1 hgrid)
    have hle := CurrentLimits.exact_mono h h' hleast hmost havailable
      (UInt32.le_iff_toNat_le.1 hvoltage)
    rw [← hc, ← hc'] at hle
    exact UInt32.le_iff_toNat_le.2 (Int.ofNat_le.1 hle)
  · rintro hdifference rfl rfl
    have havailable : available grid charger = available grid' charger' := hdifference
    rw [havailable, ← hc'] at hc
    have hamps : c.amps = c'.amps := UInt32.toNat_inj.1 (Int.ofNat_inj.1 hc)
    exact congrArg Current.mk hamps

/-- A little less import takes the quotient from just below a half to exactly there, and the current
from the lower integer to the higher one. -/
theorem setpoint_responds_half :
    let reading (grid : Int32) : Snapshot :=
      { Snapshot.empty ⟨0, 0, 0⟩ with
        gridPower := some ⟨grid⟩
        gridVoltage := some ⟨230⟩
        chargerPower := some ⟨3000⟩ }
    let limits : CurrentLimits := .default
    let c := setpoint .auto .zero (reading (-104)) limits
    let c' := setpoint .auto .zero (reading (-105)) limits
    (reading (-104)).metered = (some ⟨-104⟩, some ⟨230⟩, some ⟨3000⟩) ∧
    (reading (-105)).metered = (some ⟨-105⟩, some ⟨230⟩, some ⟨3000⟩) ∧ limits.Ordered ∧
    c = ⟨13⟩ ∧ c' = ⟨14⟩ ∧ c.amps ≤ c'.amps := by
  intro reading limits c c'
  have hs : (reading (-104)).metered = (some ⟨-104⟩, some ⟨230⟩, some ⟨3000⟩) := rfl
  have hs' : (reading (-105)).metered = (some ⟨-105⟩, some ⟨230⟩, some ⟨3000⟩) := rfl
  have hlimits : limits.Ordered := by unfold CurrentLimits.Ordered; decide
  obtain ⟨hmonotone, -⟩ := setpoint_responds hs hs' hlimits hlimits .zero .zero
  exact ⟨hs, hs', hlimits, by decide +kernel, by decide +kernel,
    hmonotone (by decide) (by decide) (by decide) (by decide) (by decide)⟩

end HomeEnergy.Control

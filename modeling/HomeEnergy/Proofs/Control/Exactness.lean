import HomeEnergy.Proofs.Binary64.Quotient
import HomeEnergy.Proofs.Control.Independence

/-!
The current of the automatic mode in exact arithmetic. The control loop divides in double precision,
keeps the quotient within the limits and only then rounds it to whole amps. All powers and voltages
are small enough for the outcome to be that of rational numbers (`amps_automaticSetpoint`), and from
there on it can be read off case by case (`setpoint_exact`).
-/

namespace HomeEnergy.Control

open Binary64 (Magnitude)

/-! ## Rounding rational numbers -/

theorem round_mono : Monotone (round : Rat → Int) := by
  intro x y h
  rw [round_eq, round_eq]
  exact Int.floor_mono (by linarith)

/-- The nearest integer to a fraction, the larger one if two are. -/
theorem round_div (a : Int) {v : Nat} (hv : 0 < v) :
    round ((a : Rat) / v) = (2 * a + v) / (2 * v) := by
  have hv' : (v : Rat) ≠ 0 := Nat.cast_ne_zero.2 hv.ne'
  have hsum : (a : Rat) / v + 1 / 2 = ((2 * a + v : Int) : Rat) / (2 * v : Nat) := by
    push_cast
    field_simp
  rw [round_eq, hsum, Rat.floor_intCast_div_natCast]
  rfl

/-! ## The current in exact arithmetic -/

/-- The available power is the difference of two numbers of 32 bits. -/
theorem natAbs_available_lt (grid charger : Power) : (available grid charger).natAbs < 2 ^ 32 := by
  have hgrid := grid.watts.le_toInt
  have hgrid' := grid.watts.toInt_lt
  have hcharger := charger.watts.le_toInt
  have hcharger' := charger.watts.toInt_lt
  unfold available
  omega

namespace CurrentLimits

/-- The current that an available power allows, in exact arithmetic. -/
def exact (l : CurrentLimits) (watts : Int) (volts : Nat) : Int :=
  if watts ≤ 0 then l.least.amps.toNat
  else if volts = 0 then l.most.amps.toNat
  else round (max (l.least.amps.toNat : Rat) (min (l.most.amps.toNat : Rat) (watts / volts)))

variable {l : CurrentLimits} {a : Int} {v : Nat}

theorem exact_of_nonpos (ha : a ≤ 0) : l.exact a v = l.least.amps.toNat := if_pos ha

theorem exact_zero (ha : 0 < a) : l.exact a 0 = l.most.amps.toNat := by
  unfold exact
  rw [if_neg (Int.not_le.2 ha), if_pos rfl]

/-- With a voltage the case without available power is no exception. -/
theorem exact_of_pos (hv : 0 < v) :
    l.exact a v =
      round (max (l.least.amps.toNat : Rat) (min (l.most.amps.toNat : Rat) (a / v))) := by
  rcases Int.lt_or_le 0 a with ha | ha
  · unfold exact
    rw [if_neg (Int.not_le.2 ha), if_neg hv.ne']
  · have hnone : (a : Rat) / v ≤ l.least.amps.toNat :=
      (div_nonpos_of_nonpos_of_nonneg (Int.cast_nonpos.2 ha) v.cast_nonneg).trans
        (Nat.cast_nonneg _)
    rw [exact_of_nonpos ha, max_eq_left ((min_le_right _ _).trans hnone), round_natCast]

/-- To round within the limits and to keep a rounded number within them is the same. -/
theorem exact_eq_clamp (hv : 0 < v) :
    l.exact a v =
      max (l.least.amps.toNat : Int) (min (l.most.amps.toNat : Int) ((2 * a + v) / (2 * v))) := by
  rw [exact_of_pos hv, round_mono.map_max, round_mono.map_min, round_natCast, round_natCast,
    round_div a hv]

theorem exact_between (h : l.Ordered) (a : Int) (v : Nat) :
    (l.least.amps.toNat : Int) ≤ l.exact a v ∧ l.exact a v ≤ l.most.amps.toNat := by
  have hordered : l.least.amps.toNat ≤ l.most.amps.toNat := h
  rcases Nat.eq_zero_or_pos v with rfl | hv
  · rcases Int.lt_or_le 0 a with ha | ha
    · rw [exact_zero ha]
      omega
    · rw [exact_of_nonpos ha]
      omega
  · rw [exact_eq_clamp hv]
    omega

/-- Less than the least current needs is made up to it. -/
theorem exact_of_lt (ha : 0 < a) (hlt : a < l.least.amps.toNat * v) :
    l.exact a v = l.least.amps.toNat := by
  have hv : 0 < v := Nat.pos_of_ne_zero fun hzero => by subst hzero; omega
  have hlow : (a : Rat) / v ≤ l.least.amps.toNat := by
    rw [div_le_iff₀ (Nat.cast_pos.2 hv)]
    exact_mod_cast hlt.le
  rw [exact_of_pos hv, max_eq_left ((min_le_right _ _).trans hlow), round_natCast]

/-- More than the largest current needs is cut down to it. -/
theorem exact_of_gt (h : l.Ordered) (hv : 0 < v) (hgt : l.most.amps.toNat * v < a) :
    l.exact a v = l.most.amps.toNat := by
  have hordered : (l.least.amps.toNat : Rat) ≤ l.most.amps.toNat := Nat.cast_le.2 h
  have hhigh : (l.most.amps.toNat : Rat) ≤ a / v := by
    rw [le_div_iff₀ (Nat.cast_pos.2 hv)]
    exact_mod_cast hgt.le
  rw [exact_of_pos hv, min_eq_left hhigh, max_eq_right hordered, round_natCast]

/-- A quotient within the limits is rounded. -/
theorem exact_of_within (hv : 0 < v) (hleast : l.least.amps.toNat * v ≤ a)
    (hmost : a ≤ l.most.amps.toNat * v) : l.exact a v = round ((a : Rat) / v) := by
  have hv' : (0 : Rat) < v := Nat.cast_pos.2 hv
  have hlow : (l.least.amps.toNat : Rat) ≤ a / v := by
    rw [le_div_iff₀ hv']
    exact_mod_cast hleast
  have hhigh : (a : Rat) / v ≤ l.most.amps.toNat := by
    rw [div_le_iff₀ hv']
    exact_mod_cast hmost
  rw [exact_of_pos hv, min_eq_right hhigh, max_eq_right hlow]

end CurrentLimits

/-- The current is kept within the limits before it is rounded, and is within them afterwards. -/
theorem nearest?_limited {watts : Nat} (hwatts : watts < 2 ^ 32) {volts : UInt32}
    (hvolts : 0 < volts.toNat) (least most : Nat) :
    (((Magnitude.ofQuotient watts volts.toNat).least (.ofNat most)).greatest
      (.ofNat least)).nearest? =
      some (max (min ((2 * watts + volts.toNat) / (2 * volts.toNat)) most) least) := by
  have hlt : volts.toNat < 2 ^ 32 := volts.toNat_lt
  have hquotient : (Magnitude.ofQuotient watts volts.toNat).nearest? =
      some ((2 * watts + volts.toNat) / (2 * volts.toNat)) :=
    Magnitude.nearest?_ofQuotient (by omega) hvolts (by omega)
  exact Magnitude.nearest?_greatest (Magnitude.nearest?_least hquotient most) least

theorem toNat_limitedCurrent {limits : CurrentLimits} (h : limits.Ordered) {watts : Nat}
    (hpos : 0 < watts) (hwatts : watts < 2 ^ 32) (voltage : Voltage) :
    ((limitedCurrent watts voltage limits).amps.toNat : Int) =
      limits.exact watts voltage.volts.toNat := by
  have hordered : limits.least.amps.toNat ≤ limits.most.amps.toNat := h
  have hmost : limits.most.amps.toNat < UInt32.size := limits.most.amps.toNat_lt
  unfold limitedCurrent
  dsimp only
  rcases Nat.eq_zero_or_pos voltage.volts.toNat with hzero | hvolts
  · -- the quotient is infinite, and the largest current is left of it
    have hnearest := Magnitude.nearest?_greatest (Magnitude.nearest?_ofNat limits.most.amps.toNat)
      limits.least.amps.toNat
    rw [hzero, show Magnitude.ofQuotient watts 0 = .infinite from rfl,
      show Magnitude.infinite.least (.ofNat limits.most.amps.toNat) =
        .ofNat limits.most.amps.toNat from rfl, hnearest, Option.getD_some,
      Nat.max_eq_left hordered, UInt32.toNat_ofNat_of_lt' hmost]
    exact (CurrentLimits.exact_zero (by omega)).symm
  · rw [nearest?_limited hwatts hvolts, Option.getD_some, UInt32.toNat_ofNat_of_lt' (by omega),
      CurrentLimits.exact_eq_clamp hvolts]
    push_cast
    rw [max_comm, min_comm]

/-- The readings that the automatic mode goes by decide its current, in exact arithmetic. -/
theorem amps_automaticSetpoint {s : Snapshot} {grid charger : Power} {voltage : Voltage}
    (hs : s.metered = (some grid, some voltage, some charger)) {limits : CurrentLimits}
    (h : limits.Ordered) :
    ((automaticSetpoint s limits).amps.toNat : Int) =
      limits.exact (available grid charger) voltage.volts.toNat := by
  simp only [Snapshot.metered, Prod.mk.injEq] at hs
  obtain ⟨hgrid, hvoltage, hcharger⟩ := hs
  have hwatts := natAbs_available_lt grid charger
  unfold automaticSetpoint
  rw [hgrid, hvoltage, hcharger]
  dsimp only
  split
  · next hnone => rw [CurrentLimits.exact_of_nonpos hnone]
  · next hpos =>
    rw [toNat_limitedCurrent h (by omega) (by omega), Int.toNat_of_nonneg (by omega)]

/-! ## The main result -/

/-- The current in automatic mode, for every available power `a`, voltage `v` and pair of limits. It
is the least current if no power is available or less than the least current needs, and the largest
one without voltage or if the power is more than enough for it. Otherwise it is the integer nearest
to `a / v`, with halves rounded up. With a voltage all this is what rational numbers give if the
quotient is first kept within the limits and then rounded. -/
theorem setpoint_exact {s : Snapshot} {grid charger : Power} {voltage : Voltage}
    (hs : s.metered = (some grid, some voltage, some charger)) {limits : CurrentLimits}
    (h : limits.Ordered) (held : Current) :
    let a : Int := charger.watts.toInt - grid.watts.toInt
    let v : Nat := voltage.volts.toNat
    let least : Nat := limits.least.amps.toNat
    let most : Nat := limits.most.amps.toNat
    let amps : Int := (setpoint .auto held s limits).amps.toNat
    a.natAbs < 2 ^ 32 ∧
    (a ≤ 0 → amps = least) ∧
    (0 < a → v = 0 → amps = most) ∧
    (0 < a → a < least * v → amps = least) ∧
    (0 < v → most * v < a → amps = most) ∧
    (0 < v → least * v ≤ a → a ≤ most * v →
      amps = (2 * a + v) / (2 * v) ∧ amps = round ((a : Rat) / v)) ∧
    (0 < v → amps = round (max (least : Rat) (min (most : Rat) (a / v)))) ∧
    least ≤ amps ∧ amps ≤ most := by
  intro a v least most amps
  have hamps : amps = limits.exact a v := amps_automaticSetpoint hs h
  rw [hamps]
  refine ⟨natAbs_available_lt grid charger, CurrentLimits.exact_of_nonpos, ?_,
    CurrentLimits.exact_of_lt, CurrentLimits.exact_of_gt h, ?_, CurrentLimits.exact_of_pos,
    CurrentLimits.exact_between h a v⟩
  · intro ha hv
    rw [hv, CurrentLimits.exact_zero ha]
  · intro hv hleast hmost
    have hround := CurrentLimits.exact_of_within hv hleast hmost
    exact ⟨hround.trans (round_div a hv), hround⟩

/-- The widest difference of two powers, half-way between two currents at the end of their range. -/
theorem setpoint_exact_widest :
    let s : Snapshot :=
      { Snapshot.empty ⟨0, 0, 0⟩ with
        gridPower := some ⟨-2147483648⟩
        gridVoltage := some ⟨2⟩
        chargerPower := some ⟨2147483647⟩ }
    let limits : CurrentLimits := ⟨⟨6⟩, ⟨4294967295⟩⟩
    s.metered = (some ⟨-2147483648⟩, some ⟨2⟩, some ⟨2147483647⟩) ∧ limits.Ordered ∧
    ((setpoint .auto .zero s limits).amps.toNat : Int) = 2147483648 := by
  intro s limits
  have hs : s.metered = (some ⟨-2147483648⟩, some ⟨2⟩, some ⟨2147483647⟩) := rfl
  have hlimits : limits.Ordered := by unfold CurrentLimits.Ordered; decide
  obtain ⟨-, -, -, -, -, hwithin, -⟩ := setpoint_exact hs hlimits .zero
  exact ⟨hs, hlimits, (hwithin (by decide) (by decide) (by decide)).1⟩

end HomeEnergy.Control

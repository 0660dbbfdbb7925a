import HomeEnergy.Proofs.Binary64.Bounds

/-!
Quotients that are rounded twice: to the format, and then to an integer. For numbers below 2 ^ 52
the first rounding has no say in the outcome (`nearest?_ofQuotient`). A half is a number of the
format, so that a quotient on either side of one or exactly on it stays there, and a quotient below
a half is too far below it to be rounded up to it.
-/

namespace HomeEnergy.Binary64

/-! ## Powers of two -/

theorem raised_natCast (n : Nat) : raised n = 2 ^ n := by
  unfold raised
  rw [Int.toNat_natCast, Nat.one_shiftLeft]

theorem raised_of_nonpos {e : Int} (h : e ≤ 0) : raised e = 1 := by
  unfold raised
  rw [Int.toNat_of_nonpos h]
  rfl

/-- The two parts of `2 ^ (a - b)`, with the denominators cleared. -/
theorem raised_sub_mul (a b : Nat) : raised (a - b) * 2 ^ b = raised (b - a) * 2 ^ a := by
  rcases Nat.le_total a b with h | h
  · obtain ⟨k, rfl⟩ := Nat.exists_eq_add_of_le h
    rw [raised_of_nonpos (by omega), show ((a + k : Nat) : Int) - a = k by omega, raised_natCast]
    ring
  · obtain ⟨k, rfl⟩ := Nat.exists_eq_add_of_le h
    rw [raised_of_nonpos (e := b - (b + k : Nat)) (by omega),
      show ((b + k : Nat) : Int) - b = k by omega, raised_natCast]
    ring

/-- `d * 2 ^ (a - b) ≤ n`, with the denominators cleared. -/
theorem mul_raised_le_iff (n d a b : Nat) :
    d * raised (a - b) ≤ n * raised (b - a) ↔ d * 2 ^ a ≤ n * 2 ^ b := by
  rw [← Nat.mul_le_mul_right_iff (Nat.two_pow_pos b), Nat.mul_assoc, raised_sub_mul a b,
    Nat.mul_right_comm n, ← Nat.mul_assoc, Nat.mul_right_comm d]
  exact Nat.mul_le_mul_right_iff (raised_pos _)

/-! ## The exponent of a quotient -/

section

variable {n d : Nat}

theorem floorLog2_bounds (n d : Nat) :
    (n.log2 : Int) - d.log2 - 1 ≤ floorLog2 n d ∧ floorLog2 n d ≤ (n.log2 : Int) - d.log2 := by
  unfold floorLog2
  dsimp only
  split <;> omega

/-- The power of two is not larger than the quotient. -/
theorem mul_raised_floorLog2_le (hn : n ≠ 0) :
    d * raised (floorLog2 n d) ≤ n * raised (-floorLog2 n d) := by
  unfold floorLog2
  dsimp only
  split
  · next h => exact h
  · -- one less is small enough whatever comes behind the first digits
    have hlow : 2 ^ n.log2 ≤ n := Nat.log2_self_le hn
    have hhigh : d ≤ 2 ^ (d.log2 + 1) := Nat.le_of_lt Nat.lt_log2_self
    have hle : d * 2 ^ n.log2 ≤ n * 2 ^ (d.log2 + 1) := by
      rw [Nat.mul_comm n]
      exact Nat.mul_le_mul hhigh hlow
    have hscaled := (mul_raised_le_iff n d n.log2 (d.log2 + 1)).2 hle
    rw [show (n.log2 : Int) - d.log2 - 1 = n.log2 - (d.log2 + 1 : Nat) by omega,
      show -((n.log2 : Int) - (d.log2 + 1 : Nat)) = (d.log2 + 1 : Nat) - n.log2 by omega]
    exact hscaled

/-- For numbers below `2 ^ 52` the last bit of the quotient stands behind the point, and is finer
than what sets quotients by `d` apart. -/
theorem exists_exponent (hn : n ≠ 0) (hsmall : n < 2 ^ 52) (hd : 0 < d) (hsmall' : d < 2 ^ 52) :
    ∃ k : Nat, max leastExponent (floorLog2 n d - fractionBits) = -((k + 1 : Nat) : Int) ∧
      d < 2 ^ (k + 1) := by
  obtain ⟨hleast, hmost⟩ := floorLog2_bounds n d
  have hnlog : n.log2 < 52 := (Nat.log2_lt hn).2 hsmall
  have hdlog : d.log2 < 52 := (Nat.log2_lt hd.ne').2 hsmall'
  obtain ⟨k, hk⟩ := Int.eq_ofNat_of_zero_le (show 0 ≤ 51 - floorLog2 n d by omega)
  have hlog : floorLog2 n d = (52 : Nat) - (k + 1 : Nat) := by omega
  have hfloor := mul_raised_floorLog2_le (d := d) hn
  rw [hlog, Int.neg_sub, mul_raised_le_iff] at hfloor
  refine ⟨k, ?_, ?_⟩
  · unfold leastExponent fractionBits
    omega
  · by_contra hcoarse
    have := Nat.mul_lt_mul_of_lt_of_le hsmall (Nat.le_of_not_lt hcoarse) hd
    linarith

/-! ## Rounding to an integer -/

/-- A quotient is not rounded below an integer that it has reached. -/
theorem le_nearestEven {m : Nat} (hd : 0 < d) (h : m * d ≤ n) : m ≤ nearestEven n d := by
  have hm : m ≤ n / d := (Nat.le_div_iff_mul_le hd).2 h
  unfold nearestEven
  dsimp only
  split <;> omega

/-- A quotient is not rounded up by more than a half. -/
theorem two_mul_nearestEven_le (n d : Nat) : 2 * (nearestEven n d * d) ≤ 2 * n + d := by
  have hdiv := Nat.div_add_mod' n d
  unfold nearestEven
  dsimp only
  split
  · omega
  · next h =>
    rw [Nat.add_one_mul (n / d)]
    omega

/-- To round a quotient to steps of `1 / (2 * h)` before it is rounded to an integer makes no
difference, if the steps are finer than what sets quotients by `d` apart. -/
theorem nearestEven_add_div {h : Nat} (hd : 0 < d) (hfine : d < 2 * h) :
    (nearestEven (n * (2 * h)) d + h) / (2 * h) = (2 * n + d) / (2 * d) := by
  generalize hq : (2 * n + d) / (2 * d) = q
  have hlow : q * (2 * d) ≤ 2 * n + d := hq ▸ Nat.div_mul_le_self _ _
  have hhigh : 2 * n + d < (q + 1) * (2 * d) :=
    (Nat.div_lt_iff_lt_mul (Nat.mul_pos Nat.two_pos hd)).1 (hq ▸ Nat.lt_succ_self q)
  refine Nat.div_eq_of_lt_le ?_ ?_
  · -- the half below `q` is itself a number of steps, and the quotient has reached it
    cases q with
    | zero =>
      rw [Nat.zero_mul]
      exact Nat.zero_le _
    | succ p =>
      have hreached : (2 * p + 1) * h * d ≤ n * (2 * h) := by
        have hscaled : (2 * p + 1) * d * h ≤ 2 * n * h := Nat.mul_le_mul_right h (by linarith)
        linarith
      have hstep := le_nearestEven hd hreached
      linarith
  · -- the half above is further away than the quotient can be rounded up
    by_contra hover
    have hstep : (2 * q + 1) * h ≤ nearestEven (n * (2 * h)) d := by linarith
    have hnear := two_mul_nearestEven_le (n * (2 * h)) d
    have hscaled : (2 * n + 1) * h ≤ (2 * q + 1) * d * h := Nat.mul_le_mul_right h (by linarith)
    have hsteps := Nat.mul_le_mul_right d hstep
    linarith

end

namespace Magnitude

/-- An even significand may be halved. -/
theorem nearest?_finite_two_mul (s : Nat) (e : Int) :
    (finite (2 * s) e).nearest? = (finite s (e + 1)).nearest? := by
  simp only [nearest?, Option.some.injEq]
  rcases Int.lt_or_le e 0 with he | he
  · obtain ⟨k, hk⟩ := Int.eq_ofNat_of_zero_le (show 0 ≤ -(e + 1) by omega)
    rw [show -e = (k + 1 : Nat) by omega, hk, raised_natCast, raised_natCast,
      raised_of_nonpos (Int.le_of_lt he), raised_of_nonpos (show e + 1 ≤ 0 by omega),
      ← Nat.mul_div_mul_left (2 * (s * 1) + 2 ^ k) (2 * 2 ^ k) Nat.two_pos]
    congr 1 <;> ring
  · obtain ⟨k, rfl⟩ := Int.eq_ofNat_of_zero_le he
    rw [show (k : Int) + 1 = (k + 1 : Nat) by omega, raised_natCast, raised_natCast,
      raised_of_nonpos (e := -(k : Int)) (by omega),
      raised_of_nonpos (e := -((k + 1 : Nat) : Int)) (by omega)]
    congr 2
    ring

/-- That a significand of too many bits is halved makes no difference to the integer. -/
theorem nearest?_ofQuotient_of_lt {n d : Nat} (hn : n ≠ 0) (hd : d ≠ 0) {e : Int}
    (he : max leastExponent (floorLog2 n d - fractionBits) = e) (hgreatest : e < greatestExponent) :
    (ofQuotient n d).nearest? =
      (finite (nearestEven (n * raised (-e)) (d * raised e)) e).nearest? := by
  unfold ofQuotient
  rw [if_neg hd, if_neg hn]
  simp only [he]
  split
  · next hs =>
    rw [if_neg (Int.not_lt.2 hgreatest), hs, ← nearest?_finite_two_mul]
    rfl
  · rw [if_neg (Int.not_lt.2 (Int.le_of_lt hgreatest))]

/-- A number with a bit behind the point at least, rounded to an integer. -/
theorem nearest?_finite_neg (s k : Nat) :
    (finite s (-(k + 1 : Nat))).nearest? = some ((s + 2 ^ k) / (2 * 2 ^ k)) := by
  simp only [nearest?, Option.some.injEq]
  rw [Int.neg_neg, raised_natCast, raised_of_nonpos (by omega), Nat.mul_one,
    ← Nat.mul_div_mul_left (s + 2 ^ k) (2 * 2 ^ k) Nat.two_pos]
  congr 1 <;> ring

/-- For numbers below `2 ^ 52` both roundings together come to one: a quotient is rounded to the
nearest integer, and to the larger one if it is half-way between two. -/
theorem nearest?_ofQuotient {n d : Nat} (hn : n < 2 ^ 52) (hd : 0 < d) (hd' : d < 2 ^ 52) :
    (ofQuotient n d).nearest? = some ((2 * n + d) / (2 * d)) := by
  rcases Nat.eq_zero_or_pos n with rfl | hpos
  · have hzero : (2 * 0 + d) / (2 * d) = 0 := Nat.div_eq_of_lt (by omega)
    rw [hzero, ofQuotient, if_neg hd.ne', if_pos rfl]
    rfl
  obtain ⟨k, he, hfine⟩ := exists_exponent hpos.ne' hn hd hd'
  rw [nearest?_ofQuotient_of_lt hpos.ne' hd.ne' he (by unfold greatestExponent; omega), Int.neg_neg,
    raised_natCast, raised_of_nonpos (e := -((k + 1 : Nat) : Int)) (by omega), Nat.mul_one,
    nearest?_finite_neg]
  rw [Nat.pow_succ'] at hfine ⊢
  rw [nearestEven_add_div hd hfine]

end Magnitude

end HomeEnergy.Binary64

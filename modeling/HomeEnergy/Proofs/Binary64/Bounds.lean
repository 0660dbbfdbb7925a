import HomeEnergy.Binary64.Magnitude
import Mathlib

/-!
Natural numbers as bounds: a magnitude that lies between two natural numbers is still between them
after it has been rounded to an integer (`nearest?_between`). So it makes no difference whether a
magnitude is kept within such bounds before it is rounded or afterwards (`nearest?_least`,
`nearest?_greatest`).
-/

namespace HomeEnergy.Binary64

theorem raised_pos (e : Int) : 0 < raised e := by
  unfold raised
  rw [Nat.one_shiftLeft]
  exact Nat.two_pow_pos _

namespace Magnitude

theorem le_refl (m : Magnitude) : m.le m = true := by
  cases m with
  | finite s e => exact decide_eq_true (Nat.le_refl _)
  | infinite => rfl

theorem le_total (a b : Magnitude) : a.le b = true ∨ b.le a = true := by
  cases a with
  | infinite => exact Or.inr (by cases b <;> rfl)
  | finite s e =>
    cases b with
    | infinite => exact Or.inl rfl
    | finite s' e' =>
      rcases Nat.le_total (s * raised (e - e')) (s' * raised (e' - e)) with h | h
      · exact Or.inl (decide_eq_true h)
      · exact Or.inr (decide_eq_true h)

theorem finite_le_ofNat {s : Nat} {e : Int} {n : Nat} :
    (finite s e).le (ofNat n) = true ↔ s * raised e ≤ n * raised (-e) := by
  simp only [ofNat, le, Int.sub_zero, Int.zero_sub, decide_eq_true_eq]

theorem ofNat_le_finite {s : Nat} {e : Int} {n : Nat} :
    (ofNat n).le (finite s e) = true ↔ n * raised (-e) ≤ s * raised e := by
  simp only [ofNat, le, Int.sub_zero, Int.zero_sub, decide_eq_true_eq]

theorem ofNat_le_ofNat {n n' : Nat} : (ofNat n).le (ofNat n') = true ↔ n ≤ n' := by
  rw [ofNat, finite_le_ofNat, Int.neg_zero]
  exact Nat.mul_le_mul_right_iff (raised_pos 0)

theorem le_of_nearest? {m : Magnitude} {least n : Nat} (hleast : (ofNat least).le m = true)
    (hn : m.nearest? = some n) : least ≤ n := by
  cases m with
  | infinite => cases hn
  | finite s e =>
    cases hn
    rw [ofNat_le_finite] at hleast
    rw [Nat.le_div_iff_mul_le (Nat.mul_pos Nat.two_pos (raised_pos _)), Nat.mul_left_comm]
    omega

theorem nearest?_le {m : Magnitude} {most n : Nat} (hmost : m.le (ofNat most) = true)
    (hn : m.nearest? = some n) : n ≤ most := by
  cases m with
  | infinite => cases hn
  | finite s e =>
    cases hn
    rw [finite_le_ofNat] at hmost
    rw [← Nat.lt_add_one_iff, Nat.div_lt_iff_lt_mul (Nat.mul_pos Nat.two_pos (raised_pos _)),
      Nat.add_one_mul most, Nat.mul_left_comm most]
    have := raised_pos (-e)
    omega

/-- What is between two natural numbers is finite, and rounding it leaves it between them. -/
theorem nearest?_between {m : Magnitude} {least most : Nat} (hleast : (ofNat least).le m = true)
    (hmost : m.le (ofNat most) = true) :
    ∃ n, m.nearest? = some n ∧ least ≤ n ∧ n ≤ most := by
  cases m with
  | infinite => cases hmost
  | finite s e => exact ⟨_, rfl, le_of_nearest? hleast rfl, nearest?_le hmost rfl⟩

theorem nearest?_ofNat (n : Nat) : (ofNat n).nearest? = some n := by
  show some ((2 * (n * 1) + 1) / (2 * 1)) = some n
  congr 1
  omega

theorem least_le_right (a b : Magnitude) : (a.least b).le b = true := by
  unfold least
  split
  · next h => exact h
  · exact le_refl b

theorem le_greatest_right (a b : Magnitude) : b.le (a.greatest b) = true := by
  unfold greatest
  split
  · exact le_refl b
  · next h => exact (le_total a b).resolve_left h

theorem greatest_le {a b c : Magnitude} (ha : a.le c = true) (hb : b.le c = true) :
    (a.greatest b).le c = true := by
  unfold greatest
  split
  · exact hb
  · exact ha

/-! ## Bounds before and after rounding -/

/-- To keep a number at most `most` and to round it can be done in either order. -/
theorem nearest?_least {m : Magnitude} {n : Nat} (hn : m.nearest? = some n) (most : Nat) :
    (m.least (ofNat most)).nearest? = some (min n most) := by
  unfold least
  split
  · next h => rw [hn, Nat.min_eq_left (nearest?_le h hn)]
  · next h =>
    have hmost := le_of_nearest? ((le_total m (ofNat most)).resolve_left h) hn
    rw [nearest?_ofNat, Nat.min_eq_right hmost]

/-- To keep a number at least `least` and to round it can be done in either order. -/
theorem nearest?_greatest {m : Magnitude} {n : Nat} (hn : m.nearest? = some n) (least : Nat) :
    (m.greatest (ofNat least)).nearest? = some (max n least) := by
  unfold greatest
  split
  · next h => rw [nearest?_ofNat, Nat.max_eq_right (nearest?_le h hn)]
  · next h =>
    have hleast := le_of_nearest? ((le_total m (ofNat least)).resolve_left h) hn
    rw [hn, Nat.max_eq_left hleast]

end Magnitude

end HomeEnergy.Binary64

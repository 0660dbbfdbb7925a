import HomeEnergy.Bus.Word
import Mathlib

/-!
The numbers that words spell, as numbers without a width: words are the digits of a number to the
base 65536, the highest first, and a signed number is in two's complement. What is read from words
is the number they spell, and what is written to words is read back.
-/

namespace HomeEnergy.Bus

/-- The number that words spell, the highest digit first. -/
def natOfWords (words : List Word) : Nat := Nat.ofDigits 65536 (words.map UInt16.toNat).reverse

/-- The signed number that words spell: the upper half of the range stands for what is negative. -/
def intOfWords (words : List Word) : Int := (natOfWords words : Int).bmod (65536 ^ words.length)

theorem natOfWords_one (a : Word) : natOfWords [a] = a.toNat := Nat.ofDigits_singleton

theorem natOfWords_two (a b : Word) : natOfWords [a, b] = 2 ^ 16 * a.toNat + b.toNat := by
  simp [natOfWords, Nat.ofDigits_cons]
  omega

theorem natOfWords_four (a b c d : Word) :
    natOfWords [a, b, c, d] =
      2 ^ 48 * a.toNat + (2 ^ 32 * b.toNat + (2 ^ 16 * c.toNat + d.toNat)) := by
  simp [natOfWords, Nat.ofDigits_cons]
  omega

/-! ## Reading -/

/-- What stands above the lowest bits and what stands in them are added up. -/
theorem shifted_or {bits high low : Nat} (h : low < 2 ^ bits) :
    high <<< bits ||| low = 2 ^ bits * high + low := by
  rw [← Nat.shiftLeft_add_eq_or_of_lt h, Nat.shiftLeft_eq, Nat.mul_comm]

/-- A word that is moved up as far as there is room for it stays whole. -/
theorem shifted_mod {word bits : Nat} (width : Nat) (h : word < 2 ^ 16)
    (hroom : bits + 16 ≤ width) : word <<< bits % 2 ^ width = word <<< bits := by
  refine Nat.mod_eq_of_lt ?_
  calc word <<< bits = word * 2 ^ bits := Nat.shiftLeft_eq word bits
    _ < 2 ^ 16 * 2 ^ bits := Nat.mul_lt_mul_of_pos_right h (Nat.two_pow_pos bits)
    _ = 2 ^ (bits + 16) := by rw [← Nat.pow_add, Nat.add_comm]
    _ ≤ 2 ^ width := Nat.pow_le_pow_right Nat.two_pos hroom

theorem int16OfWords?_of_length {words : List Word} (h : words.length = 1) :
    ∃ n, int16OfWords? words = some n ∧ n.toInt = intOfWords words := by
  obtain ⟨a, rfl⟩ := List.length_eq_one_iff.1 h
  refine ⟨a.toInt16, rfl, ?_⟩
  unfold intOfWords
  rw [natOfWords_one]
  exact BitVec.toInt_eq_toNat_bmod a.toBitVec

theorem uint32OfWords?_of_length {words : List Word} (h : words.length = 2) :
    ∃ n, uint32OfWords? words = some n ∧ n.toNat = natOfWords words := by
  obtain ⟨high, low, rfl⟩ := List.length_eq_two.1 h
  refine ⟨_, rfl, ?_⟩
  have hhigh : (high.toUInt32 <<< 16).toNat = high.toNat <<< 16 :=
    shifted_mod 32 high.toNat_lt (by decide)
  rw [UInt32.toNat_or, hhigh, UInt16.toNat_toUInt32, natOfWords_two, shifted_or low.toNat_lt]

theorem int32OfWords?_of_length {words : List Word} (h : words.length = 2) :
    ∃ n, int32OfWords? words = some n ∧ n.toInt = intOfWords words := by
  obtain ⟨n, hn, hvalue⟩ := uint32OfWords?_of_length h
  refine ⟨n.toInt32, ?_, ?_⟩
  · rw [int32OfWords?, hn, Option.map_some]
  · unfold intOfWords
    rw [← hvalue, h]
    exact BitVec.toInt_eq_toNat_bmod n.toBitVec

theorem uint64OfWords?_of_length {words : List Word} (h : words.length = 4) :
    ∃ n, uint64OfWords? words = some n ∧ n.toNat = natOfWords words := by
  match words, h with
  | [a, b, c, d], _ =>
    refine ⟨_, rfl, ?_⟩
    have ha : (a.toUInt64 <<< 48).toNat = a.toNat <<< 48 :=
      shifted_mod 64 a.toNat_lt (by decide)
    have hb : (b.toUInt64 <<< 32).toNat = b.toNat <<< 32 :=
      shifted_mod 64 b.toNat_lt (by decide)
    have hc : (c.toUInt64 <<< 16).toNat = c.toNat <<< 16 :=
      shifted_mod 64 c.toNat_lt (by decide)
    -- what stands below each word is small, from the lowest one up
    have hblt := b.toNat_lt
    have hclt := c.toNat_lt
    have hdlt := d.toNat_lt
    have hcd : 2 ^ 16 * c.toNat + d.toNat < 2 ^ 32 := by omega
    have hbcd : 2 ^ 32 * b.toNat + (2 ^ 16 * c.toNat + d.toNat) < 2 ^ 48 := by omega
    rw [UInt64.toNat_or, UInt64.toNat_or, UInt64.toNat_or, ha, hb, hc, UInt16.toNat_toUInt64,
      Nat.or_assoc, Nat.or_assoc, shifted_or hdlt, shifted_or hcd, shifted_or hbcd,
      natOfWords_four]

/-! ## Writing -/

theorem length_wordsOfUInt32 (n : UInt32) : (wordsOfUInt32 n).length = 2 := rfl

theorem natOfWords_wordsOfUInt32 (n : UInt32) : natOfWords (wordsOfUInt32 n) = n.toNat := by
  have hlt := n.toNat_lt
  have hhigh : (n >>> 16).toUInt16.toNat = n.toNat / 2 ^ 16 % 2 ^ 16 := by
    rw [UInt32.toNat_toUInt16, UInt32.toNat_shiftRight]
    exact congrArg (· % 2 ^ 16) (Nat.shiftRight_eq_div_pow _ _)
  rw [wordsOfUInt32, natOfWords_two, hhigh, UInt32.toNat_toUInt16]
  omega

theorem uint32OfWords?_wordsOfUInt32 (n : UInt32) : uint32OfWords? (wordsOfUInt32 n) = some n := by
  obtain ⟨m, hm, hvalue⟩ := uint32OfWords?_of_length (length_wordsOfUInt32 n)
  rw [natOfWords_wordsOfUInt32] at hvalue
  rw [hm, UInt32.toNat_inj.1 hvalue]

theorem int32OfWords?_wordsOfInt32 (n : Int32) : int32OfWords? (wordsOfInt32 n) = some n := by
  rw [int32OfWords?, wordsOfInt32, uint32OfWords?_wordsOfUInt32]
  rfl

end HomeEnergy.Bus

import Mathlib.Data.BitVec
/-!
# Bits of words

Tests of a word against a mask, in terms of its bits.
-/

namespace Words

variable {w : Nat}

/-- A word below a power of two has no set bit from there on. -/
theorem getLsbD_of_lt_twoPow {x : BitVec w} {i j : Nat} (hi : i < w) (hij : i ≤ j) (h : x < BitVec.twoPow w i) :
    x.getLsbD j = false := by
  have hlt : x.toNat < 2 ^ i := by
    rw [BitVec.lt_def, BitVec.toNat_twoPow_of_lt hi] at h
    exact h
  exact Nat.testBit_lt_two_pow (lt_of_lt_of_le hlt (Nat.pow_le_pow_right (by decide) hij))

/-- A test against one bit. -/
theorem and_twoPow_ne_zero {x : BitVec w} {i : Nat} (hi : i < w) : x &&& BitVec.twoPow w i ≠ 0 ↔ x.getLsbD i = true := by
  have hpow : BitVec.twoPow w i ≠ 0 := by
    intro h
    have hnat := congrArg BitVec.toNat h
    rw [BitVec.toNat_twoPow_of_lt hi] at hnat
    have hpos := Nat.two_pow_pos i
    simp only [BitVec.ofNat_eq_ofNat, BitVec.toNat_ofNat, Nat.zero_mod] at hnat
    omega
  rw [BitVec.and_twoPow]
  cases hx : x.getLsbD i with
  | true => simpa using hpow
  | false => simp

/-- Words that pass a test share a bit. -/
theorem exists_common_of_and_ne_zero {x y : BitVec w} (h : x &&& y ≠ 0) :
    ∃ i, x.getLsbD i = true ∧ y.getLsbD i = true := by
  by_contra hn
  refine h (BitVec.eq_of_getLsbD_eq fun i _ => ?_)
  have hzero : (0 : BitVec w).getLsbD i = false := BitVec.getLsbD_zero
  rw [BitVec.getLsbD_and, hzero, ← Bool.not_eq_true, Bool.and_eq_true]
  exact fun hi => hn ⟨i, hi⟩

end Words

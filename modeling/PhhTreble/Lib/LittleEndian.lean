import Mathlib.Data.List.Basic
import Mathlib.Tactic.Ring
/-!
# Little-endian words

Unsigned words as bytes, the least significant byte first.
-/

namespace LittleEndian

/-- The number a word's bytes stand for. -/
def le : List UInt8 → Nat
  | [] => 0
  | b :: bs => b.toNat + 256 * le bs

/-- The `width` bytes of a word. -/
def leBytes : Nat → Nat → List UInt8
  | 0, _ => []
  | width + 1, n => UInt8.ofNat (n % 256) :: leBytes width (n / 256)

@[simp] theorem length_leBytes (width n : Nat) : (leBytes width n).length = width := by
  induction width generalizing n with
  | zero => rfl
  | succ width ih => rw [leBytes, List.length_cons, ih]

theorem take_leBytes {width k : Nat} (h : width ≤ k) (n : Nat) : (leBytes width n).take k = leBytes width n :=
  List.take_of_length_le (by simpa using h)

theorem drop_leBytes {width k : Nat} (h : width ≤ k) (n : Nat) : (leBytes width n).drop k = [] :=
  List.drop_of_length_le (by simpa using h)

/-- A word that fits its width reads back. -/
theorem le_leBytes {width n : Nat} (h : n < 256 ^ width) : le (leBytes width n) = n := by
  induction width generalizing n with
  | zero => simp only [pow_zero, Nat.lt_one_iff] at h; rw [h]; rfl
  | succ width ih =>
    rw [pow_succ] at h
    rw [leBytes, le, ih (Nat.div_lt_of_lt_mul (by rwa [Nat.mul_comm])), UInt8.toNat_ofNat']
    omega

end LittleEndian

import Mathlib.Tactic.Ring
/-!
# Searching a number bit by bit

`bitSearch P k 0` tries the `k` bits of a number from the top and keeps a bit
when `P` holds of the number with it. For a `P` that holds of every number
below one it holds of, the result is the greatest number of `k` bits with `P`.
-/

namespace BitSearch

variable (P : Nat → Prop) [DecidablePred P]

def bitSearch : Nat → Nat → Nat
  | 0, acc => acc
  | k + 1, acc => bitSearch k (if P (acc + 2 ^ k) then acc + 2 ^ k else acc)

variable {P}

/-- Above its start, `P` holds exactly up to the result. -/
theorem bitSearch_spec (hP : ∀ a b, a ≤ b → P b → P a) (k acc : Nat) :
    acc ≤ bitSearch P k acc ∧ bitSearch P k acc < acc + 2 ^ k ∧
      ∀ c, acc < c → c < acc + 2 ^ k → (P c ↔ c ≤ bitSearch P k acc) := by
  induction k generalizing acc with
  | zero => exact ⟨Nat.le_refl _, by simp [bitSearch], fun c h1 h2 => by simp at h2; omega⟩
  | succ k ih =>
    have hpow : 2 ^ (k + 1) = 2 ^ k + 2 ^ k := by rw [Nat.pow_succ]; omega
    rw [bitSearch]
    split
    · rename_i h
      obtain ⟨h1, h2, h3⟩ := ih (acc + 2 ^ k)
      refine ⟨by omega, by omega, fun c hc hlt => ?_⟩
      by_cases hk : c ≤ acc + 2 ^ k
      · exact ⟨fun _ => by omega, fun _ => hP _ _ hk h⟩
      · exact h3 c (by omega) (by omega)
    · rename_i h
      obtain ⟨h1, h2, h3⟩ := ih acc
      refine ⟨h1, by omega, fun c hc hlt => ?_⟩
      by_cases hk : c < acc + 2 ^ k
      · exact h3 c hc hk
      · exact ⟨fun hPc => absurd (hP _ _ (by omega) hPc) h, fun hle => by omega⟩

end BitSearch

import PhhTreble.A2dp.Sbc
import PhhTreble.Lib.BitSearch
/-!
# SBC bitrates

`GetBitrate` grows with the bitpool, so the bit search of `GetBitpool` finds
the largest bitpool below a bitrate, clamped to 2..250.
-/

namespace PhhTreble.Sbc

open A2dpBits A2dp BitSearch

theorem getFrameSize_mono (cfg : Bytes) {b b' : Nat} (h : b ≤ b') : getFrameSize cfg b ≤ getFrameSize cfg b' := by
  unfold getFrameSize
  simp only [Nat.shiftLeft_eq, Nat.shiftRight_eq_div_pow]
  gcongr

theorem getBitrate_mono (cfg : Bytes) {b b' : Nat} (h : b ≤ b') : getBitrate cfg b ≤ getBitrate cfg b' := by
  unfold getBitrate
  have := getFrameSize_mono cfg h
  dsimp only
  gcongr

theorem getBitpool_eq (cfg : Bytes) (bitrate : Int) :
    getBitpool cfg bitrate = max 2 (min (bitSearch (fun b => bitrate > getBitrate cfg b) 8 0) 250) := rfl

theorem getBitpool_bounds (cfg : Bytes) (bitrate : Int) :
    2 ≤ getBitpool cfg bitrate ∧ getBitpool cfg bitrate ≤ 250 := by
  rw [getBitpool_eq]; omega

/-- What exceeds the bitrate of a bitpool exceeds that of a lower one. -/
theorem exceeds_of_le (cfg : Bytes) (bitrate : Int) (a c : Nat) (hac : a ≤ c) (hc : bitrate > getBitrate cfg c) :
    bitrate > getBitrate cfg a := by
  have := getBitrate_mono cfg hac
  omega

/-- The search reaches a bitpool exactly when the bitrate exceeds that bitpool's. -/
theorem le_getBitpool (cfg : Bytes) (bitrate : Int) {b : Nat} (h2 : 2 < b) (h250 : b ≤ 250) :
    b ≤ getBitpool cfg bitrate ↔ (getBitrate cfg b : Int) < bitrate := by
  obtain ⟨-, -, h⟩ := bitSearch_spec (P := fun b => bitrate > getBitrate cfg b) (exceeds_of_le cfg bitrate) 8 0
  rw [getBitpool_eq, ← gt_iff_lt, h b (by omega) (by omega)]
  omega

theorem getBitpool_mono (cfg : Bytes) {x y : Int} (h : x ≤ y) : getBitpool cfg x ≤ getBitpool cfg y := by
  have hx := getBitpool_bounds cfg x
  have hy := getBitpool_bounds cfg y
  by_cases h2 : getBitpool cfg x ≤ 2
  · omega
  · have := (le_getBitpool cfg x (by omega) hx.2).1 (Nat.le_refl _)
    exact (le_getBitpool cfg y (by omega) hx.2).2 (by omega)

end PhhTreble.Sbc

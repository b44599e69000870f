import Mathlib.Data.Nat.Find
import PhhTreble.A2dp.SbcBuild
/-!
# SBC arithmetic in 32 bits

The bitrate functions over `int`, where an overflow or a division by zero has no
result, and the bitpool search against its specification. On every
configuration with one bit in each field they compute what `getBitrate` and
`getBitpool` do.
-/

namespace PhhTreble.Sbc

open A2dpBits A2dp BitSearch

/-! ## The code over `int` -/

namespace Checked

/-- The result of an `int` operation. -/
def int32 (n : Int) : Option Int := if -0x80000000 ≤ n ∧ n < 0x80000000 then some n else none

def toUnsigned (n : Int) : Nat := (n % 0x100000000).toNat

def toInt (n : Nat) : Int := if n < 0x80000000 then n else n - 0x100000000

def getFrameSize (configuration : Bytes) (bitpool : Int) : Option Int := do
  let kSbcHeaderSize := 4
  let subbands : Int := getSubbandsValue (findActiveBit configuration kSubbands)
  let blocks : Int := getBlockLengthValue (findActiveBit configuration kBlockLength)
  let header ← int32 ((← int32 (4 * subbands)) * 2 ^ (!get configuration kChannelModeMono).toNat)
  let data ← int32 ((← int32 (blocks * bitpool)) * 2 ^ (get configuration kChannelModeDualChannel).toNat)
  let bits ← int32 ((← int32 (header + data)) + if get configuration kChannelModeJointStereo then subbands else 0)
  -- From here on `unsigned`.
  let bits := toUnsigned bits
  return toInt ((kSbcHeaderSize + ((bits + 7) % 0x100000000) >>> 3) % 0x100000000)

def getBitrate (configuration : Bytes) (bitpool : Int) : Option Int := do
  let sampling_frequency : Int := getSamplingFrequencyValue (findActiveBit configuration kSamplingFrequency)
  let subbands : Int := getSubbandsValue (findActiveBit configuration kSubbands)
  let blocks : Int := getBlockLengthValue (findActiveBit configuration kBlockLength)
  let bits ← int32 (8 * (← getFrameSize configuration bitpool))
  let product ← int32 (bits * sampling_frequency)
  let divisor ← int32 (blocks * subbands)
  if divisor = 0 then none else int32 (product.tdiv divisor)

/-- One turn of the loop of `GetBitpool`. -/
def tryBit (configuration : Bytes) (bitrate : Int) (bitpool : Nat) (i : Nat) : Option Nat := do
  let rate ← getBitrate configuration (bitpool + i : Nat)
  return if bitrate > rate then bitpool + i else bitpool

def getBitpool (configuration : Bytes) (bitrate : Int) : Option Nat := do
  let bitpool ← [128, 64, 32, 16, 8, 4, 2, 1].foldlM (tryBit configuration bitrate) 0
  return max 2 (min bitpool 250)

/-- The bitpools of `BuildConfiguration`. -/
def selectBitpool (remote_capabilities : Bytes) (hint : Option CodecParameters) (configuration : Bytes) :
    Option (Nat × Nat) := do
  let min_bitpool := getRange remote_capabilities kMinimumBitpool
  let max_bitpool := getRange remote_capabilities kMaximumBitpool
  let (min_bitpool, max_bitpool) :=
    if min_bitpool < 2 ∨ min_bitpool > 250 ∨ max_bitpool < 2 ∨ max_bitpool > 250 ∨ min_bitpool > max_bitpool then (2, 250)
    else (min_bitpool, max_bitpool)
  let min_bitpool := max min_bitpool (getRange capabilities kMinimumBitpool)
  let max_bitpool := max max_bitpool (getRange capabilities kMaximumBitpool)
  match hint with
  | none => return (min_bitpool, max_bitpool)
  | some hint =>
    let min_bitpool := max min_bitpool (← getBitpool configuration hint.minBitrate)
    if hint.maxBitrate ≠ 0 ∧ hint.maxBitrate ≥ hint.minBitrate then
      return (min_bitpool, min max_bitpool (← getBitpool configuration hint.maxBitrate))
    else return (min_bitpool, max_bitpool)

/-! ## The values of the fields -/

theorem int32_eq {z : Int} (n : Nat) (hz : z = n) (h : n < 0x80000000) : int32 z = some (n : Int) := by
  subst hz
  exact if_pos ⟨by omega, by omega⟩

theorem toUnsigned_eq {n : Nat} (h : n < 0x100000000) : toUnsigned n = n := by
  unfold toUnsigned
  omega

theorem toInt_eq {n : Nat} (h : n < 0x80000000) : toInt n = n := if_pos h

end Checked

/-- Exactly one bit is set in each of the fields the bitrate is computed from. -/
structure OneEach (cfg : Bytes) : Prop where
  sf : ∃! b, b ∈ kSamplingFrequency ∧ get cfg b = true
  cm : ∃! b, b ∈ kChannelMode ∧ get cfg b = true
  bl : ∃! b, b ∈ kBlockLength ∧ get cfg b = true
  sb : ∃! b, b ∈ kSubbands ∧ get cfg b = true

/-- One bit in a range is its active bit. -/
theorem active_iff {cfg : Bytes} {r : Range} :
    (∃! b, b ∈ r ∧ get cfg b = true) ↔ ∃ b, findActiveBit cfg r = some b := by
  constructor
  · rintro ⟨b, ⟨hb, hg⟩, huniq⟩
    exact ⟨b, findActiveBit_eq_some.2 ⟨hb, hg, fun b' hb' hg' => huniq b' ⟨hb', hg'⟩⟩⟩
  · rintro ⟨b, h⟩
    obtain ⟨hb, hg, huniq⟩ := findActiveBit_eq_some.1 h
    exact ⟨b, ⟨hb, hg⟩, fun b' hb' => huniq b' hb'.1 hb'.2⟩

theorem subbandsValue_mem {b : Nat} (h : b ∈ kSubbands) :
    getSubbandsValue (some b) = 4 ∨ getSubbandsValue (some b) = 8 := by
  have hb : b = 12 ∨ b = 13 := by
    simp only [mem_range, kSubbands, Range.span] at h
    omega
  rcases hb with rfl | rfl <;> decide

theorem blockLengthValue_bounds {b : Nat} (h : b ∈ kBlockLength) :
    4 ≤ getBlockLengthValue (some b) ∧ getBlockLengthValue (some b) ≤ 16 := by
  have hb : b = 8 ∨ b = 9 ∨ b = 10 ∨ b = 11 := by
    simp only [mem_range, kBlockLength, Range.span] at h
    omega
  rcases hb with rfl | rfl | rfl | rfl <;> decide

theorem samplingFrequencyValue_le (bit : Option Nat) : getSamplingFrequencyValue bit ≤ 48000 := by
  rw [getSamplingFrequencyValue]
  cases h : bit.bind (switch [(kSamplingFrequency16000, 16000), (kSamplingFrequency32000, 32000),
    (kSamplingFrequency44100, 44100), (kSamplingFrequency48000, 48000)]) with
  | none => exact Nat.zero_le _
  | some hz =>
    obtain ⟨b, -, hb⟩ := Option.bind_eq_some_iff.1 h
    have hm := mem_of_switch hb
    simp only [List.mem_cons, Prod.mk.injEq, List.not_mem_nil, or_false] at hm
    rcases hm with ⟨-, rfl⟩ | ⟨-, rfl⟩ | ⟨-, rfl⟩ | ⟨-, rfl⟩ <;> decide

namespace Checked

variable {cfg : Bytes}

/-- A frame of a bitpool that fits in a byte is at most 1033 bytes long. -/
theorem getFrameSize_eq (h : OneEach cfg) {bitpool : Nat} (hb : bitpool < 256) :
    getFrameSize cfg bitpool = some (Sbc.getFrameSize cfg bitpool : Int) ∧ Sbc.getFrameSize cfg bitpool ≤ 1033 := by
  obtain ⟨sb, hsb⟩ := active_iff.1 h.sb
  obtain ⟨bl, hbl⟩ := active_iff.1 h.bl
  have hs := subbandsValue_mem (findActiveBit_eq_some.1 hsb).1
  have hl := blockLengthValue_bounds (findActiveBit_eq_some.1 hbl).1
  have hp : getBlockLengthValue (some bl) * bitpool ≤ 16 * 255 := Nat.mul_le_mul hl.2 (Nat.le_of_lt_succ hb)
  have hm : 2 ^ (!get cfg kChannelModeMono).toNat ≤ 2 := by cases get cfg kChannelModeMono <;> decide
  have hd : 2 ^ (get cfg kChannelModeDualChannel).toNat ≤ 2 := by cases get cfg kChannelModeDualChannel <;> decide
  have hj : (if get cfg kChannelModeJointStereo then getSubbandsValue (some sb) else 0) ≤ 8 := by split <;> omega
  have hheader := Nat.mul_le_mul (show 4 * getSubbandsValue (some sb) ≤ 32 by omega) hm
  have hdata := Nat.mul_le_mul hp hd
  unfold getFrameSize Sbc.getFrameSize
  rw [hsb, hbl]
  simp only [Option.bind_eq_bind, Option.pure_def, Nat.shiftLeft_eq, Nat.shiftRight_eq_div_pow]
  generalize getSubbandsValue (some sb) = S at *
  generalize getBlockLengthValue (some bl) = B at *
  -- Every intermediate value is the natural number's.
  rw [int32_eq (4 * S) (by push_cast; rfl) (by omega), Option.bind_some,
    int32_eq (4 * S * 2 ^ (!get cfg kChannelModeMono).toNat) (by push_cast; rfl) (by omega),
    Option.bind_some, int32_eq (B * bitpool) (by push_cast; rfl) (by omega), Option.bind_some,
    int32_eq (B * bitpool * 2 ^ (get cfg kChannelModeDualChannel).toNat) (by push_cast; rfl) (by omega),
    Option.bind_some]
  generalize 4 * S * 2 ^ (!get cfg kChannelModeMono).toNat = H at *
  generalize B * bitpool * 2 ^ (get cfg kChannelModeDualChannel).toNat = D at *
  rw [int32_eq (H + D) (by push_cast; rfl) (by omega), Option.bind_some,
    int32_eq (H + D + if get cfg kChannelModeJointStereo then S else 0) (by split <;> push_cast <;> rfl) (by omega),
    Option.bind_some]
  generalize (if get cfg kChannelModeJointStereo then S else 0) = J at *
  rw [toUnsigned_eq (by omega), Nat.mod_eq_of_lt (by omega), Nat.mod_eq_of_lt (by omega), toInt_eq (by omega)]
  exact ⟨rfl, by omega⟩

theorem getBitrate_eq (h : OneEach cfg) {bitpool : Nat} (hb : bitpool < 256) :
    getBitrate cfg bitpool = some (Sbc.getBitrate cfg bitpool : Int) := by
  obtain ⟨sb, hsb⟩ := active_iff.1 h.sb
  obtain ⟨bl, hbl⟩ := active_iff.1 h.bl
  obtain ⟨hframe, hle⟩ := getFrameSize_eq h hb
  have hs := subbandsValue_mem (findActiveBit_eq_some.1 hsb).1
  have hl := blockLengthValue_bounds (findActiveBit_eq_some.1 hbl).1
  have hsf := samplingFrequencyValue_le (findActiveBit cfg kSamplingFrequency)
  have hproduct : 8 * Sbc.getFrameSize cfg bitpool * getSamplingFrequencyValue (findActiveBit cfg kSamplingFrequency) ≤
      396672000 := (Nat.mul_le_mul (Nat.mul_le_mul_left 8 hle) hsf).trans (by norm_num)
  unfold getBitrate Sbc.getBitrate
  rw [hframe, hsb, hbl]
  simp only [Option.bind_eq_bind]
  rw [Option.bind_some]
  generalize Sbc.getFrameSize cfg bitpool = F at *
  generalize getSamplingFrequencyValue (findActiveBit cfg kSamplingFrequency) = R at *
  generalize getSubbandsValue (some sb) = S at *
  generalize getBlockLengthValue (some bl) = B at *
  have hdivisor : 4 * 4 ≤ B * S ∧ B * S ≤ 16 * 8 :=
    ⟨Nat.mul_le_mul hl.1 (by omega), Nat.mul_le_mul hl.2 (by omega)⟩
  have hq : 8 * F * R / (B * S) ≤ 8 * F * R := Nat.div_le_self _ _
  rw [int32_eq (8 * F) (by push_cast; rfl) (by omega), Option.bind_some,
    int32_eq (8 * F * R) (by push_cast; rfl) (by omega), Option.bind_some,
    int32_eq (B * S) (by push_cast; rfl) (by omega), Option.bind_some, if_neg (by omega),
    int32_eq (8 * F * R / (B * S)) (Int.ofNat_tdiv _ _).symm (by omega)]

/-- The loop adds up no more than all its bits, so it probes bitpools of a byte. -/
theorem foldlM_tryBit (h : OneEach cfg) (bitrate : Int) (bits : List Nat) (bitpool : Nat)
    (hsum : bitpool + bits.sum < 256) :
    bits.foldlM (tryBit cfg bitrate) bitpool =
      some (bits.foldl (fun bitpool i => if bitrate > Sbc.getBitrate cfg (bitpool + i) then bitpool + i else bitpool)
        bitpool) := by
  induction bits generalizing bitpool with
  | nil => rfl
  | cons i bits ih =>
    rw [List.sum_cons] at hsum
    have hstep : tryBit cfg bitrate bitpool i =
        some (if bitrate > Sbc.getBitrate cfg (bitpool + i) then bitpool + i else bitpool) := by
      rw [tryBit, getBitrate_eq h (by omega)]
      rfl
    rw [List.foldlM_cons, hstep, List.foldl_cons]
    apply ih
    split <;> omega

theorem getBitpool_eq (h : OneEach cfg) (bitrate : Int) :
    getBitpool cfg bitrate = some (Sbc.getBitpool cfg bitrate) := by
  rw [getBitpool, foldlM_tryBit h bitrate _ 0 (by decide)]
  rfl

theorem selectBitpool_eq (h : OneEach cfg) (remote : Bytes) (hint : Option CodecParameters) :
    selectBitpool remote hint cfg = some (Sbc.selectBitpool remote hint cfg) := by
  unfold selectBitpool Sbc.selectBitpool
  cases hint with
  | none => rfl
  | some hint =>
    simp only [getBitpool_eq h, Option.bind_eq_bind, Option.bind_some, Option.pure_def]
    split
    · rfl
    · rfl

end Checked

/-! ## The call sites -/

theorem oneEach_of_active {cfg : Bytes} (sf : ∃ b, findActiveBit cfg kSamplingFrequency = some b)
    (cm : ∃ b, findActiveBit cfg kChannelMode = some b) (bl : ∃ b, findActiveBit cfg kBlockLength = some b)
    (sb : ∃ b, findActiveBit cfg kSubbands = some b) : OneEach cfg :=
  ⟨active_iff.2 sf, active_iff.2 cm, active_iff.2 bl, active_iff.2 sb⟩

theorem Fields.oneEach (f : Fields) : OneEach f.config :=
  oneEach_of_active ⟨_, f.active_sf⟩ ⟨_, f.active_cm⟩ ⟨_, f.active_bl⟩ ⟨_, f.active_sb⟩

/-- What an accepted configuration is. -/
structure Accepted (cfg : Bytes) (p : SbcParameters) : Prop where
  one : OneEach cfg
  min : p.min_bitpool = getRange cfg kMinimumBitpool
  max : p.max_bitpool = getRange cfg kMaximumBitpool
  min_bounds : 2 ≤ p.min_bitpool ∧ p.min_bitpool ≤ 250
  max_bounds : 2 ≤ p.max_bitpool ∧ p.max_bitpool ≤ 250
  minBitrate : p.minBitrate = getBitrate cfg p.min_bitpool
  maxBitrate : p.maxBitrate = getBitrate cfg p.max_bitpool

/-- An accepted configuration passed the check. -/
theorem ok_of_check {c : Prop} [Decidable c] {e : A2dpStatus} {x : Except A2dpStatus SbcParameters} {p : SbcParameters}
    (h : (if c then .error e else x) = .ok p) : ¬ c ∧ x = .ok p := by
  by_cases hc : c
  · rw [if_pos hc] at h
    cases h
  · rw [if_neg hc] at h
    exact ⟨hc, h⟩

theorem accepted_of_parse {cfg : Bytes} {p : SbcParameters} (h : parseConfiguration cfg = .ok p) : Accepted cfg p := by
  unfold parseConfiguration at h
  obtain ⟨-, h⟩ := ok_of_check h
  split at h
  · cases h
  case h_2 sf hsf =>
  obtain ⟨-, h⟩ := ok_of_check h
  split at h
  · cases h
  case h_2 cm hcm =>
  obtain ⟨-, h⟩ := ok_of_check h
  split at h
  · cases h
  case h_2 bl hbl =>
  split at h
  · cases h
  case h_2 sb hsb =>
  obtain ⟨-, h⟩ := ok_of_check h
  split at h
  · cases h
  case h_2 am ham =>
  obtain ⟨-, h⟩ := ok_of_check h
  obtain ⟨hmin, h⟩ := ok_of_check h
  obtain ⟨-, h⟩ := ok_of_check h
  obtain ⟨hmax, h⟩ := ok_of_check h
  obtain ⟨-, h⟩ := ok_of_check h
  have hmin' : 2 ≤ getRange cfg kMinimumBitpool ∧ getRange cfg kMinimumBitpool ≤ 250 := by omega
  have hmax' : 2 ≤ getRange cfg kMaximumBitpool ∧ getRange cfg kMaximumBitpool ≤ 250 := by omega
  cases h
  exact {
    one := oneEach_of_active ⟨sf, hsf⟩ ⟨cm, hcm⟩ ⟨bl, hbl⟩ ⟨sb, hsb⟩
    min := rfl
    max := rfl
    min_bounds := hmin'
    max_bounds := hmax'
    minBitrate := rfl
    maxBitrate := rfl }

/-! ## The search -/

/-- The largest bitpool of a byte with less than the bitrate, 0 if there is none. -/
def largestBelow (cfg : Bytes) (bitrate : Int) : Nat := Nat.findGreatest (fun b => (getBitrate cfg b : Int) < bitrate) 255

theorem bitSearch_eq_largestBelow (cfg : Bytes) (bitrate : Int) :
    bitSearch (fun b => bitrate > getBitrate cfg b) 8 0 = largestBelow cfg bitrate := by
  obtain ⟨-, hlt, h⟩ := bitSearch_spec (P := fun b => bitrate > getBitrate cfg b) (exceeds_of_le cfg bitrate) 8 0
  symm
  rw [largestBelow, Nat.findGreatest_eq_iff]
  refine ⟨by omega, ?_, ?_⟩
  · intro hne
    exact (h _ (Nat.pos_of_ne_zero hne) hlt).2 (Nat.le_refl _)
  · intro b hb hle hlow
    have := (h b (by omega) (by omega)).1 hlow
    omega

theorem getBitpool_eq_clamp (cfg : Bytes) (bitrate : Int) :
    getBitpool cfg bitrate = max 2 (min (largestBelow cfg bitrate) 250) := by
  rw [getBitpool_eq, bitSearch_eq_largestBelow]

/-- The search finds the largest bitpool below the bitrate and clamps it; bitrates
and bitpools grow with each other; and over `int` no step of the search, of the
parser or of the builder overflows or divides by zero. -/
theorem bitpool_search (cfg : Bytes) (h : OneEach cfg) :
    (∀ bitrate : Int, Checked.getBitpool cfg bitrate = some (getBitpool cfg bitrate) ∧
        getBitpool cfg bitrate = max 2 (min (largestBelow cfg bitrate) 250)) ∧
      (∀ bitpool : Nat, bitpool < 256 → Checked.getBitrate cfg bitpool = some (getBitrate cfg bitpool : Int)) ∧
      (∀ b b', b ≤ b' → getBitrate cfg b ≤ getBitrate cfg b') ∧
      (∀ x y : Int, x ≤ y → getBitpool cfg x ≤ getBitpool cfg y) ∧
      (∀ cfg p, parseConfiguration cfg = .ok p →
        Checked.getBitrate cfg p.min_bitpool = some p.minBitrate ∧
          Checked.getBitrate cfg p.max_bitpool = some p.maxBitrate) ∧
      ∀ remote hint cfg, buildConfiguration remote hint = some cfg → ∃ f : Fields, Selects remote hint f ∧
        Checked.selectBitpool remote hint f.config = some (selectBitpool remote hint f.config) ∧
        cfg = f.withBitpool (selectBitpool remote hint f.config).1 (selectBitpool remote hint f.config).2 := by
  refine ⟨fun bitrate => ⟨Checked.getBitpool_eq h bitrate, getBitpool_eq_clamp cfg bitrate⟩,
    fun bitpool hb => Checked.getBitrate_eq h hb, fun _ _ => getBitrate_mono cfg,
    fun _ _ => getBitpool_mono cfg, fun cfg p hp => ?_, fun remote hint cfg hb => ?_⟩
  · have ha := accepted_of_parse hp
    have hmin : p.min_bitpool < 256 := Nat.lt_of_le_of_lt ha.min_bounds.2 (by decide)
    have hmax : p.max_bitpool < 256 := Nat.lt_of_le_of_lt ha.max_bounds.2 (by decide)
    rw [ha.minBitrate, ha.maxBitrate]
    exact ⟨Checked.getBitrate_eq ha.one hmin, Checked.getBitrate_eq ha.one hmax⟩
  · obtain ⟨-, f, hs, hcfg⟩ := buildConfiguration_eq_some hb
    exact ⟨f, hs, Checked.selectBitpool_eq f.oneEach remote hint, hcfg⟩

/-- 44.1 kHz joint stereo in 16 blocks and 4 subbands. -/
def jointStereo : Bytes := [0x21#8, 0x15#8, 2#8, 53#8]

theorem oneEach_jointStereo : OneEach jointStereo :=
  oneEach_of_active ⟨kSamplingFrequency44100, by decide⟩ ⟨kChannelModeJointStereo, by decide⟩
    ⟨kBlockLength16, by decide⟩ ⟨kSubbands4, by decide⟩

theorem bitpool_search_jointStereo : OneEach jointStereo ∧
    Checked.getBitpool jointStereo 328000 = some (getBitpool jointStereo 328000) :=
  ⟨oneEach_jointStereo, ((bitpool_search jointStereo oneEach_jointStereo).1 328000).1⟩

end PhhTreble.Sbc

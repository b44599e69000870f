import PhhTreble.A2dp.SbcBitrate
/-!
# What the SBC builder writes

A successful build selects one bit of each field (`Fields`) and writes two
bitpools; the vector reads back as exactly these, and the parser accepts it.
-/

namespace PhhTreble.Sbc

open A2dpBits A2dp

/-- One bit number of each of the five selected fields. -/
structure Fields where
  sf : Nat
  cm : Nat
  bl : Nat
  sb : Nat
  am : Nat
  sf_mem : sf ∈ kSamplingFrequency
  cm_mem : cm ∈ kChannelMode
  bl_mem : bl ∈ kBlockLength
  sb_mem : sb ∈ kSubbands
  am_mem : am ∈ kAllocationMethod

namespace Fields
variable (f : Fields)

def bits : List Nat := [f.sf, f.cm, f.bl, f.sb, f.am]

/-- The vector with the five bits set. -/
def config : Bytes := setBits capabilities.length f.bits

/-- The five fields and the two bitpools. -/
def withBitpool (min max : Nat) : Bytes :=
  setRange (setRange f.config kMinimumBitpool min) kMaximumBitpool max

theorem bounds : f.sf ≤ 3 ∧ (4 ≤ f.cm ∧ f.cm ≤ 7) ∧ (8 ≤ f.bl ∧ f.bl ≤ 11) ∧ (12 ≤ f.sb ∧ f.sb ≤ 13) ∧
    (14 ≤ f.am ∧ f.am ≤ 15) := by
  have h1 := f.sf_mem
  have h2 := f.cm_mem
  have h3 := f.bl_mem
  have h4 := f.sb_mem
  have h5 := f.am_mem
  simp only [mem_range, kSamplingFrequency, kChannelMode, kBlockLength, kSubbands, kAllocationMethod, Range.span] at h1 h2 h3 h4 h5
  omega

theorem bits_lt : ∀ bit ∈ f.bits, bit < 8 * capabilities.length := by
  have h := f.bounds
  simp only [bits, List.mem_cons, List.not_mem_nil, or_false, length_capabilities]
  rintro bit (rfl | rfl | rfl | rfl | rfl) <;> omega

@[simp] theorem length_config : f.config.length = 4 := length_setBits _ _

theorem length_withBitpool (min max : Nat) : (f.withBitpool min max).length = capabilities.length := by
  simp [withBitpool, capabilities_eq]

theorem get_config (b : Nat) : get f.config b = true ↔ b ∈ f.bits := get_setBits f.bits_lt b

theorem get_withBitpool (min max : Nat) {b : Nat} (hb : b < 16) : get (f.withBitpool min max) b = get f.config b := by
  rw [withBitpool, get_setRange (by simp [Range.InBounds, kMaximumBitpool, Range.span]), if_neg,
    get_setRange (by simp [Range.InBounds, kMinimumBitpool, Range.span]), if_neg]
  · simp only [mem_range, kMinimumBitpool, Range.span]; omega
  · simp only [mem_range, kMaximumBitpool, Range.span]; omega

theorem findActiveBit_withBitpool (min max : Nat) {r : Range} (hr : r.first + r.len ≤ 16) :
    findActiveBit (f.withBitpool min max) r = findActiveBit f.config r :=
  findActiveBit_congr fun _ hb => f.get_withBitpool min max (Nat.lt_of_lt_of_le hb.2 hr)

theorem min_withBitpool {min : Nat} (max : Nat) (h : min < 256) :
    getRange (f.withBitpool min max) kMinimumBitpool = min := by
  have : getRange (f.withBitpool min max) kMinimumBitpool = getRange (setRange f.config kMinimumBitpool min) kMinimumBitpool :=
    getRange_congr fun b hb => by
      rw [withBitpool, get_setRange (by simp [Range.InBounds, kMaximumBitpool, Range.span]), if_neg]
      simp only [mem_range, kMinimumBitpool, kMaximumBitpool, Range.span] at hb ⊢
      omega
  rw [this, getRange_setRange (by simp [Range.InBounds, kMinimumBitpool, Range.span])]
  simp only [kMinimumBitpool, Range.span]
  omega

theorem max_withBitpool (min : Nat) {max : Nat} (h : max < 256) :
    getRange (f.withBitpool min max) kMaximumBitpool = max := by
  rw [withBitpool, getRange_setRange (by simp [Range.InBounds, kMaximumBitpool, Range.span])]
  simp only [kMaximumBitpool, Range.span]
  omega

/-! ## The active bits -/

theorem active {r : Range} {bit : Nat} (hr : bit ∈ r) (hb : bit ∈ f.bits)
    (hu : ∀ b ∈ f.bits, r.first ≤ b → b < r.first + r.len → b = bit) : findActiveBit f.config r = some bit :=
  findActiveBit_setBits f.bits_lt hr hb fun b hb hbr => hu b hb hbr.1 hbr.2

theorem active_sf : findActiveBit f.config kSamplingFrequency = some f.sf := by
  have h := f.bounds
  refine f.active f.sf_mem (by simp [bits]) ?_
  simp only [bits, List.mem_cons, List.not_mem_nil, or_false, kSamplingFrequency, Range.span]
  omega

theorem active_cm : findActiveBit f.config kChannelMode = some f.cm := by
  have h := f.bounds
  refine f.active f.cm_mem (by simp [bits]) ?_
  simp only [bits, List.mem_cons, List.not_mem_nil, or_false, kChannelMode, Range.span]
  omega

theorem active_bl : findActiveBit f.config kBlockLength = some f.bl := by
  have h := f.bounds
  refine f.active f.bl_mem (by simp [bits]) ?_
  simp only [bits, List.mem_cons, List.not_mem_nil, or_false, kBlockLength, Range.span]
  omega

theorem active_sb : findActiveBit f.config kSubbands = some f.sb := by
  have h := f.bounds
  refine f.active f.sb_mem (by simp [bits]) ?_
  simp only [bits, List.mem_cons, List.not_mem_nil, or_false, kSubbands, Range.span]
  omega

theorem active_am : findActiveBit f.config kAllocationMethod = some f.am := by
  have h := f.bounds
  refine f.active f.am_mem (by simp [bits]) ?_
  simp only [bits, List.mem_cons, List.not_mem_nil, or_false, kAllocationMethod, Range.span]
  omega

theorem withBitpool_sf (min max : Nat) : findActiveBit (f.withBitpool min max) kSamplingFrequency = some f.sf :=
  (f.findActiveBit_withBitpool min max (by decide)).trans f.active_sf

theorem withBitpool_cm (min max : Nat) : findActiveBit (f.withBitpool min max) kChannelMode = some f.cm :=
  (f.findActiveBit_withBitpool min max (by decide)).trans f.active_cm

theorem withBitpool_bl (min max : Nat) : findActiveBit (f.withBitpool min max) kBlockLength = some f.bl :=
  (f.findActiveBit_withBitpool min max (by decide)).trans f.active_bl

theorem withBitpool_sb (min max : Nat) : findActiveBit (f.withBitpool min max) kSubbands = some f.sb :=
  (f.findActiveBit_withBitpool min max (by decide)).trans f.active_sb

theorem withBitpool_am (min max : Nat) : findActiveBit (f.withBitpool min max) kAllocationMethod = some f.am :=
  (f.findActiveBit_withBitpool min max (by decide)).trans f.active_am

end Fields

/-! ## A successful build -/

/-- The selections of a build. -/
structure Selects (remote : Bytes) (hint : Option CodecParameters) (f : Fields) : Prop where
  sf : pick capabilities remote (hint.bind fun h => getSamplingFrequencyBit h.samplingFrequencyHz)
    [kSamplingFrequency44100, kSamplingFrequency48000] = some f.sf
  cm : pick capabilities remote (hint.bind fun h => getChannelModeBit h.channelMode)
    [kChannelModeJointStereo, kChannelModeStereo, kChannelModeDualChannel, kChannelModeMono] = some f.cm
  bl : pick capabilities remote none [kBlockLength16, kBlockLength12, kBlockLength8, kBlockLength4] = some f.bl
  sb : pick capabilities remote none [kSubbands8, kSubbands4] = some f.sb
  am : pick capabilities remote none [kAllocationMethodLoudness, kAllocationMethodSnr] = some f.am

/-- The two frequency tables are inverse to each other. -/
theorem samplingFrequencyBit_inv {hz : Int} {b : Nat} (h : getSamplingFrequencyBit hz = some b) :
    b ∈ kSamplingFrequency ∧ (getSamplingFrequencyValue (some b) : Int) = hz := by
  have := mem_of_switch h
  simp only [List.mem_cons, Prod.mk.injEq, List.not_mem_nil, or_false] at this
  rcases this with ⟨rfl, rfl⟩ | ⟨rfl, rfl⟩ | ⟨rfl, rfl⟩ | ⟨rfl, rfl⟩ <;> decide

theorem channelModeBit_mem {mode : ChannelMode} {b : Nat} (h : getChannelModeBit mode = some b) : b ∈ kChannelMode := by
  cases mode <;> simp only [getChannelModeBit, Option.some.injEq, reduceCtorEq] at h <;> subst h <;> decide

theorem channelModeEnum_bit {mode : ChannelMode} {b : Nat} (h : getChannelModeBit mode = some b) :
    getChannelModeEnum b = mode := by
  cases mode <;> simp only [getChannelModeBit, Option.some.injEq, reduceCtorEq] at h <;> subst h <;> decide

/-- A build that returns true selects one bit of each field that both sides
have and writes the bitpools of `selectBitpool`. -/
theorem buildConfiguration_eq_some {remote cfg : Bytes} {hint : Option CodecParameters}
    (h : buildConfiguration remote hint = some cfg) :
    remote.length = 4 ∧ ∃ f : Fields, Selects remote hint f ∧
      cfg = f.withBitpool (selectBitpool remote hint f.config).1 (selectBitpool remote hint f.config).2 := by
  unfold buildConfiguration at h
  split at h
  · cases h
  · rename_i hlen
    simp only [Option.bind_eq_bind, Option.bind_eq_some_iff, Option.pure_def, Option.some.injEq] at h
    obtain ⟨sf, hsf, cm, hcm, bl, hbl, sb, hsb, am, ham, rfl⟩ := h
    refine ⟨by simpa [capabilities_eq] using hlen, ⟨sf, cm, bl, sb, am,
      mem_of_pick hsf (fun b hb => ?_) (by decide), mem_of_pick hcm (fun b hb => ?_) (by decide),
      mem_of_pick hbl (by simp) (by decide), mem_of_pick hsb (by simp) (by decide),
      mem_of_pick ham (by simp) (by decide)⟩, ⟨hsf, hcm, hbl, hsb, ham⟩, rfl⟩
    · obtain ⟨_, _, hb'⟩ := Option.bind_eq_some_iff.1 hb
      exact (samplingFrequencyBit_inv hb').1
    · obtain ⟨_, _, hb'⟩ := Option.bind_eq_some_iff.1 hb
      exact channelModeBit_mem hb'

/-- A hinted frequency both sides have is the one selected. -/
theorem Selects.sf_hint {remote : Bytes} {hint : CodecParameters} {f : Fields} {b : Nat}
    (h : Selects remote (some hint) f) (hb : getSamplingFrequencyBit hint.samplingFrequencyHz = some b)
    (hl : get capabilities b = true) (hr : get remote b = true) : f.sf = b := by
  have hsf := h.sf
  rw [Option.bind_some, hb] at hsf
  exact pick_hint hsf hl hr

theorem Selects.cm_hint {remote : Bytes} {hint : CodecParameters} {f : Fields} {b : Nat}
    (h : Selects remote (some hint) f) (hb : getChannelModeBit hint.channelMode = some b)
    (hl : get capabilities b = true) (hr : get remote b = true) : f.cm = b := by
  have hcm := h.cm
  rw [Option.bind_some, hb] at hcm
  exact pick_hint hcm hl hr

/-! ## The bitpools written -/

theorem local_bitpools :
    getRange capabilities kMinimumBitpool = kDefaultMinimumBitpool ∧
      getRange capabilities kMaximumBitpool = kDefaultMaximumBitpool := by decide

theorem selectBitpool_bounds (remote : Bytes) (hint : Option CodecParameters) (cfg : Bytes) :
    (2 ≤ (selectBitpool remote hint cfg).1 ∧ (selectBitpool remote hint cfg).1 ≤ 250) ∧
      (2 ≤ (selectBitpool remote hint cfg).2 ∧ (selectBitpool remote hint cfg).2 ≤ 250) := by
  unfold selectBitpool
  rw [local_bitpools.1, local_bitpools.2, kDefaultMinimumBitpool, kDefaultMaximumBitpool]
  generalize getRange remote kMinimumBitpool = rmin
  generalize getRange remote kMaximumBitpool = rmax
  cases hint with
  | none => dsimp only; split <;> dsimp only <;> omega
  | some hint =>
    have h1 := getBitpool_bounds cfg hint.minBitrate
    have h2 := getBitpool_bounds cfg hint.maxBitrate
    dsimp only
    split <;> dsimp only <;> split <;> omega

/-! ## Parsing what was built -/

/-- The parameters the parser reports for a vector the builder wrote. -/
def Fields.parameters (f : Fields) (min max : Nat) : SbcParameters where
  channelMode := getChannelModeEnum f.cm
  samplingFrequencyHz := getSamplingFrequencyValue (some f.sf)
  bitdepth := kBitdepth
  minBitrate := getBitrate (f.withBitpool min max) min
  maxBitrate := getBitrate (f.withBitpool min max) max
  allocation_method := getAllocationMethodEnum f.am
  block_length := getBlockLengthValue (some f.bl)
  subbands := getSubbandsValue (some f.sb)
  min_bitpool := min
  max_bitpool := max

/-- The parser accepts every vector whose fields the local capabilities have
and whose bitpools are in range. -/
theorem parseConfiguration_withBitpool (f : Fields) {min max : Nat} (hmin : 2 ≤ min ∧ min ≤ 250)
    (hmax : 2 ≤ max ∧ max ≤ 250) (hl : ∀ bit ∈ f.bits, get capabilities bit = true) :
    parseConfiguration (f.withBitpool min max) = .ok (f.parameters min max) := by
  have hsf : get capabilities f.sf = true := hl _ (by simp [Fields.bits])
  have hcm : get capabilities f.cm = true := hl _ (by simp [Fields.bits])
  have hsb : get capabilities f.sb = true := hl _ (by simp [Fields.bits])
  have ham : get capabilities f.am = true := hl _ (by simp [Fields.bits])
  have h1 : ¬ (min < 2 ∨ min > 250) := by omega
  have h2 : ¬ (max < 2 ∨ max > 250) := by omega
  have h3 : ¬ min < kDefaultMinimumBitpool := by simp only [kDefaultMinimumBitpool]; omega
  have h4 : ¬ max > kDefaultMaximumBitpool := by simp only [kDefaultMaximumBitpool]; omega
  unfold parseConfiguration
  rw [if_neg (by simp [f.length_withBitpool]),
    f.withBitpool_sf, f.withBitpool_cm, f.withBitpool_bl, f.withBitpool_sb, f.withBitpool_am,
    f.min_withBitpool max (by omega), f.max_withBitpool min (by omega), local_bitpools.1, local_bitpools.2]
  simp only [hsf, hcm, hsb, ham, h1, h2, h3, h4, Bool.not_true, Bool.false_eq_true, if_false]
  rfl

theorem Selects.bits {remote : Bytes} {hint : Option CodecParameters} {f : Fields} (h : Selects remote hint f) :
    ∀ bit ∈ f.bits, get capabilities bit = true ∧ get remote bit = true := by
  simp only [Fields.bits, List.mem_cons, List.not_mem_nil, or_false]
  rintro bit (rfl | rfl | rfl | rfl | rfl)
  · exact pick_supported h.sf
  · exact pick_supported h.cm
  · exact pick_supported h.bl
  · exact pick_supported h.sb
  · exact pick_supported h.am

end PhhTreble.Sbc

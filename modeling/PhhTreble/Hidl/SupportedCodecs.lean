import PhhTreble.Lib.Words
import PhhTreble.Hidl.Config
/-!
# BluetoothAudioSupportedCodecsDB

Which offload codec configurations the HIDL implementation accepts. A client may
put any word into a field of an enumeration, so here the fields are words, as
`IsSingleBit` takes them. The enumerators are those of the HIDL interface.
-/

namespace PhhTreble.Hidl.SupportedCodecsDB

/-! ## IsSingleBit -/

/-- The loop, with `turns` left; `none` if it takes more. -/
def singleBitLoop (bitmasks bitfield : BitVec 32) : Nat → BitVec 32 → Bool → Option Bool
  | 0, _, _ => none
  | turns + 1, test_bit, single =>
    if test_bit ≤ bitmasks ∧ test_bit ≤ bitfield then
      let common := bitfield &&& test_bit ≠ 0 ∧ bitmasks &&& test_bit ≠ 0
      if common ∧ single then some false
      else
        let single := decide common || single
        if test_bit = 0x80000000 then some single
        else singleBitLoop bitmasks bitfield turns (test_bit <<< 1) single
    else some single

def isSingleBit (bitmasks bitfield : BitVec 32) : Bool := (singleBitLoop bitmasks bitfield 32 1 false).getD false

/-! ## Configurations and capabilities -/

structure SbcParameters where
  sampleRate : BitVec 32
  channelMode : BitVec 32
  blockLength : BitVec 32
  numSubbands : BitVec 32
  allocMethod : BitVec 32
  bitsPerSample : BitVec 32
  minBitpool : BitVec 8
  maxBitpool : BitVec 8
deriving DecidableEq, Repr

structure AacParameters where
  objectType : BitVec 32
  sampleRate : BitVec 32
  channelMode : BitVec 32
  variableBitRateEnabled : BitVec 32
  bitsPerSample : BitVec 32
deriving DecidableEq, Repr

structure LdacParameters where
  sampleRate : BitVec 32
  channelMode : BitVec 32
  qualityIndex : BitVec 32
  bitsPerSample : BitVec 32
deriving DecidableEq, Repr

structure AptxParameters where
  sampleRate : BitVec 32
  channelMode : BitVec 32
  bitsPerSample : BitVec 32
deriving DecidableEq, Repr

/-- `CodecConfiguration::CodecSpecific`. -/
inductive CodecSpecific where
  | sbcConfig (c : SbcParameters)
  | aacConfig (c : AacParameters)
  | ldacConfig (c : LdacParameters)
  | aptxConfig (c : AptxParameters)
deriving DecidableEq, Repr

/-- The enumerators that the capabilities and the checks name. -/
structure Enumerators where
  rate44100 : BitVec 32
  rate48000 : BitVec 32
  rate88200 : BitVec 32
  rate96000 : BitVec 32
  bits16 : BitVec 32
  bits24 : BitVec 32
  bits32 : BitVec 32
  stereo : BitVec 32
  sbcMono : BitVec 32
  sbcJointStereo : BitVec 32
  blocks4 : BitVec 32
  blocks8 : BitVec 32
  blocks12 : BitVec 32
  blocks16 : BitVec 32
  subband8 : BitVec 32
  allocMdL : BitVec 32
  mpeg2Lc : BitVec 32
  variableBitRateDisabled : BitVec 32
  variableBitRateEnabled : BitVec 32
  ldacDual : BitVec 32
  ldacStereo : BitVec 32
  qualityHigh : BitVec 32
  qualityLow : BitVec 32
  qualityAbr : BitVec 32

variable (E : Enumerators)

def kDefaultOffloadSbcCapability : SbcParameters where
  sampleRate := E.rate44100
  channelMode := E.sbcMono ||| E.sbcJointStereo
  blockLength := E.blocks4 ||| E.blocks8 ||| E.blocks12 ||| E.blocks16
  numSubbands := E.subband8
  allocMethod := E.allocMdL
  bitsPerSample := E.bits16
  minBitpool := 2
  maxBitpool := 53

def kDefaultOffloadAacCapability : AacParameters :=
  ⟨E.mpeg2Lc, E.rate44100, E.stereo, E.variableBitRateEnabled, E.bits16⟩

def kDefaultOffloadLdacCapability : LdacParameters where
  sampleRate := E.rate44100 ||| E.rate48000 ||| E.rate88200 ||| E.rate96000
  channelMode := E.ldacDual ||| E.ldacStereo
  qualityIndex := E.qualityHigh
  bitsPerSample := E.bits16 ||| E.bits24 ||| E.bits32

def kDefaultOffloadAptxCapability : AptxParameters := ⟨E.rate44100 ||| E.rate48000, E.stereo, E.bits16⟩

def kDefaultOffloadAptxHdCapability : AptxParameters := ⟨E.rate44100 ||| E.rate48000, E.stereo, E.bits24⟩

/-! ## The validators -/

/-- A field that holds one bit of `mask`, and what the local side supports. -/
structure OneHotField where
  value : BitVec 32
  mask : BitVec 32
  capability : BitVec 32
deriving DecidableEq, Repr

/-- The body that the validators share: what makes a configuration invalid
besides its one-hot fields, and what else is to be supported. -/
def isValid (fields : List OneHotField) (invalid supported : Bool) : Bool :=
  if (fields.any fun field => !isSingleBit field.value field.mask) || invalid then false
  else (fields.all fun field => field.value &&& field.capability != 0) && supported

def sbcFields (sbc_data : SbcParameters) : List OneHotField :=
  let capability := kDefaultOffloadSbcCapability E
  [⟨sbc_data.sampleRate, 0xff, capability.sampleRate⟩, ⟨sbc_data.channelMode, 0x0f, capability.channelMode⟩,
    ⟨sbc_data.blockLength, 0xf0, capability.blockLength⟩, ⟨sbc_data.numSubbands, 0x0c, capability.numSubbands⟩,
    ⟨sbc_data.allocMethod, 0x03, capability.allocMethod⟩, ⟨sbc_data.bitsPerSample, 0x07, capability.bitsPerSample⟩]

def isOffloadSbcConfigurationValid : CodecSpecific → Bool
  | .sbcConfig sbc_data =>
    let capability := kDefaultOffloadSbcCapability E
    isValid (sbcFields E sbc_data) (sbc_data.minBitpool > sbc_data.maxBitpool)
      (capability.minBitpool ≤ sbc_data.minBitpool ∧ sbc_data.maxBitpool ≤ capability.maxBitpool)
  | _ => false

def aacFields (aac_data : AacParameters) : List OneHotField :=
  let capability := kDefaultOffloadAacCapability E
  [⟨aac_data.objectType, 0xf0, capability.objectType⟩, ⟨aac_data.sampleRate, 0xff, capability.sampleRate⟩,
    ⟨aac_data.channelMode, 0x03, capability.channelMode⟩, ⟨aac_data.bitsPerSample, 0x07, capability.bitsPerSample⟩]

def isOffloadAacConfigurationValid : CodecSpecific → Bool
  | .aacConfig aac_data =>
    isValid (aacFields E aac_data) false
      (aac_data.variableBitRateEnabled = E.variableBitRateDisabled ∨
        (kDefaultOffloadAacCapability E).variableBitRateEnabled = E.variableBitRateEnabled)
  | _ => false

def ldacFields (ldac_data : LdacParameters) : List OneHotField :=
  let capability := kDefaultOffloadLdacCapability E
  [⟨ldac_data.sampleRate, 0xff, capability.sampleRate⟩, ⟨ldac_data.channelMode, 0x07, capability.channelMode⟩,
    ⟨ldac_data.bitsPerSample, 0x07, capability.bitsPerSample⟩]

def isOffloadLdacConfigurationValid : CodecSpecific → Bool
  | .ldacConfig ldac_data =>
    isValid (ldacFields E ldac_data) (ldac_data.qualityIndex > E.qualityLow ∧ ldac_data.qualityIndex ≠ E.qualityAbr) true
  | _ => false

def aptxFields (capability aptx_data : AptxParameters) : List OneHotField :=
  [⟨aptx_data.sampleRate, 0xff, capability.sampleRate⟩, ⟨aptx_data.channelMode, 0x03, capability.channelMode⟩,
    ⟨aptx_data.bitsPerSample, 0x07, capability.bitsPerSample⟩]

def isOffloadAptxConfigurationValid : CodecSpecific → Bool
  | .aptxConfig aptx_data => isValid (aptxFields (kDefaultOffloadAptxCapability E) aptx_data) false true
  | _ => false

def isOffloadAptxHdConfigurationValid : CodecSpecific → Bool
  | .aptxConfig aptx_data => isValid (aptxFields (kDefaultOffloadAptxHdCapability E) aptx_data) false true
  | _ => false

/-- The validator that `IsOffloadCodecConfigurationValid` calls for a codec. -/
def validator : CodecType → Option (CodecSpecific → Bool)
  | .sbc => some (isOffloadSbcConfigurationValid E)
  | .aac => some (isOffloadAacConfigurationValid E)
  | .ldac => some (isOffloadLdacConfigurationValid E)
  | .aptx => some (isOffloadAptxConfigurationValid E)
  | .aptxHd => some (isOffloadAptxHdConfigurationValid E)
  | .unknown => none

structure CodecConfiguration where
  codecType : CodecType
  encodedAudioBitrate : BitVec 32
  config : CodecSpecific
deriving DecidableEq, Repr

/-- For the session type `A2DP_HARDWARE_OFFLOAD_DATAPATH`. -/
def isOffloadCodecConfigurationValid (codec_config : CodecConfiguration) : Bool :=
  if codec_config.encodedAudioBitrate < 0x00000001 ∨ 0x00ffffff < codec_config.encodedAudioBitrate then false
  else match validator E codec_config.codecType with
    | none => false
    | some valid => valid codec_config.config

/-! ## One bit -/

/-- The words have one set bit in common, and no more. -/
def OneCommonBit (bitmasks bitfield : BitVec 32) : Prop :=
  ∃! i, bitmasks.getLsbD i = true ∧ bitfield.getLsbD i = true

/-- The bits below the `i`-th have been looked at: `single` says whether one of
them is common, and no two are. -/
structure Scanned (bitmasks bitfield : BitVec 32) (i : Nat) (single : Bool) : Prop where
  single_iff : single = true ↔ ∃ j < i, bitmasks.getLsbD j = true ∧ bitfield.getLsbD j = true
  unique : ∀ j < i, ∀ j' < i, bitmasks.getLsbD j = true → bitfield.getLsbD j = true → bitmasks.getLsbD j' = true →
    bitfield.getLsbD j' = true → j = j'

variable {bitmasks bitfield : BitVec 32}

/-- Where no later bit is common, `single` is the answer. -/
theorem Scanned.answer {i : Nat} {single : Bool} (h : Scanned bitmasks bitfield i single)
    (hrest : ∀ j, i ≤ j → bitmasks.getLsbD j = true → bitfield.getLsbD j = true → False) :
    single = true ↔ OneCommonBit bitmasks bitfield := by
  have hlt : ∀ j, bitmasks.getLsbD j = true ∧ bitfield.getLsbD j = true → j < i := by
    intro j hj
    by_contra hge
    exact hrest j (Nat.le_of_not_lt hge) hj.1 hj.2
  rw [h.single_iff]
  constructor
  · rintro ⟨j, hj, hbit⟩
    exact ⟨j, hbit, fun j' hbit' => h.unique j' (hlt j' hbit') j hj hbit'.1 hbit'.2 hbit.1 hbit.2⟩
  · rintro ⟨j, hbit, -⟩
    exact ⟨j, hlt j hbit, hbit⟩

/-- A bit that is looked at. -/
theorem Scanned.next {i : Nat} {single : Bool} (h : Scanned bitmasks bitfield i single)
    (hone : ¬ ((bitmasks.getLsbD i = true ∧ bitfield.getLsbD i = true) ∧ single = true)) :
    Scanned bitmasks bitfield (i + 1)
      (decide (bitmasks.getLsbD i = true ∧ bitfield.getLsbD i = true) || single) := by
  have hnew : ∀ j < i, bitmasks.getLsbD j = true → bitfield.getLsbD j = true → bitmasks.getLsbD i = true →
      bitfield.getLsbD i = true → False := by
    intro j hj hm hf hmi hfi
    exact hone ⟨⟨hmi, hfi⟩, h.single_iff.2 ⟨j, hj, hm, hf⟩⟩
  constructor
  · rw [Bool.or_eq_true, decide_eq_true_eq, h.single_iff]
    constructor
    · rintro (hbit | ⟨j, hj, hbit⟩)
      · exact ⟨i, Nat.lt_succ_self i, hbit⟩
      · exact ⟨j, Nat.lt_succ_of_lt hj, hbit⟩
    · rintro ⟨j, hj, hbit⟩
      rcases Nat.lt_succ_iff_lt_or_eq.1 hj with hj | rfl
      · exact .inr ⟨j, hj, hbit⟩
      · exact .inl hbit
  · intro j hj j' hj' hm hf hm' hf'
    rcases Nat.lt_succ_iff_lt_or_eq.1 hj with hj | rfl
    · rcases Nat.lt_succ_iff_lt_or_eq.1 hj' with hj' | rfl
      · exact h.unique j hj j' hj' hm hf hm' hf'
      · exact (hnew j hj hm hf hm' hf').elim
    · rcases Nat.lt_succ_iff_lt_or_eq.1 hj' with hj' | rfl
      · exact (hnew j' hj' hm' hf' hm hf).elim
      · rfl

/-- With the top bit as the last one the loop ends in time, with the answer. -/
theorem singleBitLoop_spec {turns i : Nat} {single : Bool} (hi : i < 32) (hturns : 32 ≤ i + turns)
    (h : Scanned bitmasks bitfield i single) :
    ∃ r, singleBitLoop bitmasks bitfield turns (BitVec.twoPow 32 i) single = some r ∧
      (r = true ↔ OneCommonBit bitmasks bitfield) := by
  induction turns generalizing i single with
  | zero => omega
  | succ turns ih =>
    have hcommon : (bitfield &&& BitVec.twoPow 32 i ≠ 0 ∧ bitmasks &&& BitVec.twoPow 32 i ≠ 0) =
        (bitmasks.getLsbD i = true ∧ bitfield.getLsbD i = true) := by
      rw [Words.and_twoPow_ne_zero hi, Words.and_twoPow_ne_zero hi]
      exact propext and_comm
    simp only [singleBitLoop, hcommon]
    split
    · split
      · -- A second common bit.
        rename_i hsecond
        refine ⟨false, rfl, iff_of_false Bool.false_ne_true ?_⟩
        rintro ⟨k, -, huniq⟩
        obtain ⟨j, hj, hbit⟩ := h.single_iff.1 hsecond.2
        exact absurd ((huniq j hbit).trans (huniq i hsecond.1).symm) (Nat.ne_of_lt hj)
      · rename_i hone
        have hnext := h.next hone
        split
        · rename_i htop
          have hi31 : i = 31 := by
            have hnat := congrArg BitVec.toNat htop
            rw [BitVec.toNat_twoPow_of_lt hi] at hnat
            exact Nat.pow_right_injective (Nat.le_refl 2) (hnat.trans (by decide : (0x80000000 : BitVec 32).toNat = 2 ^ 31))
          refine ⟨_, rfl, hnext.answer fun j hj hm _ => ?_⟩
          rw [BitVec.getLsbD_of_ge _ _ (by omega)] at hm
          cases hm
        · rename_i htop
          have hi31 : i ≠ 31 := by
            rintro rfl
            exact htop rfl
          have hshift : BitVec.twoPow 32 i <<< 1 = BitVec.twoPow 32 (i + 1) := by
            rw [BitVec.twoPow_eq, BitVec.twoPow_eq, BitVec.shiftLeft_add]
          rw [hshift]
          exact ih (by omega) (by omega) hnext
    · rename_i hguard
      refine ⟨single, rfl, h.answer fun j hj hm hf => ?_⟩
      -- One of the words ends below the bit.
      rcases not_and_or.1 hguard with hlt | hlt
      · rw [Words.getLsbD_of_lt_twoPow hi hj (BitVec.not_le.1 hlt)] at hm
        cases hm
      · rw [Words.getLsbD_of_lt_twoPow hi hj (BitVec.not_le.1 hlt)] at hf
        cases hf

variable (bitmasks bitfield) in
/-- 32 turns are enough, and the result says whether one bit is common. -/
theorem singleBitLoop_eq {turns : Nat} (h : 32 ≤ turns) :
    ∃ r, singleBitLoop bitmasks bitfield turns 1 false = some r ∧ (r = true ↔ OneCommonBit bitmasks bitfield) := by
  have hstart : Scanned bitmasks bitfield 0 false :=
    ⟨by simp, fun j hj => absurd hj (Nat.not_lt_zero j)⟩
  exact singleBitLoop_spec (i := 0) (by decide) (by omega) hstart

theorem isSingleBit_iff : isSingleBit bitmasks bitfield = true ↔ OneCommonBit bitmasks bitfield := by
  obtain ⟨r, hr, hiff⟩ := singleBitLoop_eq bitmasks bitfield (Nat.le_refl 32)
  rw [isSingleBit, hr]
  exact hiff

theorem singleBitLoop_isSingleBit {turns : Nat} (h : 32 ≤ turns) :
    singleBitLoop bitmasks bitfield turns 1 false = some (isSingleBit bitmasks bitfield) := by
  obtain ⟨r, hr, hiff⟩ := singleBitLoop_eq bitmasks bitfield h
  rw [hr, Bool.eq_iff_iff.2 (hiff.trans isSingleBit_iff.symm)]

/-! ## What the validators let through -/

namespace OneHotField

/-- The value is one bit of the mask, and the local side has a bit of it. -/
structure Selected (field : OneHotField) : Prop where
  one : OneCommonBit field.value field.mask
  shared : ∃ i, field.value.getLsbD i = true ∧ field.capability.getLsbD i = true

end OneHotField

/-- The one-hot fields of a configuration, if it is one of the codec. -/
def oneHotFields : CodecType → CodecSpecific → Option (List OneHotField)
  | .sbc, .sbcConfig sbc_data => some (sbcFields E sbc_data)
  | .aac, .aacConfig aac_data => some (aacFields E aac_data)
  | .ldac, .ldacConfig ldac_data => some (ldacFields E ldac_data)
  | .aptx, .aptxConfig aptx_data => some (aptxFields (kDefaultOffloadAptxCapability E) aptx_data)
  | .aptxHd, .aptxConfig aptx_data => some (aptxFields (kDefaultOffloadAptxHdCapability E) aptx_data)
  | _, _ => none

theorem isValid_selected {fields : List OneHotField} {invalid supported : Bool} (h : isValid fields invalid supported = true) :
    ∀ field ∈ fields, field.Selected := by
  unfold isValid at h
  split at h
  · cases h
  · rename_i hvalid
    rw [Bool.or_eq_true, not_or, List.any_eq_true] at hvalid
    rw [Bool.and_eq_true, List.all_eq_true] at h
    intro field hfield
    have hsingle : isSingleBit field.value field.mask = true := by
      by_contra hn
      exact hvalid.1 ⟨field, hfield, by simpa using hn⟩
    exact ⟨isSingleBit_iff.1 hsingle, Words.exists_common_of_and_ne_zero (by simpa using h.1 field hfield)⟩

theorem validator_selected {codecType : CodecType} {valid : CodecSpecific → Bool} {codec_specific : CodecSpecific}
    (hv : validator E codecType = some valid) (h : valid codec_specific = true) :
    ∃ fields, oneHotFields E codecType codec_specific = some fields ∧ ∀ field ∈ fields, field.Selected := by
  cases codecType with
  | unknown => cases hv
  | sbc =>
    cases hv
    cases codec_specific with
    | sbcConfig sbc_data => exact ⟨_, rfl, isValid_selected h⟩
    | _ => cases h
  | aac =>
    cases hv
    cases codec_specific with
    | aacConfig aac_data => exact ⟨_, rfl, isValid_selected h⟩
    | _ => cases h
  | ldac =>
    cases hv
    cases codec_specific with
    | ldacConfig ldac_data => exact ⟨_, rfl, isValid_selected h⟩
    | _ => cases h
  | aptx =>
    cases hv
    cases codec_specific with
    | aptxConfig aptx_data => exact ⟨_, rfl, isValid_selected h⟩
    | _ => cases h
  | aptxHd =>
    cases hv
    cases codec_specific with
    | aptxConfig aptx_data => exact ⟨_, rfl, isValid_selected h⟩
    | _ => cases h

/-- `IsSingleBit` ends after at most 32 turns and says whether exactly one bit is
common. So each validator accepts only configurations of its codec whose
one-hot fields are each one bit of their mask that the local side shares. -/
theorem isSingleBit_validators :
    (∀ bitmasks bitfield : BitVec 32,
      (∀ turns ≥ 32, singleBitLoop bitmasks bitfield turns 1 false = some (isSingleBit bitmasks bitfield)) ∧
        (isSingleBit bitmasks bitfield = true ↔ OneCommonBit bitmasks bitfield)) ∧
      ∀ codecType codec_specific, (∃ valid, validator E codecType = some valid ∧ valid codec_specific = true) →
        ∃ fields, oneHotFields E codecType codec_specific = some fields ∧ ∀ field ∈ fields, field.Selected := by
  constructor
  · intro bitmasks bitfield
    exact ⟨fun turns h => singleBitLoop_isSingleBit h, isSingleBit_iff⟩
  · rintro codecType codec_specific ⟨valid, hv, h⟩
    exact validator_selected E hv h

end PhhTreble.Hidl.SupportedCodecsDB

import PhhTreble.Lib.LittleEndian
import PhhTreble.Lib.Words
import PhhTreble.LeAudio.Ase
/-!
# Codec-specific configuration data

`AudioSetConfigurationProviderJson` turns the codec-specific parameters of its
file into the LTVs of an ASE configuration. A parameter's value is a string of
bytes; `none` is a read past its end, or of a value that is not there.
-/

namespace PhhTreble.LeAudio.AudioSetConfigurationProviderJson

open LittleEndian (le)
open Selection (First)

/-! ## Parameters -/

inductive CodecSpecificLtvGenericTypes where
  | supportedSamplingFrequency
  | supportedFrameDuration
  | supportedAudioChannelAllocation
  | supportedOctetsPerCodecFrame
  | supportedCodecFrameBlocksPerSdu
deriving DecidableEq, Repr

namespace CodecSpecificLtvGenericTypes

def value : CodecSpecificLtvGenericTypes → UInt8
  | supportedSamplingFrequency => 0x01
  | supportedFrameDuration => 0x02
  | supportedAudioChannelAllocation => 0x03
  | supportedOctetsPerCodecFrame => 0x04
  | supportedCodecFrameBlocksPerSdu => 0x05

/-- The bytes that `STREAM_TO_UINT8`, `_UINT16` or `_UINT32` takes for it. -/
def width : CodecSpecificLtvGenericTypes → Nat
  | supportedSamplingFrequency => 1
  | supportedFrameDuration => 1
  | supportedAudioChannelAllocation => 4
  | supportedOctetsPerCodecFrame => 2
  | supportedCodecFrameBlocksPerSdu => 1

end CodecSpecificLtvGenericTypes

structure CodecSpecificConfiguration where
  type : UInt8
  /-- Its `value`. -/
  compound_value : Option (List UInt8)
deriving DecidableEq, Repr

def lookupCodecSpecificParam (flat_codec_specific_params : List CodecSpecificConfiguration)
    (type : CodecSpecificLtvGenericTypes) : Option CodecSpecificConfiguration :=
  flat_codec_specific_params.find? fun csc => csc.type == type.value

/-- `STREAM_TO_UINT` of so many bytes. -/
def CodecSpecificConfiguration.streamTo (param : CodecSpecificConfiguration) (width : Nat) : Option Nat :=
  match param.compound_value with
  | none => none
  | some value => if width ≤ value.length then some (le (value.take width)) else none

/-- Without a parameter the variable keeps the 0 it starts with. -/
def readParam (flat_codec_specific_params : List CodecSpecificConfiguration) (type : CodecSpecificLtvGenericTypes) :
    Option Nat :=
  match lookupCodecSpecificParam flat_codec_specific_params type with
  | none => some 0
  | some param => param.streamTo type.width

/-! ## The tables -/

def sampling_freq_map : List (Nat × SamplingFrequency) :=
  [(0x01, .hz8000), (0x03, .hz16000), (0x05, .hz24000), (0x06, .hz32000), (0x07, .hz44100), (0x08, .hz48000)]

def frame_duration_map : List (Nat × FrameDuration) := [(0x00, .us7500), (0x01, .us10000)]

/-- The names that `kLeAudioLocation…` and `AudioChannelAllocation` share. -/
inductive AudioLocation where
  | notAllowed | frontLeft | frontRight | frontCenter | lowFreqEffects1 | backLeft | backRight | frontLeftOfCenter
  | frontRightOfCenter | backCenter | lowFreqEffects2 | sideLeft | sideRight | topFrontLeft | topFrontRight
  | topFrontCenter | topCenter | topBackLeft | topBackRight | topSideLeft | topSideRight | topBackCenter
  | bottomFrontCenter | bottomFrontLeft | bottomFrontRight | frontLeftWide | frontRightWide | leftSurround
  | rightSurround
deriving DecidableEq, Repr

namespace AudioLocation

def kLeAudioLocation : AudioLocation → BitVec 32
  | notAllowed => 0x00000000
  | frontLeft => 0x00000001
  | frontRight => 0x00000002
  | frontCenter => 0x00000004
  | lowFreqEffects1 => 0x00000008
  | backLeft => 0x00000010
  | backRight => 0x00000020
  | frontLeftOfCenter => 0x00000040
  | frontRightOfCenter => 0x00000080
  | backCenter => 0x00000100
  | lowFreqEffects2 => 0x00000200
  | sideLeft => 0x00000400
  | sideRight => 0x00000800
  | topFrontLeft => 0x00001000
  | topFrontRight => 0x00002000
  | topFrontCenter => 0x00004000
  | topCenter => 0x00008000
  | topBackLeft => 0x00010000
  | topBackRight => 0x00020000
  | topSideLeft => 0x00040000
  | topSideRight => 0x00080000
  | topBackCenter => 0x00100000
  | bottomFrontCenter => 0x00200000
  | bottomFrontLeft => 0x00400000
  | bottomFrontRight => 0x00800000
  | frontLeftWide => 0x01000000
  | frontRightWide => 0x02000000
  | leftSurround => 0x04000000
  | rightSurround => 0x08000000

def all : List AudioLocation :=
  [notAllowed, frontLeft, frontRight, frontCenter, lowFreqEffects1, backLeft, backRight, frontLeftOfCenter,
    frontRightOfCenter, backCenter, lowFreqEffects2, sideLeft, sideRight, topFrontLeft, topFrontRight, topFrontCenter,
    topCenter, topBackLeft, topBackRight, topSideLeft, topSideRight, topBackCenter, bottomFrontCenter, bottomFrontLeft,
    bottomFrontRight, frontLeftWide, frontRightWide, leftSurround, rightSurround]

theorem mem_all (location : AudioLocation) : location ∈ all := by cases location <;> decide

end AudioLocation

section
-- The bits that the AIDL gives the locations.
variable (channelAllocation : AudioLocation → BitVec 32)

def audio_channel_allocation_map : List (BitVec 32 × BitVec 32) :=
  AudioLocation.all.map fun location => (location.kLeAudioLocation, channelAllocation location)

def populateAudioChannelAllocation (audio_location : BitVec 32) : BitVec 32 :=
  (audio_channel_allocation_map channelAllocation).foldl
    (fun bitmask row => if audio_location &&& row.1 ≠ 0 then bitmask ||| row.2 else bitmask) 0

/-- `ase.codecConfiguration` from the five variables. -/
def makeConfigurationData (sampling_frequency frame_duration audio_channel_allocation octets_per_codec_frame
    codec_frames_blocks_per_sdu : Nat) : List CodecSpecificConfigurationLtv :=
  ((sampling_freq_map.lookup sampling_frequency).map .samplingFrequency).toList ++
    (((frame_duration_map.lookup frame_duration).map .frameDuration).toList ++
      [.audioChannelAllocation (populateAudioChannelAllocation channelAllocation (.ofNat 32 audio_channel_allocation)),
        .octetsPerCodecFrame octets_per_codec_frame, .codecFrameBlocksPerSDU codec_frames_blocks_per_sdu])

def populateConfigurationData (flat_codec_specific_params : List CodecSpecificConfiguration) :
    Option (List CodecSpecificConfigurationLtv) := do
  let sampling_frequency ← readParam flat_codec_specific_params .supportedSamplingFrequency
  let frame_duration ← readParam flat_codec_specific_params .supportedFrameDuration
  let audio_channel_allocation ← readParam flat_codec_specific_params .supportedAudioChannelAllocation
  let octets_per_codec_frame ← readParam flat_codec_specific_params .supportedOctetsPerCodecFrame
  let codec_frames_blocks_per_sdu ← readParam flat_codec_specific_params .supportedCodecFrameBlocksPerSdu
  return makeConfigurationData channelAllocation sampling_frequency frame_duration audio_channel_allocation
    octets_per_codec_frame codec_frames_blocks_per_sdu

end

/-! ## What the LTVs are to say -/

/-- A parameter of the type is there. -/
def Present (params : List CodecSpecificConfiguration) (type : CodecSpecificLtvGenericTypes) : Prop :=
  ∃ param ∈ params, param.type = type.value

/-- The first parameter of the type has this value. -/
def HasValue (params : List CodecSpecificConfiguration) (type : CodecSpecificLtvGenericTypes) (n : Nat) : Prop :=
  ∃ param, First (·.type = type.value) params param ∧ param.streamTo type.width = some n

/-- Every value is long enough for the type of its parameter. -/
def LongEnough (params : List CodecSpecificConfiguration) : Prop :=
  ∀ param ∈ params, ∀ type : CodecSpecificLtvGenericTypes, param.type = type.value →
    ∃ value, param.compound_value = some value ∧ type.width ≤ value.length

/-- The bits of the locations in the word, and no others. -/
def Allocates (channelAllocation : AudioLocation → BitVec 32) (audio_location bitmask : BitVec 32) : Prop :=
  ∀ i, bitmask.getLsbD i = true ↔
    ∃ location : AudioLocation, audio_location &&& location.kLeAudioLocation ≠ 0 ∧ (channelAllocation location).getLsbD i = true

/-- The LTV is that of a parameter. -/
def Says (channelAllocation : AudioLocation → BitVec 32) (params : List CodecSpecificConfiguration) :
    CodecSpecificConfigurationLtv → Prop
  | .samplingFrequency freq => ∃ n, HasValue params .supportedSamplingFrequency n ∧ sampling_freq_map.lookup n = some freq
  | .frameDuration duration => ∃ n, HasValue params .supportedFrameDuration n ∧ frame_duration_map.lookup n = some duration
  | .audioChannelAllocation bitmask =>
    ∃ n, HasValue params .supportedAudioChannelAllocation n ∧ Allocates channelAllocation (.ofNat 32 n) bitmask
  | .octetsPerCodecFrame value => ∃ n, HasValue params .supportedOctetsPerCodecFrame n ∧ value = n
  | .codecFrameBlocksPerSDU value => ∃ n, HasValue params .supportedCodecFrameBlocksPerSdu n ∧ value = n

/-! ## Channel allocation -/

variable {channelAllocation : AudioLocation → BitVec 32}

theorem getLsbD_foldl (rows : List (BitVec 32 × BitVec 32)) (audio_location bitmask : BitVec 32) (i : Nat) :
    (rows.foldl (fun bitmask row => if audio_location &&& row.1 ≠ 0 then bitmask ||| row.2 else bitmask) bitmask).getLsbD i =
        true ↔
      bitmask.getLsbD i = true ∨ ∃ row ∈ rows, audio_location &&& row.1 ≠ 0 ∧ row.2.getLsbD i = true := by
  induction rows generalizing bitmask with
  | nil => simp
  | cons row rows ih =>
    rw [List.foldl_cons, ih, List.exists_mem_cons_iff, ← or_assoc]
    refine or_congr_left ?_
    split
    · rename_i hrow
      rw [BitVec.getLsbD_or, Bool.or_eq_true, and_iff_right hrow]
    · rename_i hrow
      exact (or_iff_left fun h => hrow h.1).symm

theorem populateAudioChannelAllocation_allocates (channelAllocation : AudioLocation → BitVec 32) (audio_location : BitVec 32) :
    Allocates channelAllocation audio_location (populateAudioChannelAllocation channelAllocation audio_location) := by
  intro i
  have hzero : (0 : BitVec 32).getLsbD i ≠ true := by
    have h : (0 : BitVec 32).getLsbD i = false := BitVec.getLsbD_zero
    rw [h]
    exact Bool.false_ne_true
  rw [populateAudioChannelAllocation, getLsbD_foldl, or_iff_right hzero, audio_channel_allocation_map]
  constructor
  · rintro ⟨row, hrow, hbit⟩
    obtain ⟨location, -, rfl⟩ := List.mem_map.1 hrow
    exact ⟨location, hbit⟩
  · rintro ⟨location, hbit⟩
    exact ⟨_, List.mem_map_of_mem location.mem_all, hbit⟩

theorem Allocates.unique {audio_location bitmask bitmask' : BitVec 32} (h : Allocates channelAllocation audio_location bitmask)
    (h' : Allocates channelAllocation audio_location bitmask') : bitmask = bitmask' :=
  BitVec.eq_of_getLsbD_eq fun i _ => Bool.eq_iff_iff.2 ((h i).trans (h' i).symm)

/-- Where the AIDL numbers the locations as the file does, the bits of the word
that stand for a location remain. -/
theorem populateAudioChannelAllocation_same (audio_location : BitVec 32) :
    populateAudioChannelAllocation AudioLocation.kLeAudioLocation audio_location = audio_location &&& 0x0fffffff := by
  have hsingle : ∀ location : AudioLocation, location.kLeAudioLocation = 0 ∨
      ∃ i < 28, location.kLeAudioLocation = BitVec.twoPow 32 i := by
    intro location
    cases location <;> decide
  have hcovers : ∀ i < 28, ∃ location ∈ AudioLocation.all, location.kLeAudioLocation = BitVec.twoPow 32 i := by decide
  have hmask : ∀ i < 32, (0x0fffffff : BitVec 32).getLsbD i = decide (i < 28) := by decide
  refine BitVec.eq_of_getLsbD_eq fun i hi => Bool.eq_iff_iff.2 ?_
  rw [populateAudioChannelAllocation_allocates _ audio_location i, BitVec.getLsbD_and, hmask i hi, Bool.and_eq_true,
    decide_eq_true_eq]
  constructor
  · rintro ⟨location, hword, hbit⟩
    obtain hzero | ⟨j, hj, hpow⟩ := hsingle location
    · exact absurd (by rw [hzero]; simp) hword
    · rw [hpow] at hword hbit
      obtain rfl : i = j := by simpa [BitVec.getLsbD_twoPow, hi] using hbit
      exact ⟨(Words.and_twoPow_ne_zero hi).1 hword, hj⟩
  · rintro ⟨hbit, hlt⟩
    obtain ⟨location, -, hpow⟩ := hcovers i hlt
    refine ⟨location, ?_, ?_⟩
    · rw [hpow]
      exact (Words.and_twoPow_ne_zero hi).2 hbit
    · rw [hpow]
      simp [hi]

/-! ## Reading the parameters -/

section
variable {params : List CodecSpecificConfiguration} {type : CodecSpecificLtvGenericTypes}

theorem lookup_first_iff {param : CodecSpecificConfiguration} :
    First (·.type = type.value) params param ↔ lookupCodecSpecificParam params type = some param :=
  Selection.first_iff_find? (fun _ => beq_iff_eq) params param

theorem HasValue.present {n : Nat} (h : HasValue params type n) : Present params type := by
  obtain ⟨param, hfirst, -⟩ := h
  exact Selection.exists_first_iff.1 ⟨param, hfirst⟩

theorem HasValue.unique {n m : Nat} (h : HasValue params type n) (h' : HasValue params type m) : n = m := by
  obtain ⟨param, hfirst, hn⟩ := h
  obtain ⟨param', hfirst', hm⟩ := h'
  rw [lookup_first_iff] at hfirst hfirst'
  cases hfirst.symm.trans hfirst'
  exact Option.some.inj (hn.symm.trans hm)

/-- A variable gets the value of the first parameter of its type, or keeps 0. -/
theorem readParam_eq_some_iff {n : Nat} :
    readParam params type = some n ↔ HasValue params type n ∨ (¬ Present params type ∧ n = 0) := by
  unfold readParam HasValue Present
  simp only [lookup_first_iff]
  rw [← Selection.exists_first_iff]
  simp only [lookup_first_iff]
  cases lookupCodecSpecificParam params type with
  | none => simp [eq_comm]
  | some param => simp

/-- A variable is read unless there is a parameter with too short a value. -/
theorem readParam_isSome_iff (params : List CodecSpecificConfiguration) (type : CodecSpecificLtvGenericTypes) :
    (∃ n, readParam params type = some n) ↔ ∀ param, First (·.type = type.value) params param →
      ∃ value, param.compound_value = some value ∧ type.width ≤ value.length := by
  simp only [lookup_first_iff, readParam]
  cases lookupCodecSpecificParam params type with
  | none => simp
  | some param =>
    simp only [Option.some.injEq, forall_eq', CodecSpecificConfiguration.streamTo]
    cases param.compound_value with
    | none => simp
    | some value => simp

/-- Where every value is long enough, all are read. -/
theorem LongEnough.read (h : LongEnough params) (type : CodecSpecificLtvGenericTypes) : ∃ n, readParam params type = some n :=
  (readParam_isSome_iff params type).2 fun param hfirst => h param hfirst.mem type hfirst.prop

end

/-! ## The LTVs -/

section
variable {params : List CodecSpecificConfiguration} {type : CodecSpecificLtvGenericTypes} {β : Type}
  {a : Nat} {made : β → Prop} {P : β → Nat → Prop}

/-- An LTV that is made of a variable which may keep its 0 says what the
parameter says only if there is one. -/
theorem made_iff_present (ha : readParam params type = some a) (hmade : ∀ b, made b ↔ P b a) (hzero : ∃ b, P b 0) :
    (∀ b, made b ↔ ∃ n, HasValue params type n ∧ P b n) ↔ Present params type := by
  rcases readParam_eq_some_iff.1 ha with hvalue | ⟨habsent, rfl⟩
  · refine iff_of_true (fun b => ?_) hvalue.present
    rw [hmade b]
    constructor
    · exact fun hP => ⟨a, hvalue, hP⟩
    · rintro ⟨n, hn, hP⟩
      rwa [hvalue.unique hn]
  · refine iff_of_false (fun h => ?_) habsent
    obtain ⟨b, hb⟩ := hzero
    obtain ⟨n, hn, -⟩ := (h b).1 ((hmade b).2 hb)
    exact habsent hn.present

/-- Where 0 makes none, none is made without a parameter. -/
theorem made_iff (ha : readParam params type = some a) (hmade : ∀ b, made b ↔ P b a) (hzero : ∀ b, ¬ P b 0) (b : β) :
    made b ↔ ∃ n, HasValue params type n ∧ P b n := by
  rw [hmade b]
  rcases readParam_eq_some_iff.1 ha with hvalue | ⟨habsent, rfl⟩
  · constructor
    · exact fun hP => ⟨a, hvalue, hP⟩
    · rintro ⟨n, hn, hP⟩
      rwa [hvalue.unique hn]
  · refine iff_of_false (hzero b) ?_
    rintro ⟨n, hn, -⟩
    exact habsent hn.present

end

section
variable (channelAllocation : AudioLocation → BitVec 32) (freq duration allocation octets blocks : Nat)

theorem samplingFrequency_mem (value : SamplingFrequency) :
    .samplingFrequency value ∈ makeConfigurationData channelAllocation freq duration allocation octets blocks ↔
      sampling_freq_map.lookup freq = some value := by
  simp [makeConfigurationData]

theorem frameDuration_mem (value : FrameDuration) :
    .frameDuration value ∈ makeConfigurationData channelAllocation freq duration allocation octets blocks ↔
      frame_duration_map.lookup duration = some value := by
  simp [makeConfigurationData]

theorem audioChannelAllocation_mem (bitmask : BitVec 32) :
    .audioChannelAllocation bitmask ∈ makeConfigurationData channelAllocation freq duration allocation octets blocks ↔
      Allocates channelAllocation (.ofNat 32 allocation) bitmask := by
  have hmem : .audioChannelAllocation bitmask ∈
      makeConfigurationData channelAllocation freq duration allocation octets blocks ↔
        bitmask = populateAudioChannelAllocation channelAllocation (.ofNat 32 allocation) := by
    simp [makeConfigurationData]
  rw [hmem]
  constructor
  · rintro rfl
    exact populateAudioChannelAllocation_allocates _ _
  · exact fun h => h.unique (populateAudioChannelAllocation_allocates _ _)

theorem octetsPerCodecFrame_mem (value : Int) :
    .octetsPerCodecFrame value ∈ makeConfigurationData channelAllocation freq duration allocation octets blocks ↔
      value = octets := by
  simp [makeConfigurationData]

theorem codecFrameBlocksPerSDU_mem (value : Int) :
    .codecFrameBlocksPerSDU value ∈ makeConfigurationData channelAllocation freq duration allocation octets blocks ↔
      value = blocks := by
  simp [makeConfigurationData]

end

theorem forall_ltv_iff {Q : CodecSpecificConfigurationLtv → Prop} :
    (∀ ltv, Q ltv) ↔ (∀ value, Q (.samplingFrequency value)) ∧ (∀ value, Q (.frameDuration value)) ∧
      (∀ bitmask, Q (.audioChannelAllocation bitmask)) ∧ (∀ value, Q (.octetsPerCodecFrame value)) ∧
      ∀ value, Q (.codecFrameBlocksPerSDU value) := by
  constructor
  · exact fun h => ⟨fun _ => h _, fun _ => h _, fun _ => h _, fun _ => h _, fun _ => h _⟩
  · rintro ⟨h1, h2, h3, h4, h5⟩ ltv
    cases ltv with
    | samplingFrequency value => exact h1 value
    | frameDuration value => exact h2 value
    | audioChannelAllocation bitmask => exact h3 bitmask
    | octetsPerCodecFrame value => exact h4 value
    | codecFrameBlocksPerSDU value => exact h5 value

theorem populateConfigurationData_eq {params : List CodecSpecificConfiguration} {freq duration allocation octets blocks : Nat}
    (h1 : readParam params .supportedSamplingFrequency = some freq)
    (h2 : readParam params .supportedFrameDuration = some duration)
    (h3 : readParam params .supportedAudioChannelAllocation = some allocation)
    (h4 : readParam params .supportedOctetsPerCodecFrame = some octets)
    (h5 : readParam params .supportedCodecFrameBlocksPerSdu = some blocks) :
    populateConfigurationData channelAllocation params =
      some (makeConfigurationData channelAllocation freq duration allocation octets blocks) := by
  rw [populateConfigurationData, h1, h2, h3, h4, h5]
  rfl

/-- The LTVs are those of the parameters exactly when there is a parameter for
each type but the sampling frequency. -/
theorem populateConfigurationData_says_iff (channelAllocation : AudioLocation → BitVec 32)
    (params : List CodecSpecificConfiguration) (h : LongEnough params) :
    (∃ ltvs, populateConfigurationData channelAllocation params = some ltvs ∧
      ∀ ltv, ltv ∈ ltvs ↔ Says channelAllocation params ltv) ↔
      ∀ type, type ≠ .supportedSamplingFrequency → Present params type := by
  obtain ⟨freq, h1⟩ := h.read .supportedSamplingFrequency
  obtain ⟨duration, h2⟩ := h.read .supportedFrameDuration
  obtain ⟨allocation, h3⟩ := h.read .supportedAudioChannelAllocation
  obtain ⟨octets, h4⟩ := h.read .supportedOctetsPerCodecFrame
  obtain ⟨blocks, h5⟩ := h.read .supportedCodecFrameBlocksPerSdu
  rw [populateConfigurationData_eq h1 h2 h3 h4 h5]
  simp only [Option.some.injEq, exists_eq_left', forall_ltv_iff, Says]
  -- 0 stands for no frequency, but for a duration, and for numbers that any word may be.
  have hfreq := made_iff (P := fun value n => sampling_freq_map.lookup n = some value) h1
    (samplingFrequency_mem channelAllocation freq duration allocation octets blocks) (fun value h => by cases h)
  have hduration := made_iff_present (P := fun value n => frame_duration_map.lookup n = some value) h2
    (frameDuration_mem channelAllocation freq duration allocation octets blocks) ⟨.us7500, rfl⟩
  have hallocation := made_iff_present (P := fun bitmask n => Allocates channelAllocation (.ofNat 32 n) bitmask) h3
    (audioChannelAllocation_mem channelAllocation freq duration allocation octets blocks)
    ⟨_, populateAudioChannelAllocation_allocates _ _⟩
  have hoctets := made_iff_present (P := fun (value : Int) n => value = n) h4
    (octetsPerCodecFrame_mem channelAllocation freq duration allocation octets blocks) ⟨0, rfl⟩
  have hblocks := made_iff_present (P := fun (value : Int) n => value = n) h5
    (codecFrameBlocksPerSDU_mem channelAllocation freq duration allocation octets blocks) ⟨0, rfl⟩
  rw [and_iff_right hfreq, hduration, hallocation, hoctets, hblocks]
  constructor
  · rintro ⟨hp2, hp3, hp4, hp5⟩ type htype
    cases type with
    | supportedSamplingFrequency => exact absurd rfl htype
    | supportedFrameDuration => exact hp2
    | supportedAudioChannelAllocation => exact hp3
    | supportedOctetsPerCodecFrame => exact hp4
    | supportedCodecFrameBlocksPerSdu => exact hp5
  · intro hp
    exact ⟨hp _ (by decide), hp _ (by decide), hp _ (by decide), hp _ (by decide)⟩

/-- A parameter of every type. -/
theorem populateConfigurationData_says_all :
    let params : List CodecSpecificConfiguration :=
      [⟨5, some [1, 0, 0, 0]⟩, ⟨4, some [40, 0, 0, 0]⟩, ⟨3, some [3, 0, 0, 0]⟩, ⟨2, some [1, 0, 0, 0]⟩, ⟨1, some [3, 0, 0, 0]⟩]
    ∃ ltvs, populateConfigurationData AudioLocation.kLeAudioLocation params = some ltvs ∧
      ∀ ltv, ltv ∈ ltvs ↔ Says AudioLocation.kLeAudioLocation params ltv := by
  intro params
  have hlong : LongEnough params := by
    intro param hparam type _
    have hfour : ∀ p ∈ params, ∃ value, p.compound_value = some value ∧ 4 ≤ value.length := by simp [params]
    obtain ⟨value, hvalue, hlen⟩ := hfour param hparam
    have hwidth : type.width ≤ 4 := by cases type <;> decide
    exact ⟨value, hvalue, by omega⟩
  refine (populateConfigurationData_says_iff AudioLocation.kLeAudioLocation params hlong).2 fun type _ => ?_
  cases type <;> simp [Present, params, CodecSpecificLtvGenericTypes.value]

/-- A sampling frequency and nothing else: the LTVs have a frame duration. -/
theorem populateConfigurationData_unsaid :
    ¬ ∀ (channelAllocation : AudioLocation → BitVec 32) (params : List CodecSpecificConfiguration), LongEnough params →
      ∃ ltvs, populateConfigurationData channelAllocation params = some ltvs ∧
        ∀ ltv, ltv ∈ ltvs ↔ Says channelAllocation params ltv := by
  intro h
  have hlong : LongEnough [⟨1, some [3]⟩] := by
    intro param hparam type htype
    rw [List.mem_singleton] at hparam
    subst hparam
    refine ⟨[3], rfl, ?_⟩
    cases type <;> first | decide | cases htype
  obtain ⟨ltvs, hltvs, hmem⟩ := h (fun _ => 0) [⟨1, some [3]⟩] hlong
  have hmade : populateConfigurationData (fun _ => 0) [⟨1, some [3]⟩] =
      some [.samplingFrequency .hz16000, .frameDuration .us7500, .audioChannelAllocation 0, .octetsPerCodecFrame 0,
        .codecFrameBlocksPerSDU 0] := by decide
  cases hmade.symm.trans hltvs
  obtain ⟨n, hn, -⟩ := (hmem (.frameDuration .us7500)).1 (by decide)
  obtain ⟨param, hparam, htype⟩ := hn.present
  rw [List.mem_singleton] at hparam
  subst hparam
  cases htype

end PhhTreble.LeAudio.AudioSetConfigurationProviderJson

import Mathlib.Data.BitVec
import PhhTreble.Audio.Providers
import PhhTreble.Hidl.Bridge
import PhhTreble.Hidl.Config
/-!
# Configurations from AIDL to HIDL

`HidlToAidlMiddleware` gives a HIDL observer the configuration of the AIDL
session. The functions that may abort return `none` there.
-/

namespace PhhTreble.Hidl

open Audio (PcmConfiguration SbcConfiguration AacConfiguration LdacConfiguration AptxConfiguration Lc3Configuration
  LeAudioCodecConfiguration LeAudioConfiguration LeAudioBroadcastConfiguration Configuration ProviderClass)

/-! ## The tables -/

def sample_rate_to_hidl_2_1_map : List (Int × SampleRate) :=
  [(44100, .rate44100), (48000, .rate48000), (88200, .rate88200), (96000, .rate96000), (176400, .rate176400),
    (192000, .rate192000), (16000, .rate16000), (24000, .rate24000), (8000, .rate8000), (32000, .rate32000)]

def codec_type_to_hidl_2_0_map : List (Audio.CodecType × CodecType) :=
  [(.unknown, .unknown), (.sbc, .sbc), (.aac, .aac), (.aptx, .aptx), (.aptxHd, .aptxHd), (.ldac, .ldac), (.lc3, .unknown)]

def sbc_channel_mode_to_hidl_2_0_map : List (Audio.SbcChannelMode × SbcChannelMode) :=
  [(.unknown, .unknown), (.jointStereo, .jointStereo), (.stereo, .stereo), (.dual, .dual), (.mono, .mono)]

def sbc_block_length_to_hidl_map : List (Int × SbcBlockLength) :=
  [(4, .blocks4), (8, .blocks8), (12, .blocks12), (16, .blocks16)]

def sbc_subbands_to_hidl_map : List (Int × SbcNumSubbands) := [(4, .subband4), (8, .subband8)]

def sbc_alloc_method_to_hidl_map : List (Audio.SbcAllocMethod × SbcAllocMethod) :=
  [(.allocMdS, .allocMdS), (.allocMdL, .allocMdL)]

def aac_object_type_to_hidl_map : List (Audio.AacObjectType × AacObjectType) :=
  [(.mpeg2Lc, .mpeg2Lc), (.mpeg4Lc, .mpeg4Lc), (.mpeg4Ltp, .mpeg4Ltp), (.mpeg4Scalable, .mpeg4Scalable)]

def ldac_channel_mode_to_hidl_map : List (Audio.LdacChannelMode × LdacChannelMode) :=
  [(.unknown, .unknown), (.stereo, .stereo), (.dual, .dual), (.mono, .mono)]

def ldac_qindex_to_hidl_map : List (Audio.LdacQualityIndex × LdacQualityIndex) :=
  [(.high, .qualityHigh), (.mid, .qualityMid), (.low, .qualityLow), (.abr, .qualityAbr)]

/-! ## The translation -/

/-- The structs that the functions declare without a value and return. A field
that is not set keeps what its memory holds. -/
structure Uninitialized where
  hidl_sbc_config : SbcParameters
  hidl_aac_config : AacParameters
  hidl_ldac_config : LdacParameters
  hidl_lc3_config : Lc3Parameters

def toHidlSampleRate_2_1 (sample_rate_hz : Int) : SampleRate :=
  (sample_rate_to_hidl_2_1_map.lookup sample_rate_hz).getD .rateUnknown

def toHidlSampleRate_2_0 (sample_rate_hz : Int) : SampleRate :=
  (sample_rate_to_hidl_2_1_map.lookup sample_rate_hz).getD .rateUnknown

def toHidlBitsPerSample (bit_per_sample : Int) : BitsPerSample :=
  if bit_per_sample = 16 then .bits16
  else if bit_per_sample = 24 then .bits24
  else if bit_per_sample = 32 then .bits32
  else .bitsUnknown

def toHidlChannelMode : A2dp.ChannelMode → ChannelMode
  | .mono => .mono
  | .stereo => .stereo
  | _ => .unknown

def toHidlCodecType_2_0 (codec_type : Audio.CodecType) : CodecType :=
  (codec_type_to_hidl_2_0_map.lookup codec_type).getD .unknown

def toHidlSbcConfig (u : Uninitialized) (sbc_config : SbcConfiguration) : SbcParameters where
  minBitpool := BitVec.ofInt 8 sbc_config.minBitpool
  maxBitpool := BitVec.ofInt 8 sbc_config.maxBitpool
  sampleRate := toHidlSampleRate_2_0 sbc_config.sampleRateHz
  bitsPerSample := toHidlBitsPerSample sbc_config.bitsPerSample
  channelMode := (sbc_channel_mode_to_hidl_2_0_map.lookup sbc_config.channelMode).getD u.hidl_sbc_config.channelMode
  blockLength := (sbc_block_length_to_hidl_map.lookup sbc_config.blockLength).getD u.hidl_sbc_config.blockLength
  numSubbands := (sbc_subbands_to_hidl_map.lookup sbc_config.numSubbands).getD u.hidl_sbc_config.numSubbands
  allocMethod := (sbc_alloc_method_to_hidl_map.lookup sbc_config.allocMethod).getD u.hidl_sbc_config.allocMethod

def toHidlAacConfig (u : Uninitialized) (aac_config : AacConfiguration) : AacParameters where
  sampleRate := toHidlSampleRate_2_0 aac_config.sampleRateHz
  bitsPerSample := toHidlBitsPerSample aac_config.bitsPerSample
  channelMode := toHidlChannelMode aac_config.channelMode
  objectType := (aac_object_type_to_hidl_map.lookup aac_config.objectType).getD u.hidl_aac_config.objectType
  variableBitRateEnabled := if aac_config.variableBitRateEnabled then .enabled else .disabled

def toHidlLdacConfig (u : Uninitialized) (ldac_config : LdacConfiguration) : LdacParameters where
  sampleRate := toHidlSampleRate_2_0 ldac_config.sampleRateHz
  bitsPerSample := toHidlBitsPerSample ldac_config.bitsPerSample
  channelMode := (ldac_channel_mode_to_hidl_map.lookup ldac_config.channelMode).getD u.hidl_ldac_config.channelMode
  qualityIndex := (ldac_qindex_to_hidl_map.lookup ldac_config.qualityIndex).getD u.hidl_ldac_config.qualityIndex

def toHidlAptxConfig (aptx_config : AptxConfiguration) : AptxParameters where
  sampleRate := toHidlSampleRate_2_0 aptx_config.sampleRateHz
  bitsPerSample := toHidlBitsPerSample aptx_config.bitsPerSample
  channelMode := toHidlChannelMode aptx_config.channelMode

def toHidlCodecConfig_2_0 (u : Uninitialized) (codec_config : Audio.CodecConfiguration) : CodecConfiguration where
  codecType := toHidlCodecType_2_0 codec_config.codecType
  encodedAudioBitrate := BitVec.ofInt 32 codec_config.encodedAudioBitrate
  peerMtu := BitVec.ofInt 32 codec_config.peerMtu
  isScmstEnabled := codec_config.isScmstEnabled
  config := match codec_config.config with
    | .sbcConfig c => .sbcConfig (toHidlSbcConfig u c)
    | .aacConfig c => .aacConfig (toHidlAacConfig u c)
    | .ldacConfig c => .ldacConfig (toHidlLdacConfig u c)
    | .aptxConfig c => .aptxConfig (toHidlAptxConfig c)
    | _ => .zero

def toHidlPcmConfig_2_1 (pcm_config : PcmConfiguration) : PcmParameters_2_1 where
  sampleRate := toHidlSampleRate_2_1 pcm_config.sampleRateHz
  channelMode := toHidlChannelMode pcm_config.channelMode
  bitsPerSample := toHidlBitsPerSample pcm_config.bitsPerSample
  dataIntervalUs := BitVec.ofInt 32 pcm_config.dataIntervalUs

def toHidlLc3Config_2_1 (u : Uninitialized) (lc3_config : Lc3Configuration) : Lc3Parameters where
  pcmBitDepth := toHidlBitsPerSample lc3_config.pcmBitDepth
  samplingFrequency := toHidlSampleRate_2_1 lc3_config.samplingFrequencyHz
  frameDuration :=
    -- The frequency is compared, not `frameDurationUs`.
    if lc3_config.samplingFrequencyHz = 10000 then .duration10000us
    else if lc3_config.samplingFrequencyHz = 7500 then .duration7500us
    else u.hidl_lc3_config.frameDuration
  octetsPerFrame := BitVec.ofInt 32 lc3_config.octetsPerFrame
  blocksPerSdu := BitVec.ofInt 32 lc3_config.blocksPerSdu

/-- `get<lc3Config>()`, which aborts on another tag. -/
def getLc3Config : LeAudioCodecConfiguration → Option Lc3Configuration
  | .lc3Config c => some c
  | .other _ => none

/-- The loop over a stream map. -/
def orAllocations (allocations : List (BitVec 32)) : BitVec 32 := allocations.foldl (· ||| ·) 0

def toHidlLeaudioConfig_2_1 (u : Uninitialized) (unicast_config : LeAudioConfiguration) : Option Lc3CodecConfiguration :=
  -- The test is for the very tag that is wanted.
  if (getLc3Config unicast_config.leAudioCodecConfig).isSome then none
  else do
    let le_codec_config ← getLc3Config unicast_config.leAudioCodecConfig
    return ⟨toHidlLc3Config_2_1 u le_codec_config, orAllocations unicast_config.streamMap⟩

def toHidlLeaudioBroadcastConfig_2_1 (u : Uninitialized) (broadcast_config : LeAudioBroadcastConfiguration) :
    Option Lc3CodecConfiguration :=
  match broadcast_config.streamMap with
  | [] => some ⟨.zero, 0⟩
  | first :: _ =>
    if (getLc3Config first.leAudioCodecConfig).isNone then none
    else do
      let le_codec_config ← getLc3Config first.leAudioCodecConfig
      return ⟨toHidlLc3Config_2_1 u le_codec_config,
        orAllocations (broadcast_config.streamMap.map (·.audioChannelAllocation))⟩

def toHidlAudioConfig_2_1 (u : Uninitialized) (audio_config : Configuration) : Option AudioConfiguration_2_1 :=
  match audio_config with
  | .pcmConfig c => some (.pcmConfig (toHidlPcmConfig_2_1 c))
  | .a2dpConfig c => some (.codecConfig (toHidlCodecConfig_2_0 u c))
  | .a2dp _ => some .zero
  | .leAudioConfig c => (toHidlLeaudioConfig_2_1 u c).map .leAudioCodecConfig
  | .leAudioBroadcastConfig c => (toHidlLeaudioBroadcastConfig_2_1 u c).map .leAudioCodecConfig
  | .hfpConfig _ => none

/-! ## What a HIDL value says -/

def SampleRate.hz : SampleRate → Option Int
  | rateUnknown => none
  | rate44100 => some 44100
  | rate48000 => some 48000
  | rate88200 => some 88200
  | rate96000 => some 96000
  | rate176400 => some 176400
  | rate192000 => some 192000
  | rate16000 => some 16000
  | rate24000 => some 24000
  | rate8000 => some 8000
  | rate32000 => some 32000

def BitsPerSample.bits : BitsPerSample → Option Int
  | bitsUnknown => none
  | bits16 => some 16
  | bits24 => some 24
  | bits32 => some 32

def ChannelMode.read : ChannelMode → A2dp.ChannelMode
  | unknown => .unknown
  | mono => .mono
  | stereo => .stereo

def CodecType.read : CodecType → Audio.CodecType
  | unknown => .unknown
  | sbc => .sbc
  | aac => .aac
  | aptx => .aptx
  | aptxHd => .aptxHd
  | ldac => .ldac

def SbcChannelMode.read : SbcChannelMode → Audio.SbcChannelMode
  | unknown => .unknown
  | jointStereo => .jointStereo
  | stereo => .stereo
  | dual => .dual
  | mono => .mono

def SbcBlockLength.read : SbcBlockLength → Int
  | blocks4 => 4
  | blocks8 => 8
  | blocks12 => 12
  | blocks16 => 16

def SbcNumSubbands.read : SbcNumSubbands → Int
  | subband4 => 4
  | subband8 => 8

def SbcAllocMethod.read : SbcAllocMethod → Audio.SbcAllocMethod
  | allocMdS => .allocMdS
  | allocMdL => .allocMdL

def AacObjectType.read : AacObjectType → Audio.AacObjectType
  | mpeg2Lc => .mpeg2Lc
  | mpeg4Lc => .mpeg4Lc
  | mpeg4Ltp => .mpeg4Ltp
  | mpeg4Scalable => .mpeg4Scalable

def LdacChannelMode.read : LdacChannelMode → Audio.LdacChannelMode
  | unknown => .unknown
  | stereo => .stereo
  | dual => .dual
  | mono => .mono

def LdacQualityIndex.read : LdacQualityIndex → Audio.LdacQualityIndex
  | qualityHigh => .high
  | qualityMid => .mid
  | qualityLow => .low
  | qualityAbr => .abr

def Lc3FrameDuration.us : Lc3FrameDuration → Int
  | duration10000us => 10000
  | duration7500us => 7500

def SbcParameters.read (h : SbcParameters) : Option SbcConfiguration := do
  let sampleRateHz ← h.sampleRate.hz
  let bitsPerSample ← h.bitsPerSample.bits
  return ⟨sampleRateHz, h.channelMode.read, h.blockLength.read, h.numSubbands.read, h.allocMethod.read, bitsPerSample,
    h.minBitpool.toNat, h.maxBitpool.toNat⟩

def AacParameters.read (h : AacParameters) : Option AacConfiguration := do
  let sampleRateHz ← h.sampleRate.hz
  let bitsPerSample ← h.bitsPerSample.bits
  return ⟨h.objectType.read, sampleRateHz, h.channelMode.read, h.variableBitRateEnabled == .enabled, bitsPerSample⟩

def LdacParameters.read (h : LdacParameters) : Option LdacConfiguration := do
  let sampleRateHz ← h.sampleRate.hz
  let bitsPerSample ← h.bitsPerSample.bits
  return ⟨sampleRateHz, h.channelMode.read, h.qualityIndex.read, bitsPerSample⟩

def AptxParameters.read (h : AptxParameters) : Option AptxConfiguration := do
  let sampleRateHz ← h.sampleRate.hz
  let bitsPerSample ← h.bitsPerSample.bits
  return ⟨sampleRateHz, h.channelMode.read, bitsPerSample⟩

def CodecSpecific.read : CodecSpecific → Option Audio.CodecSpecific
  | sbcConfig h => h.read.map .sbcConfig
  | aacConfig h => h.read.map .aacConfig
  | ldacConfig h => h.read.map .ldacConfig
  | aptxConfig h => h.read.map .aptxConfig

def PcmParameters_2_1.read (h : PcmParameters_2_1) : Option PcmConfiguration := do
  let sampleRateHz ← h.sampleRate.hz
  let bitsPerSample ← h.bitsPerSample.bits
  return ⟨sampleRateHz, h.channelMode.read, bitsPerSample, h.dataIntervalUs.toNat⟩

def Lc3Parameters.read (h : Lc3Parameters) : Option Lc3Configuration := do
  let pcmBitDepth ← h.pcmBitDepth.bits
  let samplingFrequencyHz ← h.samplingFrequency.hz
  return ⟨pcmBitDepth, samplingFrequencyHz, h.frameDuration.us, h.octetsPerFrame.toNat, h.blocksPerSdu.toNat⟩

end PhhTreble.Hidl

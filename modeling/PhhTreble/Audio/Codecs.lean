import PhhTreble.Audio.Config
/-!
# BluetoothAudioCodecs

What the offload path and the software path accept of a configuration.
-/

namespace PhhTreble.Audio

open A2dp (ChannelMode)

/-! ## Capabilities -/

structure PcmCapabilities where
  sampleRateHz : List Int
  channelMode : List ChannelMode
  bitsPerSample : List Int
deriving Repr

structure SbcCapabilities where
  sampleRateHz : List Int
  channelMode : List SbcChannelMode
  blockLength : List Int
  numSubbands : List Int
  allocMethod : List SbcAllocMethod
  bitsPerSample : List Int
  minBitpool : Int
  maxBitpool : Int
deriving Repr

structure AacCapabilities where
  objectType : List AacObjectType
  sampleRateHz : List Int
  channelMode : List ChannelMode
  variableBitRateSupported : Bool
  bitsPerSample : List Int
deriving Repr

structure LdacCapabilities where
  sampleRateHz : List Int
  channelMode : List LdacChannelMode
  qualityIndex : List LdacQualityIndex
  bitsPerSample : List Int
deriving Repr

structure AptxCapabilities where
  sampleRateHz : List Int
  channelMode : List ChannelMode
  bitsPerSample : List Int
deriving Repr

structure OpusCapabilities where
  samplingFrequencyHz : List Int
  frameDurationUs : List Int
  channelMode : List ChannelMode
deriving Repr

def kDefaultSoftwarePcmCapabilities : PcmCapabilities where
  sampleRateHz := [8000, 16000, 24000, 32000, 44100, 48000, 88200, 96000]
  channelMode := [.mono, .stereo]
  bitsPerSample := [16, 24, 32]

def kDefaultOffloadSbcCapability : SbcCapabilities where
  sampleRateHz := [44100]
  channelMode := [.mono, .jointStereo]
  blockLength := [4, 8, 12, 16]
  numSubbands := [8]
  allocMethod := [.allocMdL]
  bitsPerSample := [16]
  minBitpool := 2
  maxBitpool := 53

def kDefaultOffloadAacCapability : AacCapabilities where
  objectType := [.mpeg2Lc]
  sampleRateHz := [44100]
  channelMode := [.stereo]
  variableBitRateSupported := true
  bitsPerSample := [16]

def kDefaultOffloadLdacCapability : LdacCapabilities where
  sampleRateHz := [44100, 48000, 88200, 96000]
  channelMode := [.dual, .stereo]
  qualityIndex := [.high]
  bitsPerSample := [16, 24, 32]

def kDefaultOffloadAptxCapability : AptxCapabilities where
  sampleRateHz := [44100, 48000]
  channelMode := [.stereo]
  bitsPerSample := [16]

def kDefaultOffloadAptxHdCapability : AptxCapabilities where
  sampleRateHz := [44100, 48000]
  channelMode := [.stereo]
  bitsPerSample := [24]

def kDefaultOffloadOpusCapability : OpusCapabilities where
  samplingFrequencyHz := [48000]
  frameDurationUs := [10000, 20000]
  channelMode := [.mono, .stereo]

/-! ## Checks -/

namespace BluetoothAudioCodecs

def isOffloadSbcConfigurationValid : CodecSpecific → Bool
  | .sbcConfig c =>
    let k := kDefaultOffloadSbcCapability
    k.sampleRateHz.contains c.sampleRateHz && k.blockLength.contains c.blockLength &&
      k.numSubbands.contains c.numSubbands && k.bitsPerSample.contains c.bitsPerSample &&
      k.channelMode.contains c.channelMode && k.allocMethod.contains c.allocMethod &&
      c.minBitpool ≤ c.maxBitpool && k.minBitpool ≤ c.minBitpool && c.maxBitpool ≤ k.maxBitpool
  | _ => false

def isOffloadAacConfigurationValid : CodecSpecific → Bool
  | .aacConfig c =>
    let k := kDefaultOffloadAacCapability
    k.sampleRateHz.contains c.sampleRateHz && k.bitsPerSample.contains c.bitsPerSample &&
      k.channelMode.contains c.channelMode && k.objectType.contains c.objectType &&
      (!c.variableBitRateEnabled || k.variableBitRateSupported)
  | _ => false

def isOffloadLdacConfigurationValid : CodecSpecific → Bool
  | .ldacConfig c =>
    let k := kDefaultOffloadLdacCapability
    k.sampleRateHz.contains c.sampleRateHz && k.bitsPerSample.contains c.bitsPerSample &&
      k.channelMode.contains c.channelMode && k.qualityIndex.contains c.qualityIndex
  | _ => false

/-- aptX and aptX HD differ in the capability. -/
def isAptxConfigurationValid (k : AptxCapabilities) : CodecSpecific → Bool
  | .aptxConfig c =>
    k.sampleRateHz.contains c.sampleRateHz && k.bitsPerSample.contains c.bitsPerSample &&
      k.channelMode.contains c.channelMode
  | _ => false

def isOffloadAptxConfigurationValid : CodecSpecific → Bool := isAptxConfigurationValid kDefaultOffloadAptxCapability

def isOffloadAptxHdConfigurationValid : CodecSpecific → Bool := isAptxConfigurationValid kDefaultOffloadAptxHdCapability

def isOffloadOpusConfigurationValid : CodecSpecific → Bool
  | .opusConfig (some c) =>
    let k := kDefaultOffloadOpusCapability
    k.samplingFrequencyHz.contains c.samplingFrequencyHz && k.frameDurationUs.contains c.frameDurationUs &&
      k.channelMode.contains c.channelMode
  | _ => false

def isSoftwarePcmConfigurationValid (c : PcmConfiguration) : Bool :=
  let k := kDefaultSoftwarePcmCapabilities
  k.sampleRateHz.contains c.sampleRateHz && k.bitsPerSample.contains c.bitsPerSample && k.channelMode.contains c.channelMode

def isOffloadCodecConfigurationValid (session_type : SessionType) (codec_config : CodecConfiguration) : Bool :=
  if session_type ≠ .a2dpHardwareOffloadEncodingDatapath ∧ session_type ≠ .a2dpHardwareOffloadDecodingDatapath then false
  else match codec_config.codecType with
    | .sbc => isOffloadSbcConfigurationValid codec_config.config
    | .aac => isOffloadAacConfigurationValid codec_config.config
    | .ldac => isOffloadLdacConfigurationValid codec_config.config
    | .aptx => isOffloadAptxConfigurationValid codec_config.config
    | .aptxHd => isOffloadAptxHdConfigurationValid codec_config.config
    | .opus => isOffloadOpusConfigurationValid codec_config.config
    | .aptxAdaptive | .aptxAdaptiveLe | .aptxAdaptiveLex | .lc3 | .unknown | .vendor => false

end BluetoothAudioCodecs

end PhhTreble.Audio

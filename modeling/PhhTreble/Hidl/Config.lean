import Mathlib.Data.BitVec
/-!
# The configurations of HIDL 2.0 and 2.1

The values of the HIDL audio interface, versions 2.0 and 2.1.
-/

namespace PhhTreble.Hidl

/-! ## Enumerations -/

/-- The rates of 2.1. Those of 2.0 are the rates up to 24000; a 2.0 field that a
2.1 rate is cast to holds that rate. -/
inductive SampleRate where
  | rateUnknown | rate44100 | rate48000 | rate88200 | rate96000 | rate176400 | rate192000 | rate16000 | rate24000
  | rate8000 | rate32000
deriving DecidableEq, Repr

inductive ChannelMode where
  | unknown | mono | stereo
deriving DecidableEq, Repr

inductive BitsPerSample where
  | bitsUnknown | bits16 | bits24 | bits32
deriving DecidableEq, Repr

inductive CodecType where
  | unknown | sbc | aac | aptx | aptxHd | ldac
deriving DecidableEq, Repr

inductive SbcChannelMode where
  | unknown | jointStereo | stereo | dual | mono
deriving DecidableEq, Repr

inductive SbcBlockLength where
  | blocks4 | blocks8 | blocks12 | blocks16
deriving DecidableEq, Repr

inductive SbcNumSubbands where
  | subband4 | subband8
deriving DecidableEq, Repr

inductive SbcAllocMethod where
  | allocMdS | allocMdL
deriving DecidableEq, Repr

inductive AacObjectType where
  | mpeg2Lc | mpeg4Lc | mpeg4Ltp | mpeg4Scalable
deriving DecidableEq, Repr

inductive AacVariableBitRate where
  | disabled | enabled
deriving DecidableEq, Repr

inductive LdacChannelMode where
  | unknown | stereo | dual | mono
deriving DecidableEq, Repr

inductive LdacQualityIndex where
  | qualityHigh | qualityMid | qualityLow | qualityAbr
deriving DecidableEq, Repr

inductive Lc3FrameDuration where
  | duration10000us | duration7500us
deriving DecidableEq, Repr

/-! ## Parameters -/

structure SbcParameters where
  sampleRate : SampleRate
  channelMode : SbcChannelMode
  blockLength : SbcBlockLength
  numSubbands : SbcNumSubbands
  allocMethod : SbcAllocMethod
  bitsPerSample : BitsPerSample
  minBitpool : BitVec 8
  maxBitpool : BitVec 8
deriving DecidableEq, Repr

structure AacParameters where
  objectType : AacObjectType
  sampleRate : SampleRate
  channelMode : ChannelMode
  variableBitRateEnabled : AacVariableBitRate
  bitsPerSample : BitsPerSample
deriving DecidableEq, Repr

structure LdacParameters where
  sampleRate : SampleRate
  channelMode : LdacChannelMode
  qualityIndex : LdacQualityIndex
  bitsPerSample : BitsPerSample
deriving DecidableEq, Repr

structure AptxParameters where
  sampleRate : SampleRate
  channelMode : ChannelMode
  bitsPerSample : BitsPerSample
deriving DecidableEq, Repr

/-- `CodecConfiguration::CodecSpecific`. -/
inductive CodecSpecific where
  | sbcConfig (c : SbcParameters)
  | aacConfig (c : AacParameters)
  | ldacConfig (c : LdacParameters)
  | aptxConfig (c : AptxParameters)
deriving DecidableEq, Repr

structure CodecConfiguration where
  codecType : CodecType
  encodedAudioBitrate : BitVec 32
  peerMtu : BitVec 32
  isScmstEnabled : Bool
  config : CodecSpecific
deriving DecidableEq, Repr

structure PcmParameters_2_0 where
  sampleRate : SampleRate
  channelMode : ChannelMode
  bitsPerSample : BitsPerSample
deriving DecidableEq, Repr

structure PcmParameters_2_1 where
  sampleRate : SampleRate
  channelMode : ChannelMode
  bitsPerSample : BitsPerSample
  dataIntervalUs : BitVec 32
deriving DecidableEq, Repr

structure Lc3Parameters where
  pcmBitDepth : BitsPerSample
  samplingFrequency : SampleRate
  frameDuration : Lc3FrameDuration
  octetsPerFrame : BitVec 32
  blocksPerSdu : BitVec 32
deriving DecidableEq, Repr

structure Lc3CodecConfiguration where
  lc3Config : Lc3Parameters
  audioChannelAllocation : BitVec 32
deriving DecidableEq, Repr

/-! ## AudioConfiguration -/

inductive AudioConfiguration_2_0 where
  | pcmConfig (c : PcmParameters_2_0)
  | codecConfig (c : CodecConfiguration)
deriving DecidableEq, Repr

inductive AudioConfiguration_2_1 where
  | pcmConfig (c : PcmParameters_2_1)
  | codecConfig (c : CodecConfiguration)
  | leAudioCodecConfig (c : Lc3CodecConfiguration)
deriving DecidableEq, Repr

/-- `{}` of the union: its first alternative, zero. -/
def CodecSpecific.zero : CodecSpecific :=
  .sbcConfig ⟨.rateUnknown, .unknown, .blocks4, .subband4, .allocMdS, .bitsUnknown, 0, 0⟩

def Lc3Parameters.zero : Lc3Parameters := ⟨.bitsUnknown, .rateUnknown, .duration10000us, 0, 0⟩

def AudioConfiguration_2_1.zero : AudioConfiguration_2_1 := .pcmConfig ⟨.rateUnknown, .unknown, .bitsUnknown, 0⟩

/-- A 2.0 configuration as one of 2.1. -/
def AudioConfiguration_2_0.embed : AudioConfiguration_2_0 → AudioConfiguration_2_1
  | pcmConfig c => .pcmConfig ⟨c.sampleRate, c.channelMode, c.bitsPerSample, 0⟩
  | codecConfig c => .codecConfig c

end PhhTreble.Hidl

import PhhTreble.Audio.Session
import PhhTreble.A2dp.Factory
/-!
# AudioConfiguration

The configurations behind the tags of an `AudioConfiguration`: the fields that the
providers check or the translation to HIDL reads, and what is only passed on.
-/

namespace PhhTreble.Audio

open A2dp (ChannelMode CodecId)
open A2dpBits (Bytes)

/-- The fields of a value that nothing reads: a number tells them apart, 0 are the
defaults. -/
abbrev Unread := Nat

structure PcmConfiguration where
  sampleRateHz : Int
  channelMode : ChannelMode
  bitsPerSample : Int
  dataIntervalUs : Int
deriving DecidableEq, Repr

/-! ## A2DP -/

inductive CodecType where
  | unknown | sbc | aac | aptx | aptxHd | ldac | lc3 | vendor | opus | aptxAdaptive | aptxAdaptiveLe | aptxAdaptiveLex
deriving DecidableEq, Repr

inductive SbcChannelMode where
  | unknown | jointStereo | stereo | dual | mono
deriving DecidableEq, Repr

inductive SbcAllocMethod where
  | allocMdS | allocMdL
deriving DecidableEq, Repr

inductive AacObjectType where
  | mpeg2Lc | mpeg4Lc | mpeg4Ltp | mpeg4Scalable
deriving DecidableEq, Repr

inductive LdacChannelMode where
  | unknown | stereo | dual | mono
deriving DecidableEq, Repr

inductive LdacQualityIndex where
  | high | mid | low | abr
deriving DecidableEq, Repr

structure SbcConfiguration where
  sampleRateHz : Int
  channelMode : SbcChannelMode
  blockLength : Int
  numSubbands : Int
  allocMethod : SbcAllocMethod
  bitsPerSample : Int
  minBitpool : Int
  maxBitpool : Int
deriving DecidableEq, Repr

structure AacConfiguration where
  objectType : AacObjectType
  sampleRateHz : Int
  channelMode : ChannelMode
  variableBitRateEnabled : Bool
  bitsPerSample : Int
deriving DecidableEq, Repr

structure LdacConfiguration where
  sampleRateHz : Int
  channelMode : LdacChannelMode
  qualityIndex : LdacQualityIndex
  bitsPerSample : Int
deriving DecidableEq, Repr

structure AptxConfiguration where
  sampleRateHz : Int
  channelMode : ChannelMode
  bitsPerSample : Int
deriving DecidableEq, Repr

structure OpusConfiguration where
  samplingFrequencyHz : Int
  frameDurationUs : Int
  channelMode : ChannelMode
deriving DecidableEq, Repr

/-- `CodecConfiguration::CodecSpecific`. -/
inductive CodecSpecific where
  | sbcConfig (c : SbcConfiguration)
  | aacConfig (c : AacConfiguration)
  | ldacConfig (c : LdacConfiguration)
  | aptxConfig (c : AptxConfiguration)
  | opusConfig (c : Option OpusConfiguration)
  | other (rest : Unread)
deriving DecidableEq, Repr

structure CodecConfiguration where
  codecType : CodecType
  encodedAudioBitrate : Int
  peerMtu : Int
  isScmstEnabled : Bool
  config : CodecSpecific
deriving DecidableEq, Repr

structure A2dpStreamConfiguration where
  codecId : CodecId
  configuration : Bytes
  rest : Unread
deriving DecidableEq, Repr

/-! ## LE audio -/

structure Lc3Configuration where
  pcmBitDepth : Int
  samplingFrequencyHz : Int
  frameDurationUs : Int
  octetsPerFrame : Int
  blocksPerSdu : Int
deriving DecidableEq, Repr

inductive LeAudioCodecConfiguration where
  | lc3Config (c : Lc3Configuration)
  | other (rest : Unread)
deriving DecidableEq, Repr

structure LeAudioConfiguration where
  /-- The `audioChannelAllocation` of each entry of `streamMap`. -/
  streamMap : List (BitVec 32)
  leAudioCodecConfig : LeAudioCodecConfiguration
  rest : Unread
deriving DecidableEq, Repr

structure BroadcastStreamMap where
  audioChannelAllocation : BitVec 32
  leAudioCodecConfig : LeAudioCodecConfiguration
deriving DecidableEq, Repr

structure LeAudioBroadcastConfiguration where
  streamMap : List BroadcastStreamMap
  rest : Unread
deriving DecidableEq, Repr

/-! ## The union -/

inductive Configuration where
  | pcmConfig (c : PcmConfiguration)
  | leAudioConfig (c : LeAudioConfiguration)
  | a2dpConfig (c : CodecConfiguration)
  | leAudioBroadcastConfig (c : LeAudioBroadcastConfiguration)
  | hfpConfig (rest : Unread)
  | a2dp (c : A2dpStreamConfiguration)
deriving DecidableEq, Repr

namespace Configuration

def getTag : Configuration → Tag
  | pcmConfig _ => .pcmConfig
  | leAudioConfig _ => .leAudioConfig
  | a2dpConfig _ => .a2dpConfig
  | leAudioBroadcastConfig _ => .leAudioBroadcastConfig
  | hfpConfig _ => .hfpConfig
  | a2dp _ => .a2dp

/-- The configuration as a session holds it. -/
def toAudio (c : Configuration) : AudioConfiguration Configuration := ⟨c.getTag, c⟩

theorem toAudio_injective {c d : Configuration} (h : c.toAudio = d.toAudio) : c = d := by
  injection h

end Configuration

/-! ## Defaults -/

/-- `PcmConfiguration{}`. -/
def PcmConfiguration.default : PcmConfiguration := ⟨0, .unknown, 0, 0⟩

/-- `CodecConfiguration{}`: its union is the first alternative's default. -/
def CodecConfiguration.default : CodecConfiguration :=
  ⟨.unknown, 0, 0, false, .sbcConfig ⟨0, .unknown, 0, 0, .allocMdS, 0, 0, 0⟩⟩

/-- `LeAudioConfiguration{}`. -/
def LeAudioConfiguration.default : LeAudioConfiguration := ⟨[], .lc3Config ⟨0, 0, 0, 0, 0⟩, 0⟩

/-- `LeAudioBroadcastConfiguration{}`. -/
def LeAudioBroadcastConfiguration.default : LeAudioBroadcastConfiguration := ⟨[], 0⟩

namespace Session

/-- What `GetAudioConfig` returns of a session that is not ready. -/
def defaultConfig : SessionType → Configuration
  | .a2dpHardwareOffloadEncodingDatapath | .a2dpHardwareOffloadDecodingDatapath => .a2dpConfig .default
  | .hfpHardwareOffloadDatapath => .hfpConfig 0
  | .leAudioHardwareOffloadEncodingDatapath | .leAudioHardwareOffloadDecodingDatapath => .leAudioConfig .default
  | .leAudioBroadcastHardwareOffloadEncodingDatapath => .leAudioBroadcastConfig .default
  | _ => .pcmConfig .default

def getAudioConfig (t : SessionType) (s : Session Configuration) : AudioConfiguration Configuration :=
  if !s.isSessionReady t then (defaultConfig t).toAudio else s.audio_config_.getD (defaultConfig t).toAudio

end Session

end PhhTreble.Audio

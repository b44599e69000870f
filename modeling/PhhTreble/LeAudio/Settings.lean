import Mathlib.Data.String.Basic
import Mathlib.Data.List.Sort
import PhhTreble.Audio.Config
/-!
# The LE audio offload settings

`le_audio_codec_capabilities.xml` names scenarios, configurations, codec
configurations and strategies that refer to each other by name. An attribute
that is missing is `none`; a list element stands for every element of its kind.
-/

namespace PhhTreble.LeAudio

open A2dp (ChannelMode)
open Audio (CodecType)

/-! ## The file -/

namespace Setting

inductive AudioLocation where
  | unknown | mono | stereo
deriving DecidableEq, Repr

inductive CodecType where
  | unknown | lc3 | aptxAdaptiveLe | aptxAdaptiveLex
deriving DecidableEq, Repr

structure Scenario where
  encode : Option String
  decode : Option String
  broadcast : Option String
deriving DecidableEq, Repr

structure Configuration where
  name : Option String
  codecConfiguration : Option String
  strategyConfiguration : Option String
deriving DecidableEq, Repr

structure CodecConfiguration where
  name : Option String
  codec : Option CodecType
  samplingFrequency : Option Int
  frameDurationUs : Option Int
  octetsPerCodecFrame : Option Int
deriving DecidableEq, Repr

structure StrategyConfiguration where
  name : Option String
  audioLocation : Option AudioLocation
  connectedDevice : Option Nat
  channelCount : Option Nat
deriving DecidableEq, Repr

structure LeAudioOffloadSetting where
  scenarioList : List (List Scenario)
  configurationList : List (List Configuration)
  codecConfigurationList : List (List CodecConfiguration)
  strategyConfigurationList : List (List StrategyConfiguration)
deriving DecidableEq, Repr

end Setting

open Setting (LeAudioOffloadSetting AudioLocation)

/-! ## Complete definitions -/

/-- A scenario with `encode` and `decode`. -/
structure Scenario where
  encode : String
  decode : String
  broadcast : Option String
deriving DecidableEq, Repr

structure Configuration where
  codecConfiguration : String
  strategyConfiguration : String
deriving DecidableEq, Repr

structure CodecConfiguration where
  codec : Setting.CodecType
  samplingFrequency : Int
  frameDurationUs : Int
  octetsPerCodecFrame : Int
deriving DecidableEq, Repr

structure StrategyConfiguration where
  audioLocation : AudioLocation
  connectedDevice : Nat
  channelCount : Nat
deriving DecidableEq, Repr

namespace Setting

def Scenario.complete (scenario : Scenario) : Option LeAudio.Scenario := do
  return ⟨← scenario.encode, ← scenario.decode, scenario.broadcast⟩

/-- With its name. -/
def Configuration.complete (configuration : Configuration) : Option (String × LeAudio.Configuration) := do
  return (← configuration.name, ⟨← configuration.codecConfiguration, ← configuration.strategyConfiguration⟩)

/-- `IsValidCodecConfiguration`. -/
def CodecConfiguration.complete (c : CodecConfiguration) : Option (String × LeAudio.CodecConfiguration) := do
  return (← c.name, ⟨← c.codec, ← c.samplingFrequency, ← c.frameDurationUs, ← c.octetsPerCodecFrame⟩)

/-- The combinations `IsValidStrategyConfiguration` lets through. -/
def isValidStrategy (s : LeAudio.StrategyConfiguration) : Bool :=
  match s.audioLocation with
  | .stereo =>
    -- Two devices, one channel each; one device for both; broadcast.
    (s.connectedDevice == 2 && s.channelCount == 1) || (s.connectedDevice == 1 && s.channelCount == 2) ||
      (s.connectedDevice == 0 && s.channelCount == 2)
  | .mono => s.connectedDevice == 1 && s.channelCount == 1
  | .unknown => false

def StrategyConfiguration.complete (s : StrategyConfiguration) : Option (String × LeAudio.StrategyConfiguration) := do
  let strategy : LeAudio.StrategyConfiguration := ⟨← s.audioLocation, ← s.connectedDevice, ← s.channelCount⟩
  let name ← s.name
  if isValidStrategy strategy then some (name, strategy) else none

end Setting

/-! ## The maps -/

/-- `unordered_map::insert`: a name that is there keeps its value. -/
def insert {α : Type} (m : List (String × α)) (p : String × α) : List (String × α) :=
  if (m.lookup p.1).isSome then m else m ++ [p]

def getScenarios (setting : LeAudioOffloadSetting) : List Scenario :=
  setting.scenarioList.flatten.filterMap (·.complete)

def updateConfigurationsToMap (m : List (String × Configuration)) (setting : LeAudioOffloadSetting) :
    List (String × Configuration) :=
  (setting.configurationList.flatten.filterMap (·.complete)).foldl insert m

def updateCodecConfigurationsToMap (m : List (String × CodecConfiguration)) (setting : LeAudioOffloadSetting) :
    List (String × CodecConfiguration) :=
  (setting.codecConfigurationList.flatten.filterMap (·.complete)).foldl insert m

def updateStrategyConfigurationsToMap (m : List (String × StrategyConfiguration)) (setting : LeAudioOffloadSetting) :
    List (String × StrategyConfiguration) :=
  (setting.strategyConfigurationList.flatten.filterMap (·.complete)).foldl insert m

/-- `supported_scenarios_` and the maps of the definitions. -/
structure Definitions where
  supported_scenarios_ : List Scenario
  configuration_map_ : List (String × Configuration)
  codec_configuration_map_ : List (String × CodecConfiguration)
  strategy_configuration_map_ : List (String × StrategyConfiguration)
deriving DecidableEq, Repr

namespace Definitions

def empty : Definitions := ⟨[], [], [], []⟩

/-- `LoadConfigurationToMap` after its clear; it stops at the first kind that has
no element. -/
def load (setting : LeAudioOffloadSetting) : Definitions :=
  let d := { empty with supported_scenarios_ := getScenarios setting }
  if d.supported_scenarios_.isEmpty then d else
  let d := { d with configuration_map_ := updateConfigurationsToMap d.configuration_map_ setting }
  if d.configuration_map_.isEmpty then d else
  let d := { d with codec_configuration_map_ := updateCodecConfigurationsToMap d.codec_configuration_map_ setting }
  if d.codec_configuration_map_.isEmpty then d else
  { d with strategy_configuration_map_ := updateStrategyConfigurationsToMap d.strategy_configuration_map_ setting }

/-- Some kind has no element. -/
def isIncomplete (d : Definitions) : Bool :=
  d.supported_scenarios_.isEmpty || d.configuration_map_.isEmpty || d.codec_configuration_map_.isEmpty ||
    d.strategy_configuration_map_.isEmpty

/-- The codec and the strategy of a configuration. -/
def resolve (d : Definitions) (configuration : Configuration) : Option (CodecConfiguration × StrategyConfiguration) := do
  return (← d.codec_configuration_map_.lookup configuration.codecConfiguration,
    ← d.strategy_configuration_map_.lookup configuration.strategyConfiguration)

end Definitions

/-! ## Codec info -/

/-- The ids that `GetLeAudioCodecInfo` gives; `unset` is that of `CodecInfo()`. -/
inductive CodecInfoId where
  | unset | lc3 | vendor
deriving DecidableEq, Repr

/-- `CodecInfo::Transport::leAudio`. -/
structure LeAudioTransport where
  channelMode : List ChannelMode
  samplingFrequencyHz : List Int
  frameDurationUs : List Int
  bitdepth : List Int
deriving DecidableEq, Repr

structure CodecInfo where
  name : String
  id : CodecInfoId
  /-- `none` is the transport of `CodecInfo()`. -/
  transport : Option LeAudioTransport
deriving DecidableEq, Repr

/-- `CodecInfo()`. -/
def CodecInfo.default : CodecInfo := ⟨"", .unset, none⟩

def channelModeOf (strategy_config : StrategyConfiguration) : ChannelMode :=
  match strategy_config.audioLocation with
  | .mono => if strategy_config.channelCount = 1 then .mono else .dualmono
  | .stereo => .stereo
  | .unknown => .unknown

/-- The loop body over `configuration_map_`. -/
def codecInfoOf (d : Definitions) (configuration : Configuration) : CodecInfo :=
  match d.resolve configuration with
  | none => .default
  | some (codec_config, strategy_config) =>
    let (name, id) := match codec_config.codec with
      | .lc3 => ("LC3", CodecInfoId.lc3)
      | _ => ("UNDEFINE", CodecInfoId.vendor)
    -- The octets stand in for the bit depth.
    ⟨name, id, some ⟨[channelModeOf strategy_config], [codec_config.samplingFrequency], [codec_config.frameDurationUs],
      [codec_config.octetsPerCodecFrame]⟩⟩

/-- `config_codec_info_map_[c]`. -/
def configCodecInfo (d : Definitions) (c : String) : CodecInfo :=
  match d.configuration_map_.lookup c with
  | none => .default
  | some configuration => codecInfoOf d configuration

/-- `std::set::insert` of each name. -/
def nameSet (names : List String) : List String := names.dedup.insertionSort (· ≤ ·)

/-- `session_codecs_map_`. -/
def sessionCodecs (d : Definitions) : List (Audio.SessionType × List CodecInfo) :=
  let encoding_config := nameSet (d.supported_scenarios_.map (·.encode))
  let decoding_config := nameSet (d.supported_scenarios_.map (·.decode))
  let broadcast_config := nameSet (d.supported_scenarios_.filterMap (·.broadcast))
  [(.leAudioHardwareOffloadEncodingDatapath, encoding_config.map (configCodecInfo d)),
    (.leAudioHardwareOffloadDecodingDatapath, decoding_config.map (configCodecInfo d)),
    (.leAudioBroadcastHardwareOffloadEncodingDatapath, broadcast_config.map (configCodecInfo d))]

/-! ## Codec capabilities -/

/-- `kMonoAudio`, the unknown location, and `kStereoAudio`. -/
inductive SupportedChannel where
  | kMonoAudio | kStereoAudio
deriving DecidableEq, Repr

/-- `Lc3Capabilities` and `AptxAdaptiveLeCapabilities`. -/
structure FrameCapabilities where
  samplingFrequencyHz : List Int
  frameDurationUs : List Int
  octetsPerFrame : List Int
deriving DecidableEq, Repr

inductive LeAudioCodecCapabilities where
  | lc3Capabilities (c : FrameCapabilities)
  | aptxAdaptiveLeCapabilities (c : FrameCapabilities)
deriving DecidableEq, Repr

structure UnicastCapability where
  codecType : CodecType
  supportedChannel : SupportedChannel
  deviceCount : Nat
  channelCountPerDevice : Nat
  leAudioCodecCapabilities : Option LeAudioCodecCapabilities
deriving DecidableEq, Repr

structure BroadcastCapability where
  codecType : CodecType
  supportedChannel : SupportedChannel
  channelCountPerStream : Nat
  leAudioCodecCapabilities : List FrameCapabilities
deriving DecidableEq, Repr

structure LeAudioCodecCapabilitiesSetting where
  unicastEncodeCapability : UnicastCapability
  unicastDecodeCapability : UnicastCapability
  broadcastCapability : BroadcastCapability
deriving DecidableEq, Repr

/-- `{.codecType = CodecType::UNKNOWN}`. -/
def UnicastCapability.unknown : UnicastCapability := ⟨.unknown, .kMonoAudio, 0, 0, none⟩

def BroadcastCapability.unknown : BroadcastCapability := ⟨.unknown, .kMonoAudio, 0, []⟩

def getAudioLocation : AudioLocation → SupportedChannel
  | .mono => .kMonoAudio
  | .stereo => .kStereoAudio
  | .unknown => .kMonoAudio

def getCodecType : Setting.CodecType → CodecType
  | .lc3 => .lc3
  | .aptxAdaptiveLe => .aptxAdaptiveLe
  | .aptxAdaptiveLex => .aptxAdaptiveLex
  | .unknown => .unknown

/-- `ComposeLc3Capability` and `ComposeAptxAdaptiveLeCapability`. -/
def composeCapability (c : CodecConfiguration) : FrameCapabilities :=
  ⟨[c.samplingFrequency], [c.frameDurationUs], [c.octetsPerCodecFrame]⟩

namespace Definitions

/-- The codec and the strategy behind a name of a scenario. -/
def lookupName (d : Definitions) (coding_direction : String) : Option (CodecConfiguration × StrategyConfiguration) :=
  if coding_direction = "invalid" then none
  else (d.configuration_map_.lookup coding_direction).bind d.resolve

def getUnicastCapability (d : Definitions) (coding_direction : String) : UnicastCapability :=
  match d.lookupName coding_direction with
  | none => .unknown
  | some (codec, strategy) =>
    let compose := fun capability =>
      (⟨getCodecType codec.codec, getAudioLocation strategy.audioLocation, strategy.connectedDevice, strategy.channelCount,
        some capability⟩ : UnicastCapability)
    match getCodecType codec.codec with
    | .lc3 => compose (.lc3Capabilities (composeCapability codec))
    | .aptxAdaptiveLe | .aptxAdaptiveLex => compose (.aptxAdaptiveLeCapabilities (composeCapability codec))
    | _ => .unknown

def getBroadcastCapability (d : Definitions) (coding_direction : String) : BroadcastCapability :=
  match d.lookupName coding_direction with
  | none => .unknown
  | some (codec, strategy) =>
    match getCodecType codec.codec with
    | .lc3 => ⟨.lc3, getAudioLocation strategy.audioLocation, strategy.channelCount, [composeCapability codec]⟩
    | _ => .unknown

def composeLeAudioCodecCapabilities (d : Definitions) : List LeAudioCodecCapabilitiesSetting :=
  d.supported_scenarios_.filterMap fun scenario =>
    let unicast_encode_capability := d.getUnicastCapability scenario.encode
    let unicast_decode_capability := d.getUnicastCapability scenario.decode
    let broadcast_capability := match scenario.broadcast with
      | none => .unknown
      | some broadcast => d.getBroadcastCapability broadcast
    if unicast_encode_capability.codecType = .unknown ∧ unicast_decode_capability.codecType = .unknown ∧
        broadcast_capability.codecType = .unknown then none
    else some ⟨unicast_encode_capability, unicast_decode_capability, broadcast_capability⟩

end Definitions

end PhhTreble.LeAudio

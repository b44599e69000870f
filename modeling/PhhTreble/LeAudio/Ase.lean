import Mathlib.Data.List.ProdSigma
import PhhTreble.Lib.Selection
import PhhTreble.A2dp.Factory
/-!
# ASE configurations

`LeAudioOffloadAudioProvider` selects, from the settings it has, those that the
remote device is capable of and that meet a requirement.
-/

namespace PhhTreble.LeAudio

open A2dp (CodecId)

/-! ## The data model -/

/-- `other` is a value that the code does not name. -/
inductive SamplingFrequency where
  | hz8000 | hz11025 | hz16000 | hz22050 | hz24000 | hz32000 | hz44100 | hz48000 | hz88200 | hz96000 | hz176400 | hz192000
  | hz384000
  | other (value : BitVec 8)
deriving DecidableEq, Repr

inductive FrameDuration where
  | us7500 | us10000
  | other (value : BitVec 8)
deriving DecidableEq, Repr

inductive ConfigurationTag where
  | codecFrameBlocksPerSDU | samplingFrequency | frameDuration | audioChannelAllocation | octetsPerCodecFrame
deriving DecidableEq, Repr

inductive CodecSpecificConfigurationLtv where
  | codecFrameBlocksPerSDU (value : Int)
  | samplingFrequency (value : SamplingFrequency)
  | frameDuration (value : FrameDuration)
  | audioChannelAllocation (bitmask : BitVec 32)
  | octetsPerCodecFrame (value : Int)
deriving DecidableEq, Repr

def CodecSpecificConfigurationLtv.getTag : CodecSpecificConfigurationLtv → ConfigurationTag
  | codecFrameBlocksPerSDU _ => .codecFrameBlocksPerSDU
  | samplingFrequency _ => .samplingFrequency
  | frameDuration _ => .frameDuration
  | audioChannelAllocation _ => .audioChannelAllocation
  | octetsPerCodecFrame _ => .octetsPerCodecFrame

inductive CodecSpecificCapabilitiesLtv where
  | supportedSamplingFrequencies (bitmask : BitVec 32)
  | supportedMaxCodecFramesPerSDU (value : Int)
  | supportedFrameDurations (bitmask : BitVec 32)
  | supportedAudioChannelCounts (bitmask : BitVec 32)
  | supportedOctetsPerCodecFrame (min max : Int)
deriving DecidableEq, Repr

inductive MetadataLtv where
  | preferredAudioContexts (bitmask : BitVec 32)
  | other
deriving DecidableEq, Repr

structure LeAudioDeviceCapabilities where
  codecId : CodecId
  codecSpecificCapabilities : List CodecSpecificCapabilitiesLtv
  metadata : Option (List (Option MetadataLtv))
deriving DecidableEq, Repr

inductive TargetLatency where
  | undefined | lower | balancedLatencyReliability | higherReliability
deriving DecidableEq, Repr

structure LeAudioAseConfiguration where
  targetLatency : TargetLatency
  codecId : Option CodecId
  codecConfiguration : List CodecSpecificConfigurationLtv
deriving DecidableEq, Repr

/-- `R` is what the selection only copies: QoS and data path. -/
structure AseDirectionConfiguration (R : Type) where
  aseConfiguration : LeAudioAseConfiguration
  rest : R
deriving DecidableEq, Repr

structure AseDirectionRequirement where
  aseConfiguration : LeAudioAseConfiguration
deriving DecidableEq, Repr

structure LeAudioAseConfigurationSetting (R : Type) where
  audioContext : BitVec 32
  packing : BitVec 8
  sinkAseConfiguration : Option (List (Option (AseDirectionConfiguration R)))
  sourceAseConfiguration : Option (List (Option (AseDirectionConfiguration R)))
  flags : Option (BitVec 32)
deriving DecidableEq, Repr

structure LeAudioConfigurationRequirement where
  audioContext : BitVec 32
  sinkAseRequirement : Option (List (Option AseDirectionRequirement))
  sourceAseRequirement : Option (List (Option AseDirectionRequirement))
deriving DecidableEq, Repr

/-- `kLeAudioDirectionSink` and `kLeAudioDirectionSource`. -/
inductive Direction where
  | sink | source
deriving DecidableEq, Repr

/-- Constants of the AIDL, which the tables refer to by name: the bit of each
frequency and duration that has one. -/
structure AidlConstants where
  codecPriorityDisabled : BitVec 32
  supportedSamplingFrequencies : SamplingFrequency → Option (BitVec 32)
  supportedFrameDurations : FrameDuration → Option (BitVec 32)

/-! ## The tables -/

def listedFrequencies : List SamplingFrequency :=
  [.hz8000, .hz11025, .hz16000, .hz22050, .hz24000, .hz32000, .hz48000, .hz88200, .hz96000, .hz176400, .hz192000, .hz384000]

/-- Each row gives a frequency the constant of its name. -/
def freq_to_support_bitmask_map (K : AidlConstants) : List (SamplingFrequency × BitVec 32) :=
  listedFrequencies.filterMap fun freq => (K.supportedSamplingFrequencies freq).map (freq, ·)

def listedDurations : List FrameDuration := [.us7500, .us10000]

def fduration_to_support_fduration_map (K : AidlConstants) : List (FrameDuration × BitVec 32) :=
  listedDurations.filterMap fun fduration => (K.supportedFrameDurations fduration).map (fduration, ·)

/-- `cap_to_cfg_tag_map[codec_capability.getTag()]`. -/
def CodecSpecificCapabilitiesLtv.cfgTag : CodecSpecificCapabilitiesLtv → ConfigurationTag
  | supportedSamplingFrequencies _ => .samplingFrequency
  | supportedMaxCodecFramesPerSDU _ => .codecFrameBlocksPerSDU
  | supportedFrameDurations _ => .frameDuration
  | supportedAudioChannelCounts _ => .audioChannelAllocation
  | supportedOctetsPerCodecFrame _ _ => .octetsPerCodecFrame

/-! ## Matching -/

/-- The state of `LeAudioOffloadAudioProvider` that the selection reads. -/
structure LeAudioOffloadAudioProvider where
  codec_priority_map_ : CodecId → Option (BitVec 32)

def isCapabilitiesMatchedContext (setting_context : BitVec 32) (capabilities : LeAudioDeviceCapabilities) : Bool :=
  match capabilities.metadata with
  | none => true
  | some metadata => metadata.any fun
    | some (.preferredAudioContexts context) => setting_context &&& context != 0
    | _ => false

def isMatchedSamplingFreq (K : AidlConstants) (cfg_freq : SamplingFrequency) (capability_freq : BitVec 32) : Bool :=
  match (freq_to_support_bitmask_map K).lookup cfg_freq with
  | some bitmask => capability_freq &&& bitmask != 0
  | none => false

def isMatchedFrameDuration (K : AidlConstants) (cfg_fduration : FrameDuration) (capability_fduration : BitVec 32) : Bool :=
  match (fduration_to_support_fduration_map K).lookup cfg_fduration with
  | some bitmask => capability_fduration &&& bitmask != 0
  | none => false

/-- The branch for the capability's tag; the configuration has the tag that
belongs to it. -/
def isMatched (K : AidlConstants) : CodecSpecificCapabilitiesLtv → CodecSpecificConfigurationLtv → Bool
  | .supportedSamplingFrequencies capability_freq, .samplingFrequency cfg_freq =>
    isMatchedSamplingFreq K cfg_freq capability_freq
  | .supportedFrameDurations capability_fduration, .frameDuration cfg_fduration =>
    isMatchedFrameDuration K cfg_fduration capability_fduration
  -- `isMatchedAudioChannel`; how to match is left open there.
  | .supportedAudioChannelCounts _, .audioChannelAllocation _ => true
  | .supportedMaxCodecFramesPerSDU capability_frame_sdu, .codecFrameBlocksPerSDU cfg_frame_sdu =>
    cfg_frame_sdu ≤ capability_frame_sdu
  | .supportedOctetsPerCodecFrame min max, .octetsPerCodecFrame cfg_octets => min ≤ cfg_octets && cfg_octets ≤ max
  | _, _ => false

/-- `cfg_tag_map`. -/
def cfgTagMap (codec_cfg : List CodecSpecificConfigurationLtv) : ConfigurationTag → Option CodecSpecificConfigurationLtv :=
  Selection.overwrite (·.getTag) codec_cfg

def isCapabilitiesMatchedCodecConfiguration (K : AidlConstants) (codec_cfg : List CodecSpecificConfigurationLtv)
    (codec_capabilities : List CodecSpecificCapabilitiesLtv) : Bool :=
  codec_capabilities.all fun codec_capability =>
    match cfgTagMap codec_cfg codec_capability.cfgTag with
    | none => false
    | some cfg => isMatched K codec_capability cfg

namespace LeAudioOffloadAudioProvider
variable (K : AidlConstants) (p : LeAudioOffloadAudioProvider)

def setCodecPriority (in_codecId : CodecId) (in_priority : BitVec 32) : LeAudioOffloadAudioProvider :=
  ⟨Function.update p.codec_priority_map_ in_codecId (some in_priority)⟩

def isMatchedValidCodec (cfg_codec req_codec : CodecId) : Bool :=
  if p.codec_priority_map_ cfg_codec = some K.codecPriorityDisabled then false else cfg_codec == req_codec

def isMatchedAseConfiguration (setting_cfg requirement_cfg : LeAudioAseConfiguration) : Bool :=
  let codecMatched := match requirement_cfg.codecId, setting_cfg.codecId with
    | none, _ => true
    | some _, none => false
    | some req_codec, some cfg_codec => p.isMatchedValidCodec K cfg_codec req_codec
  codecMatched && setting_cfg.targetLatency == requirement_cfg.targetLatency &&
    requirement_cfg.codecConfiguration.all fun requirement =>
      cfgTagMap setting_cfg.codecConfiguration requirement.getTag == some requirement

/-! ## The two passes -/

variable {R : Type}

def filterCapabilitiesAseDirectionConfiguration (direction_configurations : List (Option (AseDirectionConfiguration R)))
    (capabilities : LeAudioDeviceCapabilities) : List (Option (AseDirectionConfiguration R)) :=
  direction_configurations.filter fun
    | none => false
    | some direction_configuration =>
      match direction_configuration.aseConfiguration.codecId with
      | none => false
      | some codecId =>
        p.isMatchedValidCodec K codecId capabilities.codecId &&
          isCapabilitiesMatchedCodecConfiguration K direction_configuration.aseConfiguration.codecConfiguration
            capabilities.codecSpecificCapabilities

def filterRequirementAseDirectionConfiguration (direction_configurations : List (Option (AseDirectionConfiguration R)))
    (requirements : Option (List (Option AseDirectionRequirement))) : List (Option (AseDirectionConfiguration R)) :=
  direction_configurations.filter fun direction_configuration =>
    match requirements with
    | none => true
    | some requirements =>
      match direction_configuration with
      | none => false
      | some direction_configuration => requirements.any fun
        | none => false
        | some requirement =>
          p.isMatchedAseConfiguration K direction_configuration.aseConfiguration requirement.aseConfiguration

end LeAudioOffloadAudioProvider

namespace LeAudioAseConfigurationSetting
variable {R : Type}

def direction (setting : LeAudioAseConfigurationSetting R) : Direction → Option (List (Option (AseDirectionConfiguration R)))
  | .sink => setting.sinkAseConfiguration
  | .source => setting.sourceAseConfiguration

/-- `filtered_setting` with the one direction. -/
def filtered (setting : LeAudioAseConfigurationSetting R) (valid : List (Option (AseDirectionConfiguration R))) :
    Direction → LeAudioAseConfigurationSetting R
  | .sink => ⟨setting.audioContext, setting.packing, some valid, none, setting.flags⟩
  | .source => ⟨setting.audioContext, setting.packing, none, some valid, setting.flags⟩

end LeAudioAseConfigurationSetting

def LeAudioConfigurationRequirement.direction (requirement : LeAudioConfigurationRequirement) :
    Direction → Option (List (Option AseDirectionRequirement))
  | .sink => requirement.sinkAseRequirement
  | .source => requirement.sourceAseRequirement

namespace LeAudioOffloadAudioProvider
variable (K : AidlConstants) (p : LeAudioOffloadAudioProvider) {R : Type}

def getCapabilitiesMatchedAseConfigurationSettings (setting : LeAudioAseConfigurationSetting R)
    (capabilities : LeAudioDeviceCapabilities) (direction : Direction) : Option (LeAudioAseConfigurationSetting R) :=
  if !isCapabilitiesMatchedContext setting.audioContext capabilities then none
  else match setting.direction direction with
    | none => none
    | some direction_configuration =>
      let valid := p.filterCapabilitiesAseDirectionConfiguration K direction_configuration capabilities
      if valid.isEmpty then none else some (setting.filtered valid direction)

def getRequirementMatchedAseConfigurationSettings (setting : LeAudioAseConfigurationSetting R)
    (requirement : LeAudioConfigurationRequirement) : Option (LeAudioAseConfigurationSetting R) :=
  if setting.audioContext != requirement.audioContext then none
  else
    let direction := if setting.sinkAseConfiguration.isSome then Direction.sink else .source
    -- `value()` throws without a list; the first pass leaves one.
    match setting.direction direction with
    | none => none
    | some direction_configuration =>
      let valid := p.filterRequirementAseDirectionConfiguration K direction_configuration (requirement.direction direction)
      if valid.isEmpty then none else some (setting.filtered valid direction)

/-- `none` where `value()` throws: neither list of capabilities is given, and
there is a setting to match with them. -/
def getLeAudioAseConfiguration (ase_configuration_settings : List (LeAudioAseConfigurationSetting R))
    (in_remoteSinkAudioCapabilities in_remoteSourceAudioCapabilities : Option (List (Option LeAudioDeviceCapabilities)))
    (in_requirements : List LeAudioConfigurationRequirement) : Option (List (LeAudioAseConfigurationSetting R)) := do
  let direction := if in_remoteSinkAudioCapabilities.isSome then Direction.sink else .source
  let in_remoteAudioCapabilities :=
    if in_remoteSinkAudioCapabilities.isSome then in_remoteSinkAudioCapabilities else in_remoteSourceAudioCapabilities
  let matched ← ase_configuration_settings.mapM fun setting => in_remoteAudioCapabilities.map fun capabilities =>
    capabilities.filterMap fun capability => capability.bind fun capabilities =>
      p.getCapabilitiesMatchedAseConfigurationSettings K setting capabilities direction
  let capability_matched_ase_configuration_settings := matched.flatten
  return capability_matched_ase_configuration_settings.flatMap fun setting =>
    in_requirements.filterMap fun requirement => p.getRequirementMatchedAseConfigurationSettings K setting requirement

/-- With a list of capabilities, the passes are run one after the other. -/
theorem getLeAudioAseConfiguration_of_given (settings : List (LeAudioAseConfigurationSetting R))
    {sink source : Option (List (Option LeAudioDeviceCapabilities))} (requirements : List LeAudioConfigurationRequirement)
    {capabilities : List (Option LeAudioDeviceCapabilities)} (h : (if sink.isSome then sink else source) = some capabilities) :
    p.getLeAudioAseConfiguration K settings sink source requirements =
      some ((settings.flatMap fun setting => capabilities.filterMap fun capability => capability.bind fun capabilities =>
        p.getCapabilitiesMatchedAseConfigurationSettings K setting capabilities
          (if sink.isSome then .sink else .source)).flatMap fun setting =>
          requirements.filterMap fun requirement =>
            p.getRequirementMatchedAseConfigurationSettings K setting requirement) := by
  have hmapM : ∀ f : LeAudioAseConfigurationSetting R → List (LeAudioAseConfigurationSetting R),
      (settings.mapM fun setting => some (f setting)) = some (settings.map f) := fun f => List.mapM_pure
  rw [getLeAudioAseConfiguration, h]
  exact congrArg (fun x => Option.bind x _) (hmapM _)

end LeAudioOffloadAudioProvider

end PhhTreble.LeAudio

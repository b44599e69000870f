import PhhTreble.Lib.Assoc
import PhhTreble.LeAudio.AseQos
import PhhTreble.LeAudio.ConfigurationData
/-!
# Loading the ASE settings

The configurations of one file name a codec and QoS of it, the scenarios of
another name configurations. The files are as parsed, with every field that
their schemas require. `none` is a null pointer that is dereferenced, or a read
past the end of a parameter's value.
-/

namespace PhhTreble.LeAudio.AudioSetConfigurationProviderJson

open Selection (First)

/-! ## The files -/

/-- `codec_id` of a subconfiguration. -/
structure FlatCodecId where
  coding_format : UInt8
  vendor_company_id : UInt16
  vendor_codec_id : UInt16
deriving DecidableEq, Repr

structure AudioSetSubConfiguration where
  direction : UInt8
  codec_id : FlatCodecId
  codec_configuration : List CodecSpecificConfiguration
deriving DecidableEq, Repr

structure CodecConfiguration where
  name : String
  subconfigurations : List AudioSetSubConfiguration
deriving DecidableEq, Repr

structure QosConfiguration where
  name : String
  target_latency : UInt8
  retransmission_number : UInt8
  max_transport_latency : UInt16
deriving DecidableEq, Repr

structure AudioSetConfiguration where
  name : String
  codec_config_name : String
  qos_config_name : List String
deriving DecidableEq, Repr

structure AudioSetConfigurations where
  configurations : List AudioSetConfiguration
  codec_configurations : List CodecConfiguration
  qos_configurations : List QosConfiguration
deriving DecidableEq, Repr

structure AudioSetScenario where
  name : String
  configurations : List String
deriving DecidableEq, Repr

structure AudioSetScenarios where
  scenarios : List AudioSetScenario
deriving DecidableEq, Repr

/-! ## One configuration -/

/-- Values that the AIDL gives the names used here. -/
structure AidlValues where
  channelAllocation : AudioLocation → BitVec 32
  lc3 : UInt8
  alerts : BitVec 32
  instructional : BitVec 32
  notifications : BitVec 32
  emergencyAlarm : BitVec 32
  unspecified : BitVec 32
  media : BitVec 32
  ringtoneAlerts : BitVec 32
  conversational : BitVec 32
  liveAudio : BitVec 32
  game : BitVec 32
  voiceAssistants : BitVec 32

inductive CodecLocation where
  | host | adsp | controller
deriving DecidableEq, Repr

structure LeAudioDataPathConfiguration where
  dataPathId : UInt8
  isTransparent : Bool
deriving DecidableEq, Repr

def kIsoDataPathHci : UInt8 := 0x00

def kIsoDataPathPlatformDefault : UInt8 := 0x01

def kLeAudioDirectionSink : UInt8 := 0x01

/-- The PHYs, the SDU and the framing are not set. -/
abbrev DirectionRest := QosAndDataPath Unit LeAudioDataPathConfiguration

abbrev Ases := List (Option (AseDirectionConfiguration DirectionRest))

section
variable (K : AidlValues)

/-- `targetPhy`, always 2M, is left out. -/
def populateAseConfiguration (flat_subconfig : AudioSetSubConfiguration) (qos_cfg : Option QosConfiguration) :
    Option LeAudioAseConfiguration := do
  let qos_cfg ← qos_cfg
  let targetLatency := match qos_cfg.target_latency with
    | 2 => TargetLatency.balancedLatencyReliability
    | 3 => .higherReliability
    | 1 => .lower
    | _ => .undefined
  let codecId := if flat_subconfig.codec_id.coding_format = K.lc3 then A2dp.CodecId.core K.lc3.toNat
    else .vendor flat_subconfig.codec_id.vendor_company_id.toNat flat_subconfig.codec_id.vendor_codec_id.toNat
  let codecConfiguration ← populateConfigurationData K.channelAllocation flat_subconfig.codec_configuration
  return ⟨targetLatency, some codecId, codecConfiguration⟩

def populateAseQosConfiguration (qos_cfg : Option QosConfiguration) : Option (LeAudioAseQosConfiguration Unit) := do
  let qos_cfg ← qos_cfg
  return ⟨qos_cfg.max_transport_latency.toNat, qos_cfg.retransmission_number.toNat, ()⟩

def CodecLocation.path : CodecLocation → LeAudioDataPathConfiguration
  | adsp => ⟨kIsoDataPathPlatformDefault, true⟩
  | host => ⟨kIsoDataPathHci, true⟩
  | controller => ⟨kIsoDataPathPlatformDefault, false⟩

def setConfigurationFromFlatSubconfig (flat_subconfig : AudioSetSubConfiguration) (qos_cfg : Option QosConfiguration)
    (location : CodecLocation) : Option (AseDirectionConfiguration DirectionRest) := do
  let ase ← populateAseConfiguration K flat_subconfig qos_cfg
  let qos ← populateAseQosConfiguration qos_cfg
  return ⟨ase, some qos, location.path⟩

def processSubconfig (subconfig : AudioSetSubConfiguration) (qos_cfg : Option QosConfiguration)
    (directionAseConfiguration : Ases) (location : CodecLocation) : Option Ases := do
  return directionAseConfiguration ++ [some (← setConfigurationFromFlatSubconfig K subconfig qos_cfg location)]

def default_qos : String := "QoS_Config_Balanced_Reliability"

/-- `qos_sink_key` and `qos_source_key`; a third name is not looked at. -/
def qosKeys : List String → String × String
  | [] => (default_qos, default_qos)
  | [key] => (key, key)
  | sink_key :: source_key :: _ => (sink_key, source_key)

/-- The loop body over the subconfigurations. -/
def processDirection (qos_sink_cfg qos_source_cfg : Option QosConfiguration) (location : CodecLocation)
    (ases : Ases × Ases) (subconfig : AudioSetSubConfiguration) : Option (Ases × Ases) := do
  let (sourceAseConfiguration, sinkAseConfiguration) := ases
  if subconfig.direction = kLeAudioDirectionSink then
    return (sourceAseConfiguration, ← processSubconfig K subconfig qos_sink_cfg sinkAseConfiguration location)
  else
    return (← processSubconfig K subconfig qos_source_cfg sourceAseConfiguration location, sinkAseConfiguration)

/-- The lists for source and sink. -/
def populateAseConfigurationFromFlat (flat_cfg : AudioSetConfiguration) (codec_cfgs : List CodecConfiguration)
    (qos_cfgs : List QosConfiguration) (location : CodecLocation) : Option (Ases × Ases) :=
  let (qos_sink_key, qos_source_key) := qosKeys flat_cfg.qos_config_name
  let qos_sink_cfg := qos_cfgs.find? (·.name = qos_sink_key)
  let qos_source_cfg := qos_cfgs.find? (·.name = qos_source_key)
  match codec_cfgs.find? (·.name = flat_cfg.codec_config_name) with
  | none => some ([], [])
  | some codec_cfg => codec_cfg.subconfigurations.foldlM (processDirection K qos_sink_cfg qos_source_cfg location) ([], [])

/-! ## The files loaded -/

/-- Source, sink and flags. -/
abbrev ConfigurationEntry := Ases × Ases × BitVec 32

/-- The static state. -/
structure Loaded where
  configurations_ : List (String × ConfigurationEntry)
  ase_configuration_settings_ : List (LeAudioAseConfigurationSetting DirectionRest)

def Loaded.empty : Loaded := ⟨[], []⟩

/-- What the loop over the configurations stores for one, if it stores anything. -/
def entryOf (root : AudioSetConfigurations) (location : CodecLocation) (flat_cfg : AudioSetConfiguration) :
    Option (Option ConfigurationEntry) := do
  let (source, sink) ←
    populateAseConfigurationFromFlat K flat_cfg root.codec_configurations root.qos_configurations location
  return if source.isEmpty && sink.isEmpty then none else some (source, sink, 0)

/-- With whether it succeeds; `none` is a file that cannot be read or parsed. -/
def loadConfigurationsFromFiles (configurations_root : Option AudioSetConfigurations) (location : CodecLocation)
    (configurations_ : List (String × ConfigurationEntry)) : Option (Bool × List (String × ConfigurationEntry)) :=
  match configurations_root with
  | none => some (false, configurations_)
  | some root =>
    if root.qos_configurations.isEmpty then some (false, configurations_)
    else if root.codec_configurations.isEmpty then some (false, configurations_)
    else if root.configurations.isEmpty then some (false, configurations_)
    else do
      let configurations_ ← root.configurations.foldlM (fun configurations_ flat_cfg => do
        match ← entryOf K root location flat_cfg with
        | none => return configurations_
        | some entry => return Assoc.assign configurations_ flat_cfg.name entry) configurations_
      return (true, configurations_)

def scenarioContext (scenario_name : String) : BitVec 32 :=
  if scenario_name = "Media" then K.alerts ||| K.instructional ||| K.notifications ||| K.emergencyAlarm ||| K.unspecified ||| K.media
  else if scenario_name = "Conversational" then K.ringtoneAlerts ||| K.conversational
  else if scenario_name = "Live" then K.liveAudio
  else if scenario_name = "Game" then K.game
  else if scenario_name = "VoiceAssistants" then K.voiceAssistants
  else 0

/-- The setting of an entry; the packing is not set. -/
def settingOf (context : BitVec 32) (entry : ConfigurationEntry) : LeAudioAseConfigurationSetting DirectionRest where
  audioContext := context
  packing := 0
  sinkAseConfiguration := some entry.2.1
  sourceAseConfiguration := some entry.1
  flags := some entry.2.2

def loadScenariosFromFiles (scenarios_root : Option AudioSetScenarios) (loaded : Loaded) : Bool × Loaded :=
  match scenarios_root with
  | none => (false, loaded)
  | some root =>
    if root.scenarios.isEmpty then (false, loaded)
    else
      let settings := root.scenarios.foldl (fun settings scenario =>
        scenario.configurations.foldl (fun settings config_name =>
          match loaded.configurations_.lookup config_name with
          | none => settings
          | some entry => settings ++ [settingOf (scenarioContext K scenario.name) entry]) settings)
        loaded.ase_configuration_settings_
      (true, { loaded with ase_configuration_settings_ := settings })

def loadConfigFiles (location : CodecLocation) : List (Option AudioSetConfigurations) → Loaded → Option (Bool × Loaded)
  | [], loaded => some (true, loaded)
  | content :: config_files, loaded => do
    let (ok, configurations_) ← loadConfigurationsFromFiles K content location loaded.configurations_
    let loaded := { loaded with configurations_ := configurations_ }
    if !ok then return (false, loaded) else loadConfigFiles location config_files loaded

def loadScenarioFiles : List (Option AudioSetScenarios) → Loaded → Bool × Loaded
  | [], loaded => (true, loaded)
  | content :: scenario_files, loaded =>
    let (ok, loaded) := loadScenariosFromFiles K content loaded
    if !ok then (false, loaded) else loadScenarioFiles scenario_files loaded

def loadContent (config_files : List (Option AudioSetConfigurations)) (scenario_files : List (Option AudioSetScenarios))
    (location : CodecLocation) (loaded : Loaded) : Option (Bool × Loaded) := do
  let (ok, loaded) ← loadConfigFiles K location config_files loaded
  if !ok then return (false, loaded) else return loadScenarioFiles K scenario_files loaded

/-- There is one file of each. -/
def loadAudioSetConfigurationProviderJson (config_file : Option AudioSetConfigurations)
    (scenario_file : Option AudioSetScenarios) (loaded : Loaded) : Option Loaded :=
  if loaded.configurations_.isEmpty || loaded.ase_configuration_settings_.isEmpty then do
    let (_, loaded) ← loadContent K [config_file] [scenario_file] .host .empty
    return loaded
  else some loaded

def getLeAudioAseConfigurationSettings (config_file : Option AudioSetConfigurations)
    (scenario_file : Option AudioSetScenarios) (loaded : Loaded) :
    Option (List (LeAudioAseConfigurationSetting DirectionRest) × Loaded) := do
  let loaded ← loadAudioSetConfigurationProviderJson K config_file scenario_file loaded
  return (loaded.ase_configuration_settings_, loaded)

end

/-! ## What the names of a file stand for -/

/-- The QoS that a configuration names for a direction; one name is for both. -/
def AudioSetConfiguration.qosName (cfg : AudioSetConfiguration) (direction : Direction) : String :=
  match cfg.qos_config_name, direction with
  | [], _ => default_qos
  | [name], _ => name
  | name :: _ :: _, .sink => name
  | _ :: name :: _, .source => name

namespace AudioSetConfigurations
variable (file : AudioSetConfigurations) (cfg : AudioSetConfiguration)

/-- The first codec of the name that the configuration has for it. -/
def Codec (codec : CodecConfiguration) : Prop := First (·.name = cfg.codec_config_name) file.codec_configurations codec

def Qos (direction : Direction) (qos : QosConfiguration) : Prop :=
  First (·.name = cfg.qosName direction) file.qos_configurations qos

/-- There are a codec with something to configure, and a QoS for each direction. -/
structure Resolves : Prop where
  codec : ∃ codec, file.Codec cfg codec ∧ codec.subconfigurations ≠ []
  qos : ∀ direction, ∃ qos, file.Qos cfg direction qos

/-- The configuration that a name stands for: the last of those that resolve. -/
def Named (name : String) (cfg : AudioSetConfiguration) : Prop :=
  First (fun cfg => cfg.name = name ∧ file.Resolves cfg) file.configurations.reverse cfg

/-- The file is not refused. -/
structure Accepted : Prop where
  qos : file.qos_configurations ≠ []
  codec : file.codec_configurations ≠ []
  configuration : file.configurations ≠ []

end AudioSetConfigurations

/-- The first parameter of each type has a value, and that is long enough. -/
def Readable (params : List CodecSpecificConfiguration) : Prop :=
  ∀ type : CodecSpecificLtvGenericTypes, ∀ param, First (·.type = type.value) params param →
    ∃ value, param.compound_value = some value ∧ type.width ≤ value.length

def AudioSetSubConfiguration.side (subconfig : AudioSetSubConfiguration) : Direction :=
  if subconfig.direction = kLeAudioDirectionSink then .sink else .source

/-- The subconfigurations of a direction. -/
def CodecConfiguration.side (codec : CodecConfiguration) (direction : Direction) : List AudioSetSubConfiguration :=
  codec.subconfigurations.filter (·.side = direction)

section
variable (K : AidlValues) (location : CodecLocation) (file : AudioSetConfigurations)

/-- The setting is that of the configuration for the context: its subconfigurations
of either direction, in order, with the QoS of the direction. -/
def IsSetting (context : BitVec 32) (cfg : AudioSetConfiguration) (setting : LeAudioAseConfigurationSetting DirectionRest) :
    Prop :=
  ∃ (codec : CodecConfiguration) (qos : Direction → QosConfiguration)
    (ases : Direction → List (AseDirectionConfiguration DirectionRest)),
    file.Codec cfg codec ∧ (∀ direction, file.Qos cfg direction (qos direction)) ∧
    (∀ direction, List.Forall₂
      (fun subconfig ase => setConfigurationFromFlatSubconfig K subconfig (some (qos direction)) location = some ase)
      (codec.side direction) (ases direction)) ∧
    setting = ⟨context, 0, some ((ases .sink).map some), some ((ases .source).map some), some 0⟩

/-- The names of a scenario file in order, each with the context of its scenario. -/
def contextNames (scenarios : AudioSetScenarios) : List (BitVec 32 × String) :=
  scenarios.scenarios.flatMap fun scenario => scenario.configurations.map (scenarioContext K scenario.name, ·)

open Classical in
/-- The load comes to its end with the settings of the named configurations that
resolve, and no other. -/
def LoadsAsNamed (scenarios : AudioSetScenarios) : Prop :=
  ∃ ok loaded, loadContent K [some file] [some scenarios] location .empty = some (ok, loaded) ∧
    List.Forall₂ (fun p setting => ∃ cfg, file.Named p.2 cfg ∧ IsSetting K location file p.1 cfg setting)
      ((contextNames K scenarios).filter fun p => ∃ cfg, file.Named p.2 cfg) loaded.ase_configuration_settings_

/-! ## What may be missing -/

namespace AudioSetConfigurations

/-- Each subconfiguration of the codec that is found has the QoS of its direction,
and parameters that can be read. -/
def DefinedAt (cfg : AudioSetConfiguration) : Prop :=
  ∀ codec, file.Codec cfg codec → ∀ subconfig ∈ codec.subconfigurations,
    (∃ qos, file.Qos cfg subconfig.side qos) ∧ Readable subconfig.codec_configuration

/-- The configuration that the name has in the end: the last with a codec and
something to configure. -/
def Final (name : String) (cfg : AudioSetConfiguration) : Prop :=
  First (fun cfg => cfg.name = name ∧ ∃ codec, file.Codec cfg codec ∧ codec.subconfigurations ≠ [])
    file.configurations.reverse cfg

/-- What the subconfigurations of the configuration come to, in order, with the QoS
of the direction. A direction without any needs no QoS. -/
def ComesTo (cfg : AudioSetConfiguration) (ases : Direction → List (AseDirectionConfiguration DirectionRest)) : Prop :=
  ∃ codec, file.Codec cfg codec ∧ ∀ direction, List.Forall₂
    (fun subconfig ase => ∃ qos, file.Qos cfg direction qos ∧
      setConfigurationFromFlatSubconfig K subconfig (some qos) location = some ase)
    (codec.side direction) (ases direction)

/-- What a name has in the end resolves, or comes to the same as the configuration
that the name stands for. -/
def Settled (name : String) : Prop :=
  ∀ cfg, file.Final name cfg → file.Resolves cfg ∨
    ∃ cfg' ases, file.Named name cfg' ∧ file.ComesTo K location cfg ases ∧ file.ComesTo K location cfg' ases

/-- Every configuration is defined, and the names of the scenarios are settled. A
file without any QoS is refused before its references matter. -/
def Complete (scenarios : AudioSetScenarios) : Prop :=
  file.qos_configurations = [] ∨
    (∀ cfg ∈ file.configurations, file.DefinedAt cfg) ∧
      ∀ scenario ∈ scenarios.scenarios, ∀ name ∈ scenario.configurations, file.Settled K location name

end AudioSetConfigurations

end

/-! ## One configuration -/

section
variable {K : AidlValues} {location : CodecLocation}

theorem populateConfigurationData_isSome_iff (channelAllocation : AudioLocation → BitVec 32)
    (params : List CodecSpecificConfiguration) :
    (∃ ltvs, populateConfigurationData channelAllocation params = some ltvs) ↔ Readable params := by
  unfold Readable
  simp only [← readParam_isSome_iff]
  constructor
  · rintro ⟨ltvs, h⟩
    simp only [populateConfigurationData, Option.bind_eq_bind, Option.bind_eq_some_iff] at h
    obtain ⟨n1, h1, n2, h2, n3, h3, n4, h4, n5, h5, -⟩ := h
    intro type
    cases type with
    | supportedSamplingFrequency => exact ⟨n1, h1⟩
    | supportedFrameDuration => exact ⟨n2, h2⟩
    | supportedAudioChannelAllocation => exact ⟨n3, h3⟩
    | supportedOctetsPerCodecFrame => exact ⟨n4, h4⟩
    | supportedCodecFrameBlocksPerSdu => exact ⟨n5, h5⟩
  · intro h
    obtain ⟨n1, h1⟩ := h .supportedSamplingFrequency
    obtain ⟨n2, h2⟩ := h .supportedFrameDuration
    obtain ⟨n3, h3⟩ := h .supportedAudioChannelAllocation
    obtain ⟨n4, h4⟩ := h .supportedOctetsPerCodecFrame
    obtain ⟨n5, h5⟩ := h .supportedCodecFrameBlocksPerSdu
    exact ⟨_, populateConfigurationData_eq h1 h2 h3 h4 h5⟩

/-- A subconfiguration is set where it has a QoS, and parameters to be read. -/
theorem setConfigurationFromFlatSubconfig_isSome_iff (subconfig : AudioSetSubConfiguration) (qos : Option QosConfiguration) :
    (∃ ase, setConfigurationFromFlatSubconfig K subconfig qos location = some ase) ↔
      (∃ q, qos = some q) ∧ Readable subconfig.codec_configuration := by
  rw [← populateConfigurationData_isSome_iff K.channelAllocation]
  cases qos with
  | none => simp [setConfigurationFromFlatSubconfig, populateAseConfiguration]
  | some qos =>
    simp [setConfigurationFromFlatSubconfig, populateAseConfiguration, populateAseQosConfiguration, Option.bind_eq_some_iff]

/-- A step of the loop appends to the list of the subconfiguration's direction. -/
theorem processDirection_eq_some_iff (qos : Direction → Option QosConfiguration) (lists : Direction → Ases)
    (subconfig : AudioSetSubConfiguration) (result : Ases × Ases) :
    processDirection K (qos .sink) (qos .source) location (lists .source, lists .sink) subconfig = some result ↔
      ∃ ase, setConfigurationFromFlatSubconfig K subconfig (qos subconfig.side) location = some ase ∧
        let lists := Function.update lists subconfig.side (lists subconfig.side ++ [some ase])
        result = (lists .source, lists .sink) := by
  unfold processDirection processSubconfig AudioSetSubConfiguration.side
  by_cases h : subconfig.direction = kLeAudioDirectionSink
  · simp only [h, if_true]
    cases setConfigurationFromFlatSubconfig K subconfig (qos .sink) location <;> simp [eq_comm]
  · simp only [h, if_false]
    cases setConfigurationFromFlatSubconfig K subconfig (qos .source) location <;> simp [eq_comm]

/-- The subconfigurations of either direction are set with its QoS, in order. -/
def Sets (K : AidlValues) (location : CodecLocation) (qos : Direction → Option QosConfiguration)
    (subconfigs : List AudioSetSubConfiguration) (ases : Direction → List (AseDirectionConfiguration DirectionRest)) : Prop :=
  ∀ direction, List.Forall₂
    (fun subconfig ase => setConfigurationFromFlatSubconfig K subconfig (qos direction) location = some ase)
    (subconfigs.filter (·.side = direction)) (ases direction)

theorem sets_cons_iff (qos : Direction → Option QosConfiguration) (subconfig : AudioSetSubConfiguration)
    (subconfigs : List AudioSetSubConfiguration) (ases : Direction → List (AseDirectionConfiguration DirectionRest)) :
    Sets K location qos (subconfig :: subconfigs) ases ↔
      ∃ ase rest, setConfigurationFromFlatSubconfig K subconfig (qos subconfig.side) location = some ase ∧
        Sets K location qos subconfigs rest ∧ ases = Function.update rest subconfig.side (ase :: rest subconfig.side) := by
  unfold Sets
  constructor
  · intro h
    have hside := h subconfig.side
    rw [List.filter_cons_of_pos (by simp)] at hside
    cases hases : ases subconfig.side with
    | nil => 
      rw [hases] at hside
      cases hside
    | cons ase tail =>
      rw [hases] at hside
      cases hside with
      | cons hase htail =>
        refine ⟨ase, Function.update ases subconfig.side tail, hase, fun direction => ?_, ?_⟩
        · by_cases hd : subconfig.side = direction
          · subst hd
            simpa using htail
          · have hother := h direction
            rw [List.filter_cons_of_neg (by simpa using hd)] at hother
            rw [Function.update_of_ne (Ne.symm hd)]
            exact hother
        · simp [hases]
  · rintro ⟨ase, rest, hase, hrest, rfl⟩ direction
    by_cases hd : subconfig.side = direction
    · subst hd
      rw [List.filter_cons_of_pos (by simp), Function.update_self]
      exact .cons hase (hrest _)
    · rw [List.filter_cons_of_neg (by simpa using hd), Function.update_of_ne (Ne.symm hd)]
      exact hrest direction

variable (K location) in
/-- The loop comes to its end where all are set, and splits them by direction. -/
theorem foldlM_processDirection_iff (qos : Direction → Option QosConfiguration) (subconfigs : List AudioSetSubConfiguration)
    (lists : Direction → Ases) (result : Ases × Ases) :
    subconfigs.foldlM (processDirection K (qos .sink) (qos .source) location) (lists .source, lists .sink) = some result ↔
      ∃ ases, Sets K location qos subconfigs ases ∧
        result = (lists .source ++ (ases .source).map some, lists .sink ++ (ases .sink).map some) := by
  induction subconfigs generalizing lists with
  | nil =>
    constructor
    · rintro ⟨⟩
      exact ⟨fun _ => [], fun direction => .nil, by simp⟩
    · rintro ⟨ases, hases, rfl⟩
      have hnil : ∀ direction, ases direction = [] := fun direction => List.forall₂_nil_left_iff.1 (hases direction)
      simp [hnil]
  | cons subconfig subconfigs ih =>
    rw [List.foldlM_cons, Option.bind_eq_bind, Option.bind_eq_some_iff]
    simp only [processDirection_eq_some_iff, sets_cons_iff]
    have happend : ∀ ase (rest : Direction → List (AseDirectionConfiguration DirectionRest)) direction,
        Function.update lists subconfig.side (lists subconfig.side ++ [some ase]) direction ++ (rest direction).map some =
          lists direction ++ (Function.update rest subconfig.side (ase :: rest subconfig.side) direction).map some := by
      intro ase rest direction
      by_cases hd : direction = subconfig.side
      · subst hd
        simp
      · simp [hd]
    constructor
    · rintro ⟨_, ⟨ase, hase, rfl⟩, hrest⟩
      obtain ⟨rest, hsets, rfl⟩ := (ih _).1 hrest
      exact ⟨_, ⟨ase, rest, hase, hsets, rfl⟩, by rw [happend, happend]⟩
    · rintro ⟨_, ⟨ase, rest, hase, hrest, rfl⟩, rfl⟩
      exact ⟨_, ⟨ase, hase, rfl⟩, (ih _).2 ⟨rest, hrest, by rw [happend, happend]⟩⟩

theorem exists_sets_iff (qos : Direction → Option QosConfiguration) (subconfigs : List AudioSetSubConfiguration) :
    (∃ ases, Sets K location qos subconfigs ases) ↔ ∀ subconfig ∈ subconfigs,
      ∃ ase, setConfigurationFromFlatSubconfig K subconfig (qos subconfig.side) location = some ase := by
  induction subconfigs with
  | nil => exact iff_of_true ⟨fun _ => [], fun direction => .nil⟩ (by simp)
  | cons subconfig subconfigs ih =>
    rw [List.forall_mem_cons, ← ih]
    simp only [sets_cons_iff]
    constructor
    · rintro ⟨_, ase, rest, hase, hrest, rfl⟩
      exact ⟨⟨ase, hase⟩, rest, hrest⟩
    · rintro ⟨⟨ase, hase⟩, rest, hrest⟩
      exact ⟨_, ase, rest, hase, hrest, rfl⟩

/-- What is set of some subconfigurations is not nothing. -/
theorem Sets.ne_nil {qos : Direction → Option QosConfiguration} {subconfigs : List AudioSetSubConfiguration}
    {ases : Direction → List (AseDirectionConfiguration DirectionRest)} (h : Sets K location qos subconfigs ases)
    (hne : subconfigs ≠ []) : ¬ (ases .source = [] ∧ ases .sink = []) := by
  obtain ⟨subconfig, rest, rfl⟩ := List.exists_cons_of_ne_nil hne
  obtain ⟨ase, rest, -, -, rfl⟩ := (sets_cons_iff ..).1 h
  rintro ⟨hsource, hsink⟩
  cases hside : subconfig.side <;> simp [hside] at hsource hsink

/-! ## References -/

/-- The QoS that the loading finds. -/
def AudioSetConfigurations.findQos (file : AudioSetConfigurations) (cfg : AudioSetConfiguration) (direction : Direction) :
    Option QosConfiguration :=
  file.qos_configurations.find? (·.name = cfg.qosName direction)

variable {file : AudioSetConfigurations} {cfg : AudioSetConfiguration}

theorem qos_iff (direction : Direction) (qos : QosConfiguration) :
    file.Qos cfg direction qos ↔ file.findQos cfg direction = some qos :=
  Selection.first_iff_find? (fun _ => decide_eq_true_iff) _ _

theorem codec_iff (codec : CodecConfiguration) :
    file.Codec cfg codec ↔ file.codec_configurations.find? (·.name = cfg.codec_config_name) = some codec :=
  Selection.first_iff_find? (fun _ => decide_eq_true_iff) _ _

theorem qosKeys_eq (cfg : AudioSetConfiguration) : qosKeys cfg.qos_config_name = (cfg.qosName .sink, cfg.qosName .source) := by
  unfold AudioSetConfiguration.qosName
  match cfg.qos_config_name with
  | [] => rfl
  | [_] => rfl
  | _ :: _ :: _ => rfl

theorem entryOf_of_codec {codec : CodecConfiguration} (hcodec : file.Codec cfg codec) (hne : codec.subconfigurations ≠ [])
    (entry : Option ConfigurationEntry) :
    entryOf K file location cfg = some entry ↔ ∃ ases, Sets K location (file.findQos cfg) codec.subconfigurations ases ∧
      entry = some ((ases .source).map some, (ases .sink).map some, 0) := by
  have hfold := foldlM_processDirection_iff K location (file.findQos cfg) codec.subconfigurations fun _ => []
  simp only [AudioSetConfigurations.findQos] at hfold
  simp only [entryOf, populateAseConfigurationFromFlat, (codec_iff codec).1 hcodec, qosKeys_eq, Option.bind_eq_bind,
    Option.bind_eq_some_iff, hfold]
  constructor
  · rintro ⟨_, ⟨ases, hases, rfl⟩, hentry⟩
    have hsome := hases.ne_nil hne
    exact ⟨ases, hases, by simpa [hsome] using hentry.symm⟩
  · rintro ⟨ases, hases, rfl⟩
    have hsome := hases.ne_nil hne
    exact ⟨_, ⟨ases, hases, rfl⟩, by simp [hsome]⟩

/-- A configuration without anything to configure is passed over. -/
theorem entryOf_of_not_codec (h : ¬ ∃ codec, file.Codec cfg codec ∧ codec.subconfigurations ≠ []) :
    entryOf K file location cfg = some none := by
  simp only [entryOf, populateAseConfigurationFromFlat]
  cases hfind : file.codec_configurations.find? (·.name = cfg.codec_config_name) with
  | none => rfl
  | some codec =>
    have hnil : codec.subconfigurations = [] := by
      by_contra hne
      exact h ⟨codec, (codec_iff codec).2 hfind, hne⟩
    simp [hnil]

variable (K location) in
/-- The loop gets past a configuration exactly when it is defined. -/
theorem definedAt_iff : file.DefinedAt cfg ↔ ∃ entry, entryOf K file location cfg = some entry := by
  by_cases h : ∃ codec, file.Codec cfg codec ∧ codec.subconfigurations ≠ []
  · obtain ⟨codec, hcodec, hne⟩ := h
    have hset : file.DefinedAt cfg ↔ ∃ ases, Sets K location (file.findQos cfg) codec.subconfigurations ases := by
      simp only [exists_sets_iff, setConfigurationFromFlatSubconfig_isSome_iff, ← qos_iff]
      exact ⟨fun h => h codec hcodec, fun h codec' hcodec' => hcodec.unique hcodec' ▸ h⟩
    simp only [hset, entryOf_of_codec hcodec hne]
    constructor
    · rintro ⟨ases, hases⟩
      exact ⟨_, ases, hases, rfl⟩
    · rintro ⟨_, ases, hases, -⟩
      exact ⟨ases, hases⟩
  · refine iff_of_true (fun codec hcodec subconfig hsub => ?_) ⟨none, entryOf_of_not_codec h⟩
    exact absurd ⟨codec, hcodec, List.ne_nil_of_mem hsub⟩ h

variable (K location) in
/-- The entry of a configuration is what its subconfigurations come to. -/
theorem entryOf_eq_some_iff (entry : ConfigurationEntry) :
    entryOf K file location cfg = some (some entry) ↔
      (∃ codec, file.Codec cfg codec ∧ codec.subconfigurations ≠ []) ∧
        ∃ ases, file.ComesTo K location cfg ases ∧ entry = ((ases .source).map some, (ases .sink).map some, 0) := by
  by_cases h : ∃ codec, file.Codec cfg codec ∧ codec.subconfigurations ≠ []
  · obtain ⟨codec, hcodec, hne⟩ := h
    have hcomes : ∀ ases, Sets K location (file.findQos cfg) codec.subconfigurations ases ↔ file.ComesTo K location cfg ases := by
      intro ases
      have hqos : ∀ direction subconfig ase, setConfigurationFromFlatSubconfig K subconfig (file.findQos cfg direction) location =
          some ase ↔ ∃ qos, file.Qos cfg direction qos ∧
            setConfigurationFromFlatSubconfig K subconfig (some qos) location = some ase := by
        intro direction subconfig ase
        simp only [qos_iff]
        cases file.findQos cfg direction with
        | none => exact iff_of_false (by simp [setConfigurationFromFlatSubconfig, populateAseConfiguration]) (by simp)
        | some qos => simp
      simp only [Sets, hqos]
      constructor
      · exact fun h => ⟨codec, hcodec, h⟩
      · rintro ⟨codec', hcodec', h⟩
        cases hcodec.unique hcodec'
        exact h
    rw [entryOf_of_codec hcodec hne, and_iff_right ⟨codec, hcodec, hne⟩]
    simp only [hcomes, Option.some.injEq]
  · rw [entryOf_of_not_codec h]
    exact iff_of_false nofun fun hboth => h hboth.1

/-- The settings of a configuration that resolves are what it comes to. -/
theorem isSetting_iff (h : file.Resolves cfg) (context : BitVec 32)
    (setting : LeAudioAseConfigurationSetting DirectionRest) :
    IsSetting K location file context cfg setting ↔ ∃ ases, file.ComesTo K location cfg ases ∧
      setting = settingOf context ((ases .source).map some, (ases .sink).map some, 0) := by
  constructor
  · rintro ⟨codec, qos, ases, hcodec, hqos, hases, rfl⟩
    refine ⟨ases, ⟨codec, hcodec, fun direction => ?_⟩, rfl⟩
    exact (hases direction).imp fun subconfig ase hset => ⟨qos direction, hqos direction, hset⟩
  · rintro ⟨ases, ⟨codec, hcodec, hases⟩, rfl⟩
    choose qos hqos using h.qos
    refine ⟨codec, qos, ases, hcodec, hqos, fun direction => ?_, rfl⟩
    refine (hases direction).imp ?_
    rintro subconfig ase ⟨q, hq, hset⟩
    rwa [(hqos direction).unique hq]

/-! ## The load -/

/-- What is assigned for a configuration. -/
def stored (K : AidlValues) (location : CodecLocation) (file : AudioSetConfigurations) (cfg : AudioSetConfiguration) :
    Option (String × ConfigurationEntry) :=
  (entryOf K file location cfg).join.map (cfg.name, ·)

theorem stored_eq_some_iff (K : AidlValues) (location : CodecLocation) (file : AudioSetConfigurations)
    (cfg : AudioSetConfiguration) (name : String) (entry : ConfigurationEntry) :
    stored K location file cfg = some (name, entry) ↔ cfg.name = name ∧ entryOf K file location cfg = some (some entry) := by
  simp only [stored, Option.map_eq_some_iff, Option.join_eq_some_iff, Prod.mk.injEq]
  constructor
  · rintro ⟨_, h, hname, rfl⟩
    exact ⟨hname, h⟩
  · rintro ⟨hname, h⟩
    exact ⟨entry, h, hname, rfl⟩

/-- The loop over the configurations. -/
theorem foldlM_entryOf_iff (K : AidlValues) (location : CodecLocation) (file : AudioSetConfigurations)
    (cfgs : List AudioSetConfiguration) (m m' : List (String × ConfigurationEntry)) :
    (cfgs.foldlM (fun configurations_ flat_cfg => do
        match ← entryOf K file location flat_cfg with
        | none => return configurations_
        | some entry => return Assoc.assign configurations_ flat_cfg.name entry) m) = some m' ↔
      (∀ cfg ∈ cfgs, ∃ entry, entryOf K file location cfg = some entry) ∧
        m' = Assoc.assignAll m (cfgs.filterMap (stored K location file)) := by
  induction cfgs generalizing m with
  | nil => simp [eq_comm]
  | cons cfg cfgs ih =>
    rw [List.foldlM_cons, List.forall_mem_cons]
    cases hentry : entryOf K file location cfg with
    | none => simp
    | some entry =>
      cases entry with
      | none =>
        have hstored : stored K location file cfg = none := by simp [stored, hentry]
        rw [List.filterMap_cons_none hstored]
        simpa [hentry] using ih m
      | some entry =>
        have hstored := (stored_eq_some_iff K location file cfg cfg.name entry).2 ⟨rfl, hentry⟩
        rw [List.filterMap_cons_some hstored]
        simpa [hentry] using ih (Assoc.assign m cfg.name entry)

/-- The loops over the scenarios and their names. -/
theorem foldl_scenarios (K : AidlValues) (configurations_ : List (String × ConfigurationEntry))
    (scenarios : List AudioSetScenario) (settings : List (LeAudioAseConfigurationSetting DirectionRest)) :
    scenarios.foldl (fun settings scenario =>
        scenario.configurations.foldl (fun settings config_name =>
          match configurations_.lookup config_name with
          | none => settings
          | some entry => settings ++ [settingOf (scenarioContext K scenario.name) entry]) settings) settings =
      settings ++ (contextNames K ⟨scenarios⟩).filterMap fun p => (configurations_.lookup p.2).map (settingOf p.1) := by
  have hnames : ∀ (context : BitVec 32) (names : List String) (settings : List (LeAudioAseConfigurationSetting DirectionRest)),
      names.foldl (fun settings config_name =>
          match configurations_.lookup config_name with
          | none => settings
          | some entry => settings ++ [settingOf context entry]) settings =
        settings ++ names.filterMap fun name => (configurations_.lookup name).map (settingOf context) := by
    intro context names
    induction names with
    | nil => simp
    | cons name names ih =>
      intro settings
      rw [List.foldl_cons, ih, List.filterMap_cons]
      cases configurations_.lookup name <;> simp
  induction scenarios generalizing settings with
  | nil => simp [contextNames]
  | cons scenario scenarios ih =>
    rw [List.foldl_cons, ih, hnames]
    simp [contextNames, List.filterMap_map]

theorem loadScenariosFromFiles_eq (K : AidlValues) (scenarios : AudioSetScenarios) (loaded : Loaded) :
    loadScenariosFromFiles K (some scenarios) loaded = (!scenarios.scenarios.isEmpty, { loaded with
      ase_configuration_settings_ := loaded.ase_configuration_settings_ ++
        (contextNames K scenarios).filterMap fun p => (loaded.configurations_.lookup p.2).map (settingOf p.1) }) := by
  obtain ⟨scenarios⟩ := scenarios
  simp only [loadScenariosFromFiles, foldl_scenarios]
  cases scenarios with
  | nil => simp [contextNames]
  | cons scenario scenarios => rfl

variable (K location) in
theorem loadConfigurationsFromFiles_of_accepted (h : file.Accepted) (m m' : List (String × ConfigurationEntry)) (ok : Bool) :
    loadConfigurationsFromFiles K (some file) location m = some (ok, m') ↔
      (∀ cfg ∈ file.configurations, ∃ entry, entryOf K file location cfg = some entry) ∧
        ok = true ∧ m' = Assoc.assignAll m (file.configurations.filterMap (stored K location file)) := by
  have hqos := List.isEmpty_eq_false_iff.2 h.qos
  have hcodec := List.isEmpty_eq_false_iff.2 h.codec
  have hconfiguration := List.isEmpty_eq_false_iff.2 h.configuration
  simp only [loadConfigurationsFromFiles, hqos, hcodec, hconfiguration, Bool.false_eq_true, if_false]
  rw [Option.bind_eq_bind, Option.bind_eq_some_iff]
  simp only [foldlM_entryOf_iff]
  constructor
  · rintro ⟨_, ⟨hall, rfl⟩, hresult⟩
    cases hresult
    exact ⟨hall, rfl, rfl⟩
  · rintro ⟨hall, rfl, rfl⟩
    exact ⟨_, ⟨hall, rfl⟩, rfl⟩

theorem loadConfigurationsFromFiles_of_not_accepted (h : ¬ file.Accepted) (m : List (String × ConfigurationEntry)) :
    loadConfigurationsFromFiles K (some file) location m = some (false, m) := by
  by_cases hqos : file.qos_configurations = []
  · simp [loadConfigurationsFromFiles, hqos]
  by_cases hcodec : file.codec_configurations = []
  · simp [loadConfigurationsFromFiles, hcodec]
  by_cases hconfiguration : file.configurations = []
  · simp [loadConfigurationsFromFiles, hconfiguration]
  · exact absurd ⟨hqos, hcodec, hconfiguration⟩ h

/-- What is left after both files. -/
def loadedOf (K : AidlValues) (location : CodecLocation) (file : AudioSetConfigurations) (scenarios : AudioSetScenarios) :
    Loaded where
  configurations_ := Assoc.assignAll [] (file.configurations.filterMap (stored K location file))
  ase_configuration_settings_ := (contextNames K scenarios).filterMap fun p =>
    ((Assoc.assignAll [] (file.configurations.filterMap (stored K location file))).lookup p.2).map (settingOf p.1)

theorem loadContent_of_accepted (h : file.Accepted) (scenarios : AudioSetScenarios) (ok : Bool) (loaded : Loaded) :
    loadContent K [some file] [some scenarios] location .empty = some (ok, loaded) ↔
      (∀ cfg ∈ file.configurations, ∃ entry, entryOf K file location cfg = some entry) ∧
        ok = !scenarios.scenarios.isEmpty ∧ loaded = loadedOf K location file scenarios := by
  by_cases hall : ∀ cfg ∈ file.configurations, ∃ entry, entryOf K file location cfg = some entry
  · have hload := (loadConfigurationsFromFiles_of_accepted K location h [] _ true).2 ⟨hall, rfl, rfl⟩
    have hcontent : loadContent K [some file] [some scenarios] location .empty =
        some (!scenarios.scenarios.isEmpty, loadedOf K location file scenarios) := by
      simp only [loadContent, loadConfigFiles, Loaded.empty, hload, loadScenarioFiles, loadScenariosFromFiles_eq]
      cases scenarios.scenarios.isEmpty <;> rfl
    rw [hcontent, and_iff_right hall]
    simp [eq_comm]
  · have hload : loadConfigurationsFromFiles K (some file) location [] = none := by
      by_contra hne
      obtain ⟨⟨ok, m⟩, hsome⟩ := Option.ne_none_iff_exists'.1 hne
      exact hall ((loadConfigurationsFromFiles_of_accepted K location h [] m ok).1 hsome).1
    refine iff_of_false ?_ fun h => hall h.1
    simp [loadContent, loadConfigFiles, Loaded.empty, hload]

theorem loadContent_of_not_accepted (h : ¬ file.Accepted) (scenarios : AudioSetScenarios) :
    loadContent K [some file] [some scenarios] location .empty = some (false, .empty) := by
  simp [loadContent, loadConfigFiles, loadConfigurationsFromFiles_of_not_accepted h]

/-! ## Names -/

theorem AudioSetConfigurations.Named.mem {name : String} (h : file.Named name cfg) : cfg ∈ file.configurations :=
  List.mem_reverse.1 (First.mem h)

/-- A configuration resolves only in a file that is accepted. -/
theorem AudioSetConfigurations.Resolves.accepted (h : file.Resolves cfg) (hmem : cfg ∈ file.configurations) :
    file.Accepted := by
  obtain ⟨codec, hcodec, -⟩ := h.codec
  obtain ⟨qos, hqos⟩ := h.qos .sink
  exact ⟨List.ne_nil_of_mem hqos.mem, List.ne_nil_of_mem hcodec.mem, List.ne_nil_of_mem hmem⟩

/-- What resolves has a codec, so a name has something in the end where it stands for something. -/
theorem AudioSetConfigurations.Named.exists_final {name : String} (h : file.Named name cfg) :
    ∃ cfg', file.Final name cfg' :=
  Selection.exists_first_iff.2 ⟨cfg, First.mem h, h.prop.1, h.prop.2.codec⟩

theorem AudioSetConfigurations.Final.named {name : String} (h : file.Final name cfg) (hresolves : file.Resolves cfg) :
    file.Named name cfg :=
  First.strengthen h ⟨h.prop.1, hresolves⟩ fun _ hcfg => ⟨hcfg.1, hcfg.2.codec⟩

theorem AudioSetConfigurations.Final.mem {name : String} (h : file.Final name cfg) : cfg ∈ file.configurations :=
  List.mem_reverse.1 (First.mem h)

section
variable (hdefined : ∀ cfg ∈ file.configurations, file.DefinedAt cfg)
include hdefined

/-- A name is looked up as what it has in the end. -/
theorem lookup_stored_iff (name : String) (entry : ConfigurationEntry) :
    (Assoc.assignAll [] (file.configurations.filterMap (stored K location file))).lookup name = some entry ↔
      ∃ cfg, file.Final name cfg ∧ entryOf K file location cfg = some (some entry) := by
  have hstored : ∀ cfg ∈ file.configurations.reverse, (∃ entry, stored K location file cfg = some (name, entry)) ↔
      cfg.name = name ∧ ∃ codec, file.Codec cfg codec ∧ codec.subconfigurations ≠ [] := by
    intro cfg hmem
    simp only [stored_eq_some_iff, exists_and_left]
    refine and_congr_right fun _ => ⟨?_, ?_⟩
    · rintro ⟨entry, hentry⟩
      exact ((entryOf_eq_some_iff K location entry).1 hentry).1
    · rintro ⟨codec, hcodec, hne⟩
      obtain ⟨entry, hentry⟩ := (definedAt_iff K location).1 (hdefined cfg (List.mem_reverse.1 hmem))
      obtain ⟨ases, -, rfl⟩ := (entryOf_of_codec hcodec hne entry).1 hentry
      exact ⟨_, hentry⟩
  rw [Assoc.lookup_assignAll, List.lookup_nil, Option.or_none, ← List.filterMap_reverse, Assoc.lookup_filterMap_eq_some_iff]
  refine exists_congr fun cfg => ?_
  rw [Selection.first_congr hstored, stored_eq_some_iff]
  exact and_congr_right fun hfinal => and_iff_right hfinal.prop.1

variable (K location) in
/-- What a name has in the end is found under it. -/
theorem exists_lookup {name : String} (h : file.Final name cfg) :
    ∃ entry, (Assoc.assignAll [] (file.configurations.filterMap (stored K location file))).lookup name = some entry ∧
      entryOf K file location cfg = some (some entry) := by
  obtain ⟨codec, hcodec, hne⟩ := h.prop.2
  obtain ⟨entry, hentry⟩ := (definedAt_iff K location).1 (hdefined cfg h.mem)
  obtain ⟨ases, -, rfl⟩ := (entryOf_of_codec hcodec hne entry).1 hentry
  exact ⟨_, (lookup_stored_iff hdefined name _).2 ⟨cfg, h, hentry⟩, hentry⟩

/-- A name contributes the setting of what it stands for exactly when it is settled. -/
theorem settled_iff (name : String) (context : BitVec 32) :
    file.Settled K location name ↔
      ∀ entry, (Assoc.assignAll [] (file.configurations.filterMap (stored K location file))).lookup name = some entry →
        ∃ cfg, file.Named name cfg ∧ IsSetting K location file context cfg (settingOf context entry) := by
  constructor
  · intro hsettled entry hlookup
    obtain ⟨cfg, hfinal, hentry⟩ := (lookup_stored_iff hdefined name entry).1 hlookup
    obtain ⟨-, ases, hases, rfl⟩ := (entryOf_eq_some_iff K location entry).1 hentry
    rcases hsettled cfg hfinal with hresolves | ⟨cfg', ases', hnamed, hcomes, hcomes'⟩
    · exact ⟨cfg, hfinal.named hresolves, (isSetting_iff hresolves context _).2 ⟨ases, hases, rfl⟩⟩
    · have hentry' := (entryOf_eq_some_iff K location _).2 ⟨hfinal.prop.2, ases', hcomes, rfl⟩
      rw [hentry, Option.some.injEq, Option.some.injEq] at hentry'
      rw [hentry']
      exact ⟨cfg', hnamed, (isSetting_iff hnamed.prop.2 context _).2 ⟨ases', hcomes', rfl⟩⟩
  · intro h cfg hfinal
    obtain ⟨entry, hlookup, hentry⟩ := exists_lookup K location hdefined hfinal
    obtain ⟨cfg', hnamed, hsetting⟩ := h entry hlookup
    obtain ⟨ases', hcomes', hsame⟩ := (isSetting_iff hnamed.prop.2 context _).1 hsetting
    obtain ⟨-, ases, hcomes, rfl⟩ := (entryOf_eq_some_iff K location entry).1 hentry
    have hases : ases = ases' := by
      simp only [settingOf, LeAudioAseConfigurationSetting.mk.injEq, Option.some.injEq] at hsame
      have hinjective := (List.map_injective_iff.2 (Option.some_injective (AseDirectionConfiguration DirectionRest)))
      funext direction
      cases direction with
      | sink => exact hinjective hsame.2.2.1
      | source => exact hinjective hsame.2.2.2.1
    exact .inr ⟨cfg', ases, hnamed, hcomes, hases ▸ hcomes'⟩

open Classical in
/-- The settings are those of the named configurations exactly when the names are settled. -/
theorem loadedOf_asNamed_iff (scenarios : AudioSetScenarios) :
    List.Forall₂ (fun p setting => ∃ cfg, file.Named p.2 cfg ∧ IsSetting K location file p.1 cfg setting)
        ((contextNames K scenarios).filter fun p => ∃ cfg, file.Named p.2 cfg)
        (loadedOf K location file scenarios).ase_configuration_settings_ ↔
      ∀ scenario ∈ scenarios.scenarios, ∀ name ∈ scenario.configurations, file.Settled K location name := by
  have hnames : (∀ scenario ∈ scenarios.scenarios, ∀ name ∈ scenario.configurations, file.Settled K location name) ↔
      ∀ p ∈ contextNames K scenarios, file.Settled K location p.2 := by
    simp only [contextNames, List.forall_mem_flatMap, List.forall_mem_map]
  rw [hnames]
  refine (Selection.forall₂_filter_filterMap_iff ?_).trans (forall₂_congr fun p _ => ?_)
  · intro p _ hp
    obtain ⟨cfg, hnamed⟩ := of_decide_eq_true hp
    obtain ⟨cfg', hfinal⟩ := hnamed.exists_final
    obtain ⟨entry, hlookup, -⟩ := exists_lookup K location hdefined hfinal
    rw [Option.isSome_map, hlookup]
    rfl
  · rw [settled_iff hdefined p.2 p.1]
    constructor
    · rintro ⟨-, h⟩ entry hlookup
      exact h _ (by rw [hlookup]; rfl)
    · intro h
      refine ⟨?_, ?_⟩
      · rw [Bool.eq_iff_iff, decide_eq_true_iff, Option.isSome_map, Option.isSome_iff_exists]
        constructor
        · rintro ⟨cfg, hnamed⟩
          obtain ⟨cfg', hfinal⟩ := hnamed.exists_final
          obtain ⟨entry, hlookup, -⟩ := exists_lookup K location hdefined hfinal
          exact ⟨entry, hlookup⟩
        · rintro ⟨entry, hlookup⟩
          obtain ⟨cfg, hnamed, -⟩ := h entry hlookup
          exact ⟨cfg, hnamed⟩
      · intro setting hsetting
        obtain ⟨entry, hlookup, rfl⟩ := Option.map_eq_some_iff.1 hsetting
        exact h entry hlookup

end

end

/-- The files are loaded as their names say exactly when nothing that the load
comes to is missing. -/
theorem loadContent_asNamed_iff (K : AidlValues) (location : CodecLocation) (file : AudioSetConfigurations)
    (scenarios : AudioSetScenarios) : LoadsAsNamed K location file scenarios ↔ file.Complete K location scenarios := by
  classical
  unfold LoadsAsNamed AudioSetConfigurations.Complete
  by_cases haccepted : file.Accepted
  · rw [or_iff_right haccepted.qos]
    simp only [loadContent_of_accepted haccepted, ← definedAt_iff]
    constructor
    · rintro ⟨_, _, ⟨hdefined, -, rfl⟩, hsettings⟩
      exact ⟨hdefined, (loadedOf_asNamed_iff hdefined scenarios).1 hsettings⟩
    · rintro ⟨hdefined, hsettled⟩
      exact ⟨_, _, ⟨hdefined, rfl, rfl⟩, (loadedOf_asNamed_iff hdefined scenarios).2 hsettled⟩
  · -- Nothing is loaded, and no name stands for anything.
    have hno : ∀ cfg ∈ file.configurations, ∀ codec, file.Codec cfg codec → file.qos_configurations = [] := by
      intro cfg hmem codec hcodec
      by_contra hqos
      exact haccepted ⟨hqos, List.ne_nil_of_mem hcodec.mem, List.ne_nil_of_mem hmem⟩
    have hnone : ∀ p ∈ contextNames K scenarios, ¬ ∃ cfg, file.Named p.2 cfg := by
      rintro p - ⟨cfg, hnamed⟩
      exact haccepted (hnamed.prop.2.accepted hnamed.mem)
    refine iff_of_true ?_ ?_
    · refine ⟨_, _, loadContent_of_not_accepted haccepted scenarios, ?_⟩
      rw [List.filter_eq_nil_iff.2 fun p hp => by simpa using hnone p hp]
      exact .nil
    · by_cases hqos : file.qos_configurations = []
      · exact .inl hqos
      · refine .inr ⟨fun cfg hmem codec hcodec => absurd (hno cfg hmem codec hcodec) hqos, fun _ _ name _ cfg hfinal => ?_⟩
        obtain ⟨codec, hcodec, -⟩ := hfinal.prop.2
        exact absurd (hno cfg hfinal.mem codec hcodec) hqos

/-- A codec with one sink, and a QoS that is not there. -/
def danglingFile : AudioSetConfigurations where
  configurations := [⟨"One-SinkSnkAse-Lc3_16_2", "LC3_16_2", ["QoS_Config_Server_Preferred"]⟩]
  codec_configurations := [⟨"LC3_16_2", [⟨1, ⟨6, 0, 0⟩, []⟩]⟩]
  qos_configurations := [⟨default_qos, 2, 5, 65⟩]

/-- Its QoS is dereferenced. -/
theorem loadContent_dangling :
    ¬ ∀ (K : AidlValues) (location : CodecLocation) (file : AudioSetConfigurations) (scenarios : AudioSetScenarios),
      LoadsAsNamed K location file scenarios := by
  intro h
  obtain ⟨ok, loaded, hload, -⟩ :=
    h ⟨fun _ => 0, 6, 0, 0, 0, 0, 0, 0, 0, 0, 0, 0, 0⟩ .host danglingFile ⟨[⟨"Media", ["One-SinkSnkAse-Lc3_16_2"]⟩]⟩
  cases hload

/-! ## Later calls -/

/-- A later call gives what the first one gave, loaded again or not. -/
theorem getLeAudioAseConfigurationSettings_again (K : AidlValues) (config_file : Option AudioSetConfigurations)
    (scenario_file : Option AudioSetScenarios) {loaded loaded' : Loaded}
    {settings : List (LeAudioAseConfigurationSetting DirectionRest)}
    (h : getLeAudioAseConfigurationSettings K config_file scenario_file loaded = some (settings, loaded')) :
    getLeAudioAseConfigurationSettings K config_file scenario_file loaded' = some (settings, loaded') := by
  simp only [getLeAudioAseConfigurationSettings, Option.bind_eq_bind, Option.bind_eq_some_iff] at h
  obtain ⟨_, hload, hresult⟩ := h
  cases hresult
  have hagain : loadAudioSetConfigurationProviderJson K config_file scenario_file loaded' = some loaded' := by
    unfold loadAudioSetConfigurationProviderJson at hload ⊢
    split at hload
    · -- It was loaded: it is again, from the same files, or is kept.
      split
      · exact hload
      · rfl
    · rename_i hkept
      cases hload
      rw [if_neg hkept]
  simp [getLeAudioAseConfigurationSettings, hagain]

end PhhTreble.LeAudio.AudioSetConfigurationProviderJson

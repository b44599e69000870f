import PhhTreble.Lib.Assoc
import PhhTreble.LeAudio.CodecsProvider
/-!
# The reference resolver

What the names of a settings file stand for, said of the file itself, and that
the codec capabilities are what this makes of its scenarios.
-/

namespace PhhTreble.LeAudio

open Assoc (FirstOf)
open Setting (LeAudioOffloadSetting AudioLocation)

/-! ## What a file defines -/

/-- The legal location, number of devices and number of channels of each. -/
inductive Legal : StrategyConfiguration → Prop
  | stereoTwoDevices : Legal ⟨.stereo, 2, 1⟩
  | stereoOneDevice : Legal ⟨.stereo, 1, 2⟩
  | stereoBroadcast : Legal ⟨.stereo, 0, 2⟩
  | mono : Legal ⟨.mono, 1, 1⟩

namespace Setting

/-- The element has a name and every field. -/
def Configuration.Defines (configuration : Configuration) (name : String) (value : LeAudio.Configuration) : Prop :=
  configuration = ⟨some name, some value.codecConfiguration, some value.strategyConfiguration⟩

def CodecConfiguration.Defines (c : CodecConfiguration) (name : String) (value : LeAudio.CodecConfiguration) : Prop :=
  c = ⟨some name, some value.codec, some value.samplingFrequency, some value.frameDurationUs, some value.octetsPerCodecFrame⟩

def StrategyConfiguration.Defines (s : StrategyConfiguration) (name : String) (value : LeAudio.StrategyConfiguration) : Prop :=
  s = ⟨some name, some value.audioLocation, some value.connectedDevice, some value.channelCount⟩ ∧ Legal value

end Setting

/-- The first element that defines the name gives it this value. -/
def Denotes {α β : Type} (Defines : α → String → β → Prop) (elements : List (List α)) (name : String) (value : β) : Prop :=
  ∃ element, Selection.First (fun element => ∃ value, Defines element name value) elements.flatten element ∧
    Defines element name value

/-- The name stands for this codec and this strategy. -/
structure Resolves (setting : LeAudioOffloadSetting) (name : String) (codec : CodecConfiguration)
    (strategy : StrategyConfiguration) : Prop where
  valid : name ≠ "invalid"
  configuration : ∃ configuration,
    Denotes Setting.Configuration.Defines setting.configurationList name configuration ∧
    Denotes Setting.CodecConfiguration.Defines setting.codecConfigurationList configuration.codecConfiguration codec ∧
    Denotes Setting.StrategyConfiguration.Defines setting.strategyConfigurationList configuration.strategyConfiguration strategy

/-- The codec types that a unicast capability supports, and a broadcast one. -/
def unicastCodecs : List Setting.CodecType := [.lc3, .aptxAdaptiveLe, .aptxAdaptiveLex]

def broadcastCodecs : List Setting.CodecType := [.lc3]

/-- There is a name, and it stands for a codec of one of the types. -/
def Resolvable (setting : LeAudioOffloadSetting) (codecs : List Setting.CodecType) (name : Option String) : Prop :=
  ∃ n ∈ name, ∃ codec strategy, Resolves setting n codec strategy ∧ codec.codec ∈ codecs

/-- The type is UNKNOWN exactly when the name does not resolve; otherwise the
capability is made of what it resolves to. -/
structure Agrees {C : Type} (setting : LeAudioOffloadSetting) (codecs : List Setting.CodecType) (codecType : C → Audio.CodecType)
    (made : CodecConfiguration → StrategyConfiguration → C) (name : Option String) (capability : C) : Prop where
  unknown_iff : codecType capability = .unknown ↔ ¬ Resolvable setting codecs name
  carries : ∀ n ∈ name, ∀ codec strategy, Resolves setting n codec strategy → codec.codec ∈ codecs →
    capability = made codec strategy

def unicastOf (codec : CodecConfiguration) (strategy : StrategyConfiguration) : UnicastCapability where
  codecType := getCodecType codec.codec
  supportedChannel := getAudioLocation strategy.audioLocation
  deviceCount := strategy.connectedDevice
  channelCountPerDevice := strategy.channelCount
  leAudioCodecCapabilities := some <|
    if codec.codec = .lc3 then .lc3Capabilities (composeCapability codec)
    else .aptxAdaptiveLeCapabilities (composeCapability codec)

def broadcastOf (codec : CodecConfiguration) (strategy : StrategyConfiguration) : BroadcastCapability where
  codecType := .lc3
  supportedChannel := getAudioLocation strategy.audioLocation
  channelCountPerStream := strategy.channelCount
  leAudioCodecCapabilities := [composeCapability codec]

/-- The entry has the capabilities of the scenario's three names. -/
structure Describes (setting : LeAudioOffloadSetting) (scenario : Setting.Scenario) (entry : LeAudioCodecCapabilitiesSetting) :
    Prop where
  encode : Agrees setting unicastCodecs (·.codecType) unicastOf scenario.encode entry.unicastEncodeCapability
  decode : Agrees setting unicastCodecs (·.codecType) unicastOf scenario.decode entry.unicastDecodeCapability
  broadcast : Agrees setting broadcastCodecs (·.codecType) broadcastOf scenario.broadcast entry.broadcastCapability

/-- The scenario has its two names, and one of the three resolves. -/
structure Offers (setting : LeAudioOffloadSetting) (scenario : Setting.Scenario) : Prop where
  encode : scenario.encode.isSome
  decode : scenario.decode.isSome
  resolvable : Resolvable setting unicastCodecs scenario.encode ∨ Resolvable setting unicastCodecs scenario.decode ∨
    Resolvable setting broadcastCodecs scenario.broadcast

/-- Every kind has an element that is valid. -/
structure HasEveryKind (setting : LeAudioOffloadSetting) : Prop where
  scenario : ∃ scenario ∈ setting.scenarioList.flatten, scenario.encode.isSome ∧ scenario.decode.isSome
  configuration : ∃ e ∈ setting.configurationList.flatten, ∃ name value, e.Defines name value
  codecConfiguration : ∃ e ∈ setting.codecConfigurationList.flatten, ∃ name value, e.Defines name value
  strategyConfiguration : ∃ e ∈ setting.strategyConfigurationList.flatten, ∃ name value, e.Defines name value

/-! ## Complete definitions -/

theorem isValidStrategy_iff (s : StrategyConfiguration) : Setting.isValidStrategy s = true ↔ Legal s := by
  constructor
  · intro h
    obtain ⟨location, devices, channels⟩ := s
    cases location with
    | unknown => cases h
    | mono =>
      simp only [Setting.isValidStrategy, Bool.and_eq_true, beq_iff_eq] at h
      obtain ⟨rfl, rfl⟩ := h
      exact .mono
    | stereo =>
      simp only [Setting.isValidStrategy, Bool.or_eq_true, Bool.and_eq_true, beq_iff_eq] at h
      rcases h with (⟨rfl, rfl⟩ | ⟨rfl, rfl⟩) | ⟨rfl, rfl⟩
      · exact .stereoTwoDevices
      · exact .stereoOneDevice
      · exact .stereoBroadcast
  · intro h
    cases h <;> rfl

namespace Setting

theorem Configuration.complete_iff (configuration : Configuration) (name : String) (value : LeAudio.Configuration) :
    configuration.complete = some (name, value) ↔ configuration.Defines name value := by
  obtain ⟨n, c, s⟩ := configuration
  obtain ⟨codecConfiguration, strategyConfiguration⟩ := value
  simp [complete, Defines, Option.bind_eq_some_iff]

theorem CodecConfiguration.complete_iff (c : CodecConfiguration) (name : String) (value : LeAudio.CodecConfiguration) :
    c.complete = some (name, value) ↔ c.Defines name value := by
  obtain ⟨n, codec, freq, duration, octets⟩ := c
  obtain ⟨codec', freq', duration', octets'⟩ := value
  simp [complete, Defines, Option.bind_eq_some_iff]

theorem StrategyConfiguration.complete_iff (s : StrategyConfiguration) (name : String) (value : LeAudio.StrategyConfiguration) :
    s.complete = some (name, value) ↔ s.Defines name value := by
  obtain ⟨n, location, devices, channels⟩ := s
  obtain ⟨location', devices', channels'⟩ := value
  simp only [complete, Defines, Option.bind_eq_bind, Option.bind_eq_some_iff, Option.ite_none_right_eq_some, ← isValidStrategy_iff,
    StrategyConfiguration.mk.injEq]
  constructor
  · rintro ⟨_, rfl, _, rfl, _, rfl, _, rfl, hvalid, h⟩
    cases h
    exact ⟨⟨rfl, rfl, rfl, rfl⟩, hvalid⟩
  · rintro ⟨⟨rfl, rfl, rfl, rfl⟩, hvalid⟩
    exact ⟨_, rfl, _, rfl, _, rfl, _, rfl, hvalid, rfl⟩

end Setting

/-! ## The maps -/

theorem insert_eq {α : Type} : insert (α := α) = Assoc.insertNew := rfl

section
variable {α β : Type} {complete : α → Option (String × β)} {Defines : α → String → β → Prop}

theorem lookup_eq_some_iff (h : ∀ e name value, complete e = some (name, value) ↔ Defines e name value)
    (elements : List (List α)) (name : String) (value : β) :
    ((elements.flatten.filterMap complete).foldl insert []).lookup name = some value ↔ Denotes Defines elements name value := by
  rw [insert_eq, Assoc.lookup_foldl_insertNew, List.lookup_nil, Option.none_or, Assoc.lookup_filterMap_eq_some_iff]
  simp only [FirstOf, Denotes, h]

theorem isEmpty_eq_false_iff (h : ∀ e name value, complete e = some (name, value) ↔ Defines e name value)
    (elements : List (List α)) :
    ((elements.flatten.filterMap complete).foldl insert []).isEmpty = false ↔
      ∃ e ∈ elements.flatten, ∃ name value, Defines e name value := by
  rw [insert_eq, List.isEmpty_eq_false_iff, Ne, Assoc.foldl_insertNew_eq_nil_iff, List.filterMap_eq_nil_iff]
  simp only [true_and, not_forall, exists_prop, ← h, Option.eq_none_iff_forall_ne_some, Prod.forall, Classical.not_not]

end

namespace Definitions
variable {setting : LeAudioOffloadSetting}

/-- The definitions of the file without an early return. -/
def full (setting : LeAudioOffloadSetting) : Definitions where
  supported_scenarios_ := getScenarios setting
  configuration_map_ := updateConfigurationsToMap [] setting
  codec_configuration_map_ := updateCodecConfigurationsToMap [] setting
  strategy_configuration_map_ := updateStrategyConfigurationsToMap [] setting

/-- A load that returns early is incomplete, and so is the file. -/
theorem load_cases (setting : LeAudioOffloadSetting) :
    load setting = full setting ∨ ((load setting).isIncomplete = true ∧ (full setting).isIncomplete = true) := by
  by_cases h1 : (getScenarios setting).isEmpty
  · exact .inr (by simp [load, empty, isIncomplete, full, h1])
  by_cases h2 : (updateConfigurationsToMap [] setting).isEmpty
  · exact .inr (by simp [load, empty, isIncomplete, full, h1, h2])
  by_cases h3 : (updateCodecConfigurationsToMap [] setting).isEmpty
  · exact .inr (by simp [load, empty, isIncomplete, full, h1, h2, h3])
  · exact .inl (by simp [load, empty, full, h1, h2, h3])

theorem isIncomplete_load (setting : LeAudioOffloadSetting) : (load setting).isIncomplete = (full setting).isIncomplete := by
  rcases load_cases setting with h | ⟨h, h'⟩
  · rw [h]
  · rw [h, h']

theorem load_eq_full (h : (full setting).isIncomplete = false) : load setting = full setting := by
  rcases load_cases setting with hl | ⟨-, h'⟩
  · exact hl
  · rw [h] at h'
    cases h'

theorem getScenarios_isEmpty_iff (setting : LeAudioOffloadSetting) :
    (getScenarios setting).isEmpty = false ↔
      ∃ scenario ∈ setting.scenarioList.flatten, scenario.encode.isSome ∧ scenario.decode.isSome := by
  rw [getScenarios, List.isEmpty_eq_false_iff, Ne, List.filterMap_eq_nil_iff]
  simp only [not_forall, exists_prop]
  refine exists_congr fun scenario => and_congr_right fun _ => ?_
  obtain ⟨encode, decode, broadcast⟩ := scenario
  cases encode <;> cases decode <;> simp [Setting.Scenario.complete]

theorem isIncomplete_full_iff (setting : LeAudioOffloadSetting) :
    (full setting).isIncomplete = false ↔ HasEveryKind setting := by
  simp only [isIncomplete, Bool.or_eq_false_iff, full]
  rw [getScenarios_isEmpty_iff, updateConfigurationsToMap, isEmpty_eq_false_iff Setting.Configuration.complete_iff,
    updateCodecConfigurationsToMap, isEmpty_eq_false_iff Setting.CodecConfiguration.complete_iff,
    updateStrategyConfigurationsToMap, isEmpty_eq_false_iff Setting.StrategyConfiguration.complete_iff]
  constructor
  · rintro ⟨⟨⟨h1, h2⟩, h3⟩, h4⟩
    exact ⟨h1, h2, h3, h4⟩
  · rintro ⟨h1, h2, h3, h4⟩
    exact ⟨⟨⟨h1, h2⟩, h3⟩, h4⟩

/-- A name is looked up in the maps as the file resolves it. -/
theorem lookupName_full_iff (setting : LeAudioOffloadSetting) (name : String) (codec : CodecConfiguration)
    (strategy : StrategyConfiguration) :
    (full setting).lookupName name = some (codec, strategy) ↔ Resolves setting name codec strategy := by
  unfold lookupName
  split
  · rename_i hname
    exact iff_of_false (by simp) fun h => h.valid hname
  · rename_i hname
    simp only [resolve, full, updateConfigurationsToMap, updateCodecConfigurationsToMap, updateStrategyConfigurationsToMap,
      Option.bind_eq_bind, Option.bind_eq_some_iff, lookup_eq_some_iff Setting.Configuration.complete_iff,
      lookup_eq_some_iff Setting.CodecConfiguration.complete_iff, lookup_eq_some_iff Setting.StrategyConfiguration.complete_iff]
    constructor
    · rintro ⟨configuration, hconfiguration, _, hcodec, _, hstrategy, h⟩
      cases h
      exact ⟨hname, configuration, hconfiguration, hcodec, hstrategy⟩
    · rintro ⟨-, configuration, hconfiguration, hcodec, hstrategy⟩
      exact ⟨configuration, hconfiguration, _, hcodec, _, hstrategy, rfl⟩

end Definitions

/-! ## Capabilities -/

section
variable {setting : LeAudioOffloadSetting}

theorem resolvable_some_iff (codecs : List Setting.CodecType) (name : String) :
    Resolvable setting codecs (some name) ↔ ∃ codec strategy, Resolves setting name codec strategy ∧ codec.codec ∈ codecs := by
  simp [Resolvable]

theorem not_resolvable_none (codecs : List Setting.CodecType) : ¬ Resolvable setting codecs none := by
  simp [Resolvable]

/-- What a capability is made of decides whether it agrees. -/
theorem agrees_of_lookupName {C : Type} {codecs : List Setting.CodecType} {codecType : C → Audio.CodecType}
    {made : CodecConfiguration → StrategyConfiguration → C} {name : String} {capability : C}
    (hnone : (Definitions.full setting).lookupName name = none → codecType capability = .unknown)
    (hsome : ∀ codec strategy, (Definitions.full setting).lookupName name = some (codec, strategy) →
      if codec.codec ∈ codecs then codecType capability ≠ .unknown ∧ capability = made codec strategy
      else codecType capability = .unknown) :
    Agrees setting codecs codecType made (some name) capability := by
  cases hl : (Definitions.full setting).lookupName name with
  | none =>
    have hno : ∀ codec strategy, ¬ Resolves setting name codec strategy := by
      intro codec strategy h
      rw [← Definitions.lookupName_full_iff, hl] at h
      cases h
    refine ⟨iff_of_true (hnone hl) ?_, ?_⟩
    · rw [resolvable_some_iff]
      rintro ⟨codec, strategy, h, -⟩
      exact hno codec strategy h
    · rintro n ⟨⟩ codec strategy h
      exact absurd h (hno codec strategy)
  | some p =>
    obtain ⟨codec, strategy⟩ := p
    have h := hsome codec strategy hl
    have honly : ∀ codec' strategy', Resolves setting name codec' strategy' ↔ codec' = codec ∧ strategy' = strategy := by
      intro codec' strategy'
      rw [← Definitions.lookupName_full_iff, hl]
      simp [eq_comm]
    constructor
    · rw [resolvable_some_iff]
      simp only [honly]
      split at h
      · rename_i hcodec
        exact iff_of_false h.1 fun hn => hn ⟨codec, strategy, ⟨rfl, rfl⟩, hcodec⟩
      · rename_i hcodec
        refine iff_of_true h ?_
        rintro ⟨_, _, ⟨rfl, rfl⟩, hmem⟩
        exact hcodec hmem
    · rintro n ⟨⟩ codec' strategy' hr hmem
      obtain ⟨rfl, rfl⟩ := (honly codec' strategy').1 hr
      rw [if_pos hmem] at h
      exact h.2

theorem getUnicastCapability_agrees (setting : LeAudioOffloadSetting) (name : String) :
    Agrees setting unicastCodecs (·.codecType) unicastOf (some name) ((Definitions.full setting).getUnicastCapability name) := by
  apply agrees_of_lookupName
  · intro hl
    simp [Definitions.getUnicastCapability, hl, UnicastCapability.unknown]
  · intro codec strategy hl
    simp only [Definitions.getUnicastCapability, hl]
    cases hc : codec.codec <;> simp [unicastCodecs, getCodecType, unicastOf, hc, UnicastCapability.unknown]

theorem getBroadcastCapability_agrees (setting : LeAudioOffloadSetting) (name : String) :
    Agrees setting broadcastCodecs (·.codecType) broadcastOf (some name)
      ((Definitions.full setting).getBroadcastCapability name) := by
  apply agrees_of_lookupName
  · intro hl
    simp [Definitions.getBroadcastCapability, hl, BroadcastCapability.unknown]
  · intro codec strategy hl
    simp only [Definitions.getBroadcastCapability, hl]
    cases hc : codec.codec <;> simp [broadcastCodecs, getCodecType, broadcastOf, BroadcastCapability.unknown]

/-! ## Scenarios -/

/-- The entry that a scenario with both names gets, if it gets one. -/
def entryOf (d : Definitions) (scenario : Scenario) : Option LeAudioCodecCapabilitiesSetting :=
  let unicast_encode_capability := d.getUnicastCapability scenario.encode
  let unicast_decode_capability := d.getUnicastCapability scenario.decode
  let broadcast_capability := (scenario.broadcast.map d.getBroadcastCapability).getD .unknown
  if unicast_encode_capability.codecType = .unknown ∧ unicast_decode_capability.codecType = .unknown ∧
      broadcast_capability.codecType = .unknown then none
  else some ⟨unicast_encode_capability, unicast_decode_capability, broadcast_capability⟩

theorem composeLeAudioCodecCapabilities_full (setting : LeAudioOffloadSetting) :
    (Definitions.full setting).composeLeAudioCodecCapabilities =
      setting.scenarioList.flatten.filterMap fun scenario => scenario.complete.bind (entryOf (.full setting)) := by
  change List.filterMap _ (List.filterMap _ _) = _
  rw [List.filterMap_filterMap]
  refine List.filterMap_congr fun scenario _ => congrArg (Option.bind _) (funext fun scenario => ?_)
  unfold entryOf
  cases scenario.broadcast <;> rfl

theorem broadcast_agrees (setting : LeAudioOffloadSetting) (broadcast : Option String) :
    Agrees setting broadcastCodecs (·.codecType) broadcastOf broadcast
      ((broadcast.map (Definitions.full setting).getBroadcastCapability).getD .unknown) := by
  cases broadcast with
  | none => exact ⟨iff_of_true rfl (not_resolvable_none _), fun n hn => absurd hn (by simp)⟩
  | some name => exact getBroadcastCapability_agrees setting name

theorem entryOf_eq_some {scenario : Setting.Scenario} {entry : LeAudioCodecCapabilitiesSetting}
    (h : scenario.complete.bind (entryOf (.full setting)) = some entry) : Describes setting scenario entry := by
  obtain ⟨encode, decode, broadcast⟩ := scenario
  cases encode with
  | none => cases h
  | some encode =>
    cases decode with
    | none => cases h
    | some decode =>
      change (if _ then none else some _) = some entry at h
      split at h
      · cases h
      · cases h
        exact ⟨getUnicastCapability_agrees setting encode, getUnicastCapability_agrees setting decode,
          broadcast_agrees setting broadcast⟩

theorem entryOf_isSome_iff (scenario : Setting.Scenario) :
    (scenario.complete.bind (entryOf (.full setting))).isSome = true ↔ Offers setting scenario := by
  obtain ⟨encode, decode, broadcast⟩ := scenario
  cases encode with
  | none => exact iff_of_false (by simp [Setting.Scenario.complete]) fun h => by simpa using h.encode
  | some encode =>
    cases decode with
    | none => exact iff_of_false (by simp [Setting.Scenario.complete]) fun h => by simpa using h.decode
    | some decode =>
      change (entryOf (.full setting) ⟨encode, decode, broadcast⟩).isSome = true ↔ _
      have hiff : (entryOf (.full setting) ⟨encode, decode, broadcast⟩).isSome = true ↔
          ¬ (((Definitions.full setting).getUnicastCapability encode).codecType = .unknown ∧
            ((Definitions.full setting).getUnicastCapability decode).codecType = .unknown ∧
            ((broadcast.map (Definitions.full setting).getBroadcastCapability).getD .unknown).codecType = .unknown) := by
        simp only [entryOf]
        split <;> simp_all
      rw [hiff, (getUnicastCapability_agrees setting encode).unknown_iff, (getUnicastCapability_agrees setting decode).unknown_iff,
        (broadcast_agrees setting broadcast).unknown_iff]
      constructor
      · intro h
        refine ⟨rfl, rfl, ?_⟩
        by_contra hno
        simp only [not_or] at hno
        exact h hno
      · rintro ⟨-, -, h⟩ ⟨h1, h2, h3⟩
        simp [h1, h2, h3] at h

open Classical in
theorem composeLeAudioCodecCapabilities_describes (setting : LeAudioOffloadSetting) :
    List.Forall₂ (Describes setting) (setting.scenarioList.flatten.filter (Offers setting))
      (Definitions.full setting).composeLeAudioCodecCapabilities := by
  rw [composeLeAudioCodecCapabilities_full]
  refine (Selection.forall₂_filter_filterMap_iff fun scenario _ h => ?_).2 fun scenario _ => ⟨?_, fun entry h => ?_⟩
  · exact (entryOf_isSome_iff scenario).2 (of_decide_eq_true h)
  · rw [Bool.eq_iff_iff, decide_eq_true_iff, entryOf_isSome_iff]
  · exact entryOf_eq_some h

/-- Where a kind has no valid element, no scenario offers anything. -/
theorem Offers.hasEveryKind {scenario : Setting.Scenario} (hmem : scenario ∈ setting.scenarioList.flatten)
    (h : Offers setting scenario) : HasEveryKind setting := by
  have hkind : ∀ codecs name, Resolvable setting codecs name → HasEveryKind setting := by
    rintro codecs name ⟨n, -, codec, strategy, ⟨-, configuration, hconfiguration, hcodec, hstrategy⟩, -⟩
    have hvalid : ∀ {α β : Type} {Defines : α → String → β → Prop} {elements : List (List α)} {name : String} {value : β},
        Denotes Defines elements name value → ∃ e ∈ elements.flatten, ∃ name value, Defines e name value := by
      rintro α β Defines elements name value ⟨element, ⟨pre, post, hl, -, -⟩, hdefines⟩
      exact ⟨element, by rw [hl]; simp, name, value, hdefines⟩
    exact ⟨⟨scenario, hmem, h.encode, h.decode⟩, hvalid hconfiguration, hvalid hcodec, hvalid hstrategy⟩
  rcases h.resolvable with hr | hr | hr
  · exact hkind _ _ hr
  · exact hkind _ _ hr
  · exact hkind _ _ hr

end

theorem getLeAudioCodecCapabilities_init (setting : LeAudioOffloadSetting) :
    (CodecsProvider.init.getLeAudioCodecCapabilities (some setting)).1 =
      if (Definitions.load setting).isIncomplete then [] else (Definitions.load setting).composeLeAudioCodecCapabilities := by
  unfold CodecsProvider.getLeAudioCodecCapabilities
  by_cases h : (Definitions.load setting).isIncomplete = true
  · simp [CodecsProvider.init, CodecsProvider.loadConfigurationToMap, h]
  · simp [CodecsProvider.init, CodecsProvider.loadConfigurationToMap, h]

/-- The capabilities of a first query are those of the scenarios that have both
names and something to offer, in the order of the file, each with what its
names resolve to. -/
theorem getLeAudioCodecCapabilities_resolves (setting : LeAudioOffloadSetting) :
    let capabilities := (CodecsProvider.init.getLeAudioCodecCapabilities (some setting)).1
    (open Classical in
      List.Forall₂ (Describes setting) (setting.scenarioList.flatten.filter (Offers setting)) capabilities) ∧
    (¬ HasEveryKind setting → capabilities = []) := by
  classical
  intro capabilities
  by_cases hkind : HasEveryKind setting
  · have hfull := (Definitions.isIncomplete_full_iff setting).2 hkind
    have hcapabilities : capabilities = (Definitions.full setting).composeLeAudioCodecCapabilities := by
      simp only [capabilities, getLeAudioCodecCapabilities_init, Definitions.load_eq_full hfull, hfull, Bool.false_eq_true,
        if_false]
    rw [hcapabilities]
    exact ⟨composeLeAudioCodecCapabilities_describes setting, fun h => absurd hkind h⟩
  · have hload : (Definitions.load setting).isIncomplete = true := by
      rw [Definitions.isIncomplete_load, ← Bool.not_eq_false, Definitions.isIncomplete_full_iff]
      exact hkind
    have hcapabilities : capabilities = [] := by simp only [capabilities, getLeAudioCodecCapabilities_init, hload, if_true]
    have hnone : setting.scenarioList.flatten.filter (Offers setting) = [] := by
      rw [List.filter_eq_nil_iff]
      intro scenario hmem hoffers
      exact hkind ((decide_eq_true_iff.1 hoffers).hasEveryKind hmem)
    rw [hcapabilities, hnone]
    exact ⟨.nil, fun _ => rfl⟩

end PhhTreble.LeAudio

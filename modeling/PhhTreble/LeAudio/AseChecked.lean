import PhhTreble.LeAudio.Ase
import PhhTreble.Lib.Throwing
/-!
# The optional reads of the ASE selection

The functions of `LeAudioOffloadAudioProvider` that read optional values, with
every `value()` as the source has it: on an absent optional it throws.
-/

namespace PhhTreble.LeAudio

open A2dp (CodecId)
open Throwing

/-- `std::bad_optional_access`. -/
inductive BadOptionalAccess where
  | thrown
deriving DecidableEq, Repr

abbrev Checked := Except BadOptionalAccess

/-- `value()`. -/
def value {α : Type} : Option α → Checked α
  | some a => .ok a
  | none => .error .thrown

@[simp] theorem value_some {α : Type} (a : α) : value (some a) = .ok a := by rw [value]

namespace Checked

def isCapabilitiesMatchedContext (setting_context : BitVec 32) (capabilities : LeAudioDeviceCapabilities) : Checked Bool := do
  if !capabilities.metadata.isSome then return true
  (← value capabilities.metadata).anyM fun metadata => do
    if !metadata.isSome then return false
    match ← value metadata with
    | .preferredAudioContexts context => return setting_context &&& context != 0
    | .other => return false

variable (K : AidlConstants) (p : LeAudioOffloadAudioProvider) {R : Type}

def isMatchedAseConfiguration (setting_cfg requirement_cfg : LeAudioAseConfiguration) : Checked Bool := do
  if requirement_cfg.codecId.isSome then
    if !setting_cfg.codecId.isSome then return false
    if !p.isMatchedValidCodec K (← value setting_cfg.codecId) (← value requirement_cfg.codecId) then return false
  if setting_cfg.targetLatency != requirement_cfg.targetLatency then return false
  return requirement_cfg.codecConfiguration.all fun requirement =>
    cfgTagMap setting_cfg.codecConfiguration requirement.getTag == some requirement

def filterCapabilitiesAseDirectionConfiguration (direction_configurations : List (Option (AseDirectionConfiguration R)))
    (capabilities : LeAudioDeviceCapabilities) : Checked (List (Option (AseDirectionConfiguration R))) :=
  direction_configurations.filterMapM fun direction_configuration => do
    if !direction_configuration.isSome then return none
    if !(← value direction_configuration).aseConfiguration.codecId.isSome then return none
    if !p.isMatchedValidCodec K (← value (← value direction_configuration).aseConfiguration.codecId)
      capabilities.codecId then return none
    if !isCapabilitiesMatchedCodecConfiguration K (← value direction_configuration).aseConfiguration.codecConfiguration
      capabilities.codecSpecificCapabilities then return none
    return some direction_configuration

def filterRequirementAseDirectionConfiguration (direction_configurations : List (Option (AseDirectionConfiguration R)))
    (requirements : Option (List (Option AseDirectionRequirement))) :
    Checked (List (Option (AseDirectionConfiguration R))) :=
  direction_configurations.filterMapM fun direction_configuration => do
    if !requirements.isSome then return some direction_configuration
    if !direction_configuration.isSome then return none
    let valid ← (← value requirements).anyM fun requirement => do
      if !requirement.isSome then return false
      isMatchedAseConfiguration K p (← value direction_configuration).aseConfiguration
        (← value requirement).aseConfiguration
    if valid then return some direction_configuration
    return none

/-! ## The two passes -/

def getCapabilitiesMatchedAseConfigurationSettings (setting : LeAudioAseConfigurationSetting R)
    (capabilities : LeAudioDeviceCapabilities) (direction : Direction) :
    Checked (Option (LeAudioAseConfigurationSetting R)) := do
  if !(← isCapabilitiesMatchedContext setting.audioContext capabilities) then return none
  if !(setting.direction direction).isSome then return none
  let valid ← filterCapabilitiesAseDirectionConfiguration K p (← value (setting.direction direction)) capabilities
  if valid.isEmpty then return none
  return some (setting.filtered valid direction)

def getRequirementMatchedAseConfigurationSettings (setting : LeAudioAseConfigurationSetting R)
    (requirement : LeAudioConfigurationRequirement) : Checked (Option (LeAudioAseConfigurationSetting R)) := do
  if setting.audioContext != requirement.audioContext then return none
  let direction := if setting.sinkAseConfiguration.isSome then Direction.sink else .source
  let direction_configuration ← value (setting.direction direction)
  let valid ← filterRequirementAseDirectionConfiguration K p direction_configuration (requirement.direction direction)
  if valid.isEmpty then return none
  return some (setting.filtered valid direction)

def getLeAudioAseConfiguration (ase_configuration_settings : List (LeAudioAseConfigurationSetting R))
    (in_remoteSinkAudioCapabilities in_remoteSourceAudioCapabilities : Option (List (Option LeAudioDeviceCapabilities)))
    (in_requirements : List LeAudioConfigurationRequirement) : Checked (List (LeAudioAseConfigurationSetting R)) := do
  let direction := if in_remoteSinkAudioCapabilities.isSome then Direction.sink else .source
  let in_remoteAudioCapabilities :=
    if in_remoteSinkAudioCapabilities.isSome then in_remoteSinkAudioCapabilities else in_remoteSourceAudioCapabilities
  let capability_matched_ase_configuration_settings ← ase_configuration_settings.flatMapM fun setting => do
    (← value in_remoteAudioCapabilities).filterMapM fun capability => do
      if !capability.isSome then return none
      getCapabilitiesMatchedAseConfigurationSettings K p setting (← value capability) direction
  capability_matched_ase_configuration_settings.flatMapM fun setting =>
    in_requirements.filterMapM fun requirement => getRequirementMatchedAseConfigurationSettings K p setting requirement

/-! ## Reads that are guarded -/

theorem isCapabilitiesMatchedContext_ok (context : BitVec 32) (capabilities : LeAudioDeviceCapabilities) :
    isCapabilitiesMatchedContext context capabilities = .ok (LeAudio.isCapabilitiesMatchedContext context capabilities) := by
  unfold isCapabilitiesMatchedContext LeAudio.isCapabilitiesMatchedContext
  cases capabilities.metadata with
  | none => rfl
  | some metadata =>
    apply anyM_ok
    intro m _
    cases m with
    | none => rfl
    | some m => cases m <;> rfl

theorem isMatchedAseConfiguration_ok (cfg requirement : LeAudioAseConfiguration) :
    isMatchedAseConfiguration K p cfg requirement = .ok (p.isMatchedAseConfiguration K cfg requirement) := by
  unfold isMatchedAseConfiguration LeAudioOffloadAudioProvider.isMatchedAseConfiguration
  rcases requirement.codecId with _ | req_codec
  · by_cases hlatency : cfg.targetLatency = requirement.targetLatency
    · simp [hlatency, pure, Except.pure]
    · simp [hlatency, pure, Except.pure]
  rcases cfg.codecId with _ | cfg_codec
  · simp [pure, Except.pure]
  cases hcodec : p.isMatchedValidCodec K cfg_codec req_codec with
  | false => simp [hcodec, bind, Except.bind, pure, Except.pure]
  | true =>
    by_cases hlatency : cfg.targetLatency = requirement.targetLatency
    · simp [hcodec, hlatency, bind, Except.bind, pure, Except.pure]
    · simp [hcodec, hlatency, bind, Except.bind, pure, Except.pure]

theorem filterCapabilities_ok (configurations : List (Option (AseDirectionConfiguration R)))
    (capabilities : LeAudioDeviceCapabilities) :
    filterCapabilitiesAseDirectionConfiguration K p configurations capabilities =
      .ok (p.filterCapabilitiesAseDirectionConfiguration K configurations capabilities) := by
  unfold filterCapabilitiesAseDirectionConfiguration LeAudioOffloadAudioProvider.filterCapabilitiesAseDirectionConfiguration
  rw [← List.filterMap_eq_filter]
  apply filterMapM_ok
  rintro (_ | ⟨⟨latency, _ | codecId, codecConfiguration⟩, rest⟩) -
  · rfl
  · rfl
  · cases hcodec : p.isMatchedValidCodec K codecId capabilities.codecId with
    | false => simp [hcodec, bind, Except.bind, pure, Except.pure, Option.guard]
    | true =>
      cases hcfg : isCapabilitiesMatchedCodecConfiguration K codecConfiguration capabilities.codecSpecificCapabilities with
      | false => simp [hcodec, hcfg, bind, Except.bind, pure, Except.pure, Option.guard]
      | true => simp [hcodec, hcfg, bind, Except.bind, pure, Except.pure, Option.guard]

/-- With requirements, a configuration is kept that meets one of them. -/
theorem filterRequirement_some (configurations : List (Option (AseDirectionConfiguration R)))
    (requirements : List (Option AseDirectionRequirement)) :
    p.filterRequirementAseDirectionConfiguration K configurations (some requirements) =
      configurations.filter fun o => o.any fun configuration => requirements.any fun requirement =>
        requirement.any fun requirement =>
          p.isMatchedAseConfiguration K configuration.aseConfiguration requirement.aseConfiguration := by
  apply List.filter_congr
  rintro (_ | configuration) -
  · rfl
  · refine congrArg (List.any requirements) ?_
    funext requirement
    cases requirement <;> rfl

theorem filterRequirement_ok (configurations : List (Option (AseDirectionConfiguration R)))
    (requirements : Option (List (Option AseDirectionRequirement))) :
    filterRequirementAseDirectionConfiguration K p configurations requirements =
      .ok (p.filterRequirementAseDirectionConfiguration K configurations requirements) := by
  rcases requirements with _ | requirements
  · unfold filterRequirementAseDirectionConfiguration LeAudioOffloadAudioProvider.filterRequirementAseDirectionConfiguration
    rw [← List.filterMap_eq_filter]
    apply filterMapM_ok
    intro configuration _
    rfl
  rw [filterRequirement_some, ← List.filterMap_eq_filter]
  apply filterMapM_ok
  rintro (_ | configuration) -
  · rfl
  have hany := anyM_ok (f := fun requirement : Option AseDirectionRequirement => do
      if !requirement.isSome then return false
      isMatchedAseConfiguration K p configuration.aseConfiguration (← value requirement).aseConfiguration)
    (g := fun requirement => requirement.any fun requirement =>
      p.isMatchedAseConfiguration K configuration.aseConfiguration requirement.aseConfiguration)
    (l := requirements) (by
      rintro (_ | requirement) -
      · rfl
      · exact isMatchedAseConfiguration_ok K p configuration.aseConfiguration requirement.aseConfiguration)
  simp only [Option.isSome_some, value_some, Bool.not_true, bind, Except.bind] at hany ⊢
  rw [hany]
  simp only [Option.guard, Option.any_some]
  exact (apply_ite Except.ok _ _ _).symm

/-! ## The two passes -/

theorem getCapabilitiesMatched_ok (setting : LeAudioAseConfigurationSetting R) (capabilities : LeAudioDeviceCapabilities)
    (direction : Direction) :
    getCapabilitiesMatchedAseConfigurationSettings K p setting capabilities direction =
      .ok (p.getCapabilitiesMatchedAseConfigurationSettings K setting capabilities direction) := by
  unfold getCapabilitiesMatchedAseConfigurationSettings
    LeAudioOffloadAudioProvider.getCapabilitiesMatchedAseConfigurationSettings
  rw [isCapabilitiesMatchedContext_ok]
  cases LeAudio.isCapabilitiesMatchedContext setting.audioContext capabilities with
  | false => rfl
  | true =>
    rcases setting.direction direction with _ | configurations
    · rfl
    simp only [Option.isSome_some, value_some, Bool.not_true, bind, Except.bind, filterCapabilities_ok]
    by_cases hempty : p.filterCapabilitiesAseDirectionConfiguration K configurations capabilities = []
    · simp [hempty, pure, Except.pure]
    · simp [hempty, pure, Except.pure]

/-- The first pass leaves the list that the second one reads. -/
theorem getRequirementMatched_ok (setting : LeAudioAseConfigurationSetting R) (requirement : LeAudioConfigurationRequirement)
    (h : setting.sinkAseConfiguration.isSome ∨ setting.sourceAseConfiguration.isSome) :
    getRequirementMatchedAseConfigurationSettings K p setting requirement =
      .ok (p.getRequirementMatchedAseConfigurationSettings K setting requirement) := by
  unfold getRequirementMatchedAseConfigurationSettings
    LeAudioOffloadAudioProvider.getRequirementMatchedAseConfigurationSettings
  have hlist : ∃ configurations,
      setting.direction (if setting.sinkAseConfiguration.isSome then Direction.sink else .source) = some configurations := by
    cases hsink : setting.sinkAseConfiguration with
    | some configurations => exact ⟨configurations, hsink⟩
    | none => exact Option.isSome_iff_exists.mp (h.resolve_left (by simp [hsink]))
  obtain ⟨configurations, hlist⟩ := hlist
  by_cases hcontext : setting.audioContext = requirement.audioContext
  · simp only [hcontext, bne_self_eq_false, hlist, value_some, bind, Except.bind, filterRequirement_ok]
    generalize p.filterRequirementAseDirectionConfiguration K configurations _ = valid
    cases valid <;> rfl
  · simp [hcontext, pure, Except.pure]

/-- The list chosen by the first pass is there in what it leaves. -/
theorem isSome_of_filtered (setting : LeAudioAseConfigurationSetting R) (valid : List (Option (AseDirectionConfiguration R)))
    (direction : Direction) :
    (setting.filtered valid direction).sinkAseConfiguration.isSome ∨
      (setting.filtered valid direction).sourceAseConfiguration.isSome := by
  cases direction with
  | sink => exact .inl rfl
  | source => exact .inr rfl

theorem isSome_of_capabilitiesMatched {setting left : LeAudioAseConfigurationSetting R}
    {capabilities : LeAudioDeviceCapabilities} {direction : Direction}
    (h : p.getCapabilitiesMatchedAseConfigurationSettings K setting capabilities direction = some left) :
    left.sinkAseConfiguration.isSome ∨ left.sourceAseConfiguration.isSome := by
  unfold LeAudioOffloadAudioProvider.getCapabilitiesMatchedAseConfigurationSettings at h
  split at h
  · cases h
  split at h
  · cases h
  simp only at h
  split at h
  · cases h
  cases h
  apply isSome_of_filtered

/-! ## The whole call -/

theorem firstPass_ok (setting : LeAudioAseConfigurationSetting R) (capabilities : List (Option LeAudioDeviceCapabilities))
    (direction : Direction) :
    (do (← value (some capabilities)).filterMapM fun capability => do
      if !capability.isSome then return none
      getCapabilitiesMatchedAseConfigurationSettings K p setting (← value capability) direction : Checked _) =
      .ok (capabilities.filterMap fun capability => capability.bind fun capabilities =>
        p.getCapabilitiesMatchedAseConfigurationSettings K setting capabilities direction) := by
  apply filterMapM_ok
  rintro (_ | capability) -
  · rfl
  · exact getCapabilitiesMatched_ok K p setting capability direction

/-- With a list of capabilities, no optional that is read is absent. -/
theorem getLeAudioAseConfiguration_ok (settings : List (LeAudioAseConfigurationSetting R))
    (sink source : Option (List (Option LeAudioDeviceCapabilities))) (requirements : List LeAudioConfigurationRequirement)
    (h : sink.isSome ∨ source.isSome) :
    ∃ result, getLeAudioAseConfiguration K p settings sink source requirements = .ok result ∧
      p.getLeAudioAseConfiguration K settings sink source requirements = some result := by
  obtain ⟨capabilities, hgiven⟩ : ∃ capabilities, (if sink.isSome then sink else source) = some capabilities := by
    cases sink with
    | some capabilities => exact ⟨capabilities, rfl⟩
    | none => exact Option.isSome_iff_exists.mp (h.resolve_left (by simp))
  refine ⟨_, ?_, p.getLeAudioAseConfiguration_of_given K settings requirements hgiven⟩
  rw [getLeAudioAseConfiguration, hgiven]
  generalize (if sink.isSome then Direction.sink else Direction.source) = direction
  have hfirst := flatMapM_ok (l := settings) fun setting _ => firstPass_ok K p setting capabilities direction
  refine (congrArg (Except.bind · _) hfirst).trans (flatMapM_ok fun left hleft => filterMapM_ok fun requirement _ => ?_)
  apply getRequirementMatched_ok
  simp only [List.mem_flatMap, List.mem_filterMap, Option.bind_eq_some_iff] at hleft
  obtain ⟨setting, -, -, -, capability, -, hleft⟩ := hleft
  exact isSome_of_capabilitiesMatched K p hleft

/-- Without one, the first setting already throws. -/
theorem getLeAudioAseConfiguration_absent (setting : LeAudioAseConfigurationSetting R)
    (settings : List (LeAudioAseConfigurationSetting R)) (requirements : List LeAudioConfigurationRequirement) :
    getLeAudioAseConfiguration K p (setting :: settings) none none requirements = .error .thrown := by
  rw [getLeAudioAseConfiguration, flatMapM_error]
  · rfl
  · rfl

/-- The selection has no result exactly where a read throws. -/
theorem toOption_getLeAudioAseConfiguration (settings : List (LeAudioAseConfigurationSetting R))
    (sink source : Option (List (Option LeAudioDeviceCapabilities))) (requirements : List LeAudioConfigurationRequirement) :
    (getLeAudioAseConfiguration K p settings sink source requirements).toOption =
      p.getLeAudioAseConfiguration K settings sink source requirements := by
  by_cases h : sink.isSome ∨ source.isSome
  · obtain ⟨result, hchecked, hresult⟩ := getLeAudioAseConfiguration_ok K p settings sink source requirements h
    rw [hchecked, hresult]
    rfl
  rcases sink with _ | sink
  · rcases source with _ | source
    · rcases settings with _ | ⟨setting, settings⟩
      · rfl
      · rw [getLeAudioAseConfiguration_absent]
        rfl
    · exact absurd (.inr rfl) h
  · exact absurd (.inl rfl) h

/-- The call returns, with nothing where no list is given, exactly when a list
is given or there is no setting to match with it. -/
theorem getLeAudioAseConfiguration_returns_iff (settings : List (LeAudioAseConfigurationSetting R))
    (sink source : Option (List (Option LeAudioDeviceCapabilities))) (requirements : List LeAudioConfigurationRequirement) :
    (∃ result, getLeAudioAseConfiguration K p settings sink source requirements = .ok result ∧
      (sink = none ∧ source = none → result = [])) ↔
      settings = [] ∨ sink.isSome ∨ source.isSome := by
  constructor
  · rintro ⟨result, hresult, -⟩
    rcases settings with _ | ⟨setting, settings⟩
    · exact .inl rfl
    right
    rcases sink with _ | sink
    · rcases source with _ | source
      · rw [getLeAudioAseConfiguration_absent] at hresult
        cases hresult
      · exact .inr rfl
    · exact .inl rfl
  · rintro (rfl | h)
    · exact ⟨[], rfl, fun _ => rfl⟩
    · obtain ⟨result, hchecked, -⟩ := getLeAudioAseConfiguration_ok K p settings sink source requirements h
      refine ⟨result, hchecked, ?_⟩
      rintro ⟨rfl, rfl⟩
      rcases h with h | h <;> cases h

/-- A setting, and no list of capabilities. -/
theorem getLeAudioAseConfiguration_throws :
    ¬ ∀ (K : AidlConstants) (p : LeAudioOffloadAudioProvider) (settings : List (LeAudioAseConfigurationSetting Unit))
        (sink source : Option (List (Option LeAudioDeviceCapabilities)))
        (requirements : List LeAudioConfigurationRequirement),
      ∃ result, getLeAudioAseConfiguration K p settings sink source requirements = .ok result ∧
        (sink = none ∧ source = none → result = []) := by
  intro h
  obtain ⟨result, hresult, -⟩ := h ⟨0, fun _ => none, fun _ => none⟩ ⟨fun _ => none⟩ [⟨0, 0, none, none, none⟩] none none []
  cases hresult

end Checked

end PhhTreble.LeAudio

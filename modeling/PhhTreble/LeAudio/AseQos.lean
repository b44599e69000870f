import PhhTreble.LeAudio.AseSelection
/-!
# ASE QoS configurations

`getLeAudioAseQosConfiguration` answers with the QoS of the first configuration
of its settings that a requirement allows.
-/

namespace PhhTreble.LeAudio

open Selection (First)

/-! ## The data model -/

/-- `Q` is what is only copied: the PHYs, the SDU and the framing. -/
structure LeAudioAseQosConfiguration (Q : Type) where
  maxTransportLatencyMs : Int
  retransmissionNum : Int
  rest : Q
deriving DecidableEq, Repr

/-- What an `AseDirectionConfiguration` has beside its ASE configuration. -/
structure QosAndDataPath (Q D : Type) where
  qosConfiguration : Option (LeAudioAseQosConfiguration Q)
  dataPathConfiguration : D
deriving DecidableEq, Repr

structure AseQosDirectionRequirement where
  aseConfiguration : LeAudioAseConfiguration
  maxTransportLatencyMs : Int
  preferredRetransmissionNum : Int
deriving DecidableEq, Repr

structure LeAudioAseQosConfigurationRequirement where
  audioContext : BitVec 32
  sinkAseQosRequirement : Option AseQosDirectionRequirement
  sourceAseQosRequirement : Option AseQosDirectionRequirement
deriving DecidableEq, Repr

structure LeAudioAseQosConfigurationPair (Q : Type) where
  sinkQosConfiguration : Option (LeAudioAseQosConfiguration Q)
  sourceQosConfiguration : Option (LeAudioAseQosConfiguration Q)
deriving DecidableEq, Repr

variable {Q D : Type}

def LeAudioAseQosConfigurationPair.empty : LeAudioAseQosConfigurationPair Q := ⟨none, none⟩

/-! ## The search -/

/-- The field of the direction. -/
def LeAudioAseQosConfigurationPair.direction (pair : LeAudioAseQosConfigurationPair Q) :
    Direction → Option (LeAudioAseQosConfiguration Q)
  | .sink => pair.sinkQosConfiguration
  | .source => pair.sourceQosConfiguration

theorem LeAudioAseQosConfigurationPair.eq_empty_iff (pair : LeAudioAseQosConfigurationPair Q) :
    pair = .empty ↔ ∀ direction, pair.direction direction = none := by
  constructor
  · rintro rfl direction
    cases direction <;> rfl
  · intro h
    obtain ⟨sink, source⟩ := pair
    have hsink : sink = none := h .sink
    have hsource : source = none := h .source
    rw [hsink, hsource]
    rfl

namespace LeAudioAseQosConfigurationRequirement
variable (in_qosRequirement : LeAudioAseQosConfigurationRequirement)

/-- `direction_qos_requirement`: that of the sink, if there is one. -/
def directionQosRequirement : Option AseQosDirectionRequirement :=
  in_qosRequirement.sinkAseQosRequirement.or in_qosRequirement.sourceAseQosRequirement

/-- Without a requirement it stays 0, which is not the sink. -/
def direction : Direction := if in_qosRequirement.sinkAseQosRequirement.isSome then .sink else .source

end LeAudioAseQosConfigurationRequirement

def isMatchedQosRequirement (setting_qos : LeAudioAseQosConfiguration Q) (requirement_qos : AseQosDirectionRequirement) : Bool :=
  if setting_qos.retransmissionNum != requirement_qos.preferredRetransmissionNum then false
  else if setting_qos.maxTransportLatencyMs > requirement_qos.maxTransportLatencyMs then false
  else true

namespace LeAudioOffloadAudioProvider
variable (K : AidlConstants) (p : LeAudioOffloadAudioProvider)

/-- The loop body for a configuration: the pair that is returned, if one is. -/
def qosOf (direction : Direction) (direction_qos_requirement : Option AseQosDirectionRequirement)
    (cfg : AseDirectionConfiguration (QosAndDataPath Q D)) : Option (LeAudioAseQosConfigurationPair Q) :=
  match direction_qos_requirement with
  | none => some ⟨cfg.rest.qosConfiguration, cfg.rest.qosConfiguration⟩
  | some requirement =>
    match cfg.rest.qosConfiguration with
    | none => none
    | some qos =>
      if p.isMatchedAseConfiguration K cfg.aseConfiguration requirement.aseConfiguration &&
          isMatchedQosRequirement qos requirement then
        match direction with
        | .sink => some ⟨some qos, none⟩
        | .source => some ⟨none, some qos⟩
      else none

def getLeAudioAseQosConfiguration (ase_configuration_settings : List (LeAudioAseConfigurationSetting (QosAndDataPath Q D)))
    (in_qosRequirement : LeAudioAseQosConfigurationRequirement) : LeAudioAseQosConfigurationPair Q :=
  let direction := in_qosRequirement.direction
  let returned := ase_configuration_settings.findSome? fun setting =>
    if setting.audioContext != in_qosRequirement.audioContext then none
    else match setting.direction direction with
      | none => none
      | some direction_configuration => direction_configuration.findSome? fun
        | none => none
        | some cfg => p.qosOf K direction in_qosRequirement.directionQosRequirement cfg
  returned.getD .empty

end LeAudioOffloadAudioProvider

/-! ## What is sought -/

/-- The configurations of a direction, of the settings for a context. -/
def configurations (settings : List (LeAudioAseConfigurationSetting (QosAndDataPath Q D))) (context : BitVec 32)
    (direction : Direction) : List (AseDirectionConfiguration (QosAndDataPath Q D)) :=
  (settings.filter (·.audioContext = context)).flatMap fun setting => ((setting.direction direction).getD []).reduceOption

section
variable (K : AidlConstants) (p : LeAudioOffloadAudioProvider)

/-- The codec, if there is one, is not disabled. -/
def Enabled (cfg : LeAudioAseConfiguration) : Prop :=
  ∀ codecId, cfg.codecId = some codecId → p.codec_priority_map_ codecId ≠ some K.codecPriorityDisabled

/-- The configuration and its QoS are what the requirement asks for. -/
structure Qualifies (requirement : AseQosDirectionRequirement) (cfg : AseDirectionConfiguration (QosAndDataPath Q D)) :
    Prop where
  meets : Meets cfg.aseConfiguration requirement.aseConfiguration
  enabled : Enabled K p requirement.aseConfiguration
  qos : ∃ qos, cfg.rest.qosConfiguration = some qos ∧ qos.retransmissionNum = requirement.preferredRetransmissionNum ∧
    qos.maxTransportLatencyMs ≤ requirement.maxTransportLatencyMs

/-- Without a requirement any configuration is. -/
def Sought (requirement : Option AseQosDirectionRequirement) (cfg : AseDirectionConfiguration (QosAndDataPath Q D)) : Prop :=
  ∀ r, requirement = some r → Qualifies K p r cfg

/-! ## The search finds it -/

theorem isMatchedQosRequirement_iff (qos : LeAudioAseQosConfiguration Q) (requirement : AseQosDirectionRequirement) :
    isMatchedQosRequirement qos requirement = true ↔ qos.retransmissionNum = requirement.preferredRetransmissionNum ∧
      qos.maxTransportLatencyMs ≤ requirement.maxTransportLatencyMs := by
  unfold isMatchedQosRequirement
  split
  · simp_all
  · simp_all

/-- The tests of a configuration. -/
def seeks (requirement : Option AseQosDirectionRequirement) (cfg : AseDirectionConfiguration (QosAndDataPath Q D)) : Bool :=
  requirement.all fun r => p.isMatchedAseConfiguration K cfg.aseConfiguration r.aseConfiguration &&
    cfg.rest.qosConfiguration.any fun qos => isMatchedQosRequirement qos r

theorem seeks_iff (requirement : Option AseQosDirectionRequirement) (cfg : AseDirectionConfiguration (QosAndDataPath Q D)) :
    seeks K p requirement cfg = true ↔ Sought K p requirement cfg := by
  simp only [seeks, Option.all_eq_true, Sought, Bool.and_eq_true, isMatchedAseConfiguration_iff, Option.any_eq_true,
    isMatchedQosRequirement_iff]
  refine forall₂_congr fun r _ => ?_
  constructor
  · rintro ⟨⟨hmeets, henabled⟩, hqos⟩
    exact ⟨hmeets, henabled, hqos⟩
  · rintro ⟨hmeets, henabled, hqos⟩
    exact ⟨⟨hmeets, henabled⟩, hqos⟩

/-- The pair made of a configuration that is returned. -/
def pairOf (direction : Direction) (requirement : Option AseQosDirectionRequirement)
    (cfg : AseDirectionConfiguration (QosAndDataPath Q D)) : LeAudioAseQosConfigurationPair Q :=
  match requirement, direction with
  | none, _ => ⟨cfg.rest.qosConfiguration, cfg.rest.qosConfiguration⟩
  | some _, .sink => ⟨cfg.rest.qosConfiguration, none⟩
  | some _, .source => ⟨none, cfg.rest.qosConfiguration⟩

theorem qosOf_eq (direction : Direction) (requirement : Option AseQosDirectionRequirement)
    (cfg : AseDirectionConfiguration (QosAndDataPath Q D)) :
    p.qosOf K direction requirement cfg =
      if seeks K p requirement cfg then some (pairOf direction requirement cfg) else none := by
  unfold LeAudioOffloadAudioProvider.qosOf seeks pairOf
  cases requirement with
  | none => rfl
  | some requirement =>
    cases cfg.rest.qosConfiguration with
    | none => simp
    | some qos => cases direction <;> rfl

/-- The field of the direction, or both without a requirement. -/
theorem pairOf_direction (direction which : Direction) (requirement : Option AseQosDirectionRequirement)
    (cfg : AseDirectionConfiguration (QosAndDataPath Q D)) :
    (pairOf direction requirement cfg).direction which =
      if requirement.isSome → which = direction then cfg.rest.qosConfiguration else none := by
  cases requirement with
  | none => cases which <;> rfl
  | some requirement => cases direction <;> cases which <;> rfl

/-- The loops go through the configurations one after the other. -/
theorem getLeAudioAseQosConfiguration_eq (settings : List (LeAudioAseConfigurationSetting (QosAndDataPath Q D)))
    (requirement : LeAudioAseQosConfigurationRequirement) :
    p.getLeAudioAseQosConfiguration K settings requirement =
      ((configurations settings requirement.audioContext requirement.direction).findSome?
        (p.qosOf K requirement.direction requirement.directionQosRequirement)).getD .empty := by
  rw [configurations, Selection.findSome?_flatMap, Selection.findSome?_filter]
  refine congrArg (Option.getD · LeAudioAseQosConfigurationPair.empty) (congrArg (List.findSome? · settings) ?_)
  funext setting
  by_cases hcontext : setting.audioContext = requirement.audioContext
  · simp only [hcontext, bne_self_eq_false, decide_true, if_true, Bool.false_eq_true, if_false,
      Selection.findSome?_reduceOption]
    cases setting.direction requirement.direction with
    | none => rfl
    | some direction_configuration =>
      refine congrArg (List.findSome? · direction_configuration) ?_
      funext cfg
      cases cfg <;> rfl
  · simp [hcontext]

/-- A field of the result is the QoS of the first configuration that is sought. -/
theorem getLeAudioAseQosConfiguration_direction (settings : List (LeAudioAseConfigurationSetting (QosAndDataPath Q D)))
    (requirement : LeAudioAseQosConfigurationRequirement) (which : Direction) (qos : LeAudioAseQosConfiguration Q) :
    (p.getLeAudioAseQosConfiguration K settings requirement).direction which = some qos ↔
      (requirement.directionQosRequirement.isSome → which = requirement.direction) ∧
        ∃ cfg, First (Sought K p requirement.directionQosRequirement)
          (configurations settings requirement.audioContext requirement.direction) cfg ∧
          cfg.rest.qosConfiguration = some qos := by
  simp only [getLeAudioAseQosConfiguration_eq, funext (qosOf_eq K p requirement.direction requirement.directionQosRequirement),
    Selection.findSome?_ite, Selection.first_iff_find? (seeks_iff K p _)]
  generalize (configurations settings requirement.audioContext requirement.direction).find? _ = found
  cases found with
  | none => cases which <;> simp [LeAudioAseQosConfigurationPair.empty, LeAudioAseQosConfigurationPair.direction]
  | some cfg =>
    rw [Option.map_some, Option.getD_some, pairOf_direction]
    simp

theorem getLeAudioAseQosConfiguration_eq_empty_iff (settings : List (LeAudioAseConfigurationSetting (QosAndDataPath Q D)))
    (requirement : LeAudioAseQosConfigurationRequirement) :
    p.getLeAudioAseQosConfiguration K settings requirement = .empty ↔
      ∀ cfg, First (Sought K p requirement.directionQosRequirement)
        (configurations settings requirement.audioContext requirement.direction) cfg → cfg.rest.qosConfiguration = none := by
  rw [LeAudioAseQosConfigurationPair.eq_empty_iff]
  constructor
  · intro h cfg hfirst
    by_contra hqos
    obtain ⟨qos, hqos⟩ := Option.ne_none_iff_exists'.mp hqos
    have hfield := (getLeAudioAseQosConfiguration_direction K p settings requirement requirement.direction qos).2
      ⟨fun _ => rfl, cfg, hfirst, hqos⟩
    rw [h] at hfield
    cases hfield
  · intro h which
    by_contra hfield
    obtain ⟨qos, hfield⟩ := Option.ne_none_iff_exists'.mp hfield
    obtain ⟨-, cfg, hfirst, hqos⟩ := (getLeAudioAseQosConfiguration_direction K p settings requirement which qos).1 hfield
    rw [h cfg hfirst] at hqos
    cases hqos

/-! ## What is to be found -/

/-- The configuration has a codec that is not disabled, whatever is required of it,
and a QoS, and both are as required. -/
structure Eligible (requirement : Option AseQosDirectionRequirement) (cfg : AseDirectionConfiguration (QosAndDataPath Q D)) :
    Prop where
  enabled : Enabled K p cfg.aseConfiguration
  meets : ∀ r, requirement = some r → Meets cfg.aseConfiguration r.aseConfiguration
  qos : ∃ qos, cfg.rest.qosConfiguration = some qos ∧ ∀ r, requirement = some r →
    qos.retransmissionNum = r.preferredRetransmissionNum ∧ qos.maxTransportLatencyMs ≤ r.maxTransportLatencyMs

/-- The search leaves out to look at the codec where the requirement has none, and
at the QoS where there is no requirement. -/
theorem eligible_iff (requirement : Option AseQosDirectionRequirement) (cfg : AseDirectionConfiguration (QosAndDataPath Q D)) :
    Eligible K p requirement cfg ↔
      Sought K p requirement cfg ∧ Enabled K p cfg.aseConfiguration ∧ cfg.rest.qosConfiguration.isSome := by
  constructor
  · rintro ⟨henabled, hmeets, qos, hqos, hrequired⟩
    refine ⟨fun r hr => ⟨hmeets r hr, ?_, qos, hqos, hrequired r hr⟩, henabled, Option.isSome_of_eq_some hqos⟩
    intro codecId hcodec
    exact henabled codecId ((hmeets r hr).codec codecId hcodec)
  · rintro ⟨hsought, henabled, hsome⟩
    obtain ⟨qos, hqos⟩ := Option.isSome_iff_exists.1 hsome
    refine ⟨henabled, fun r hr => (hsought r hr).meets, qos, hqos, fun r hr => ?_⟩
    obtain ⟨_, hqos', hrequired⟩ := (hsought r hr).qos
    cases hqos.symm.trans hqos'
    exact hrequired

/-- What is found is eligible, or makes no difference: the first that is eligible
has the same QoS, or none is and it has none. -/
def Harmless (requirement : Option AseQosDirectionRequirement) (cfgs : List (AseDirectionConfiguration (QosAndDataPath Q D)))
    (found : AseDirectionConfiguration (QosAndDataPath Q D)) : Prop :=
  (Enabled K p found.aseConfiguration ∧ found.rest.qosConfiguration.isSome) ∨
  (∃ cfg, First (Eligible K p requirement) cfgs cfg ∧ cfg.rest.qosConfiguration = found.rest.qosConfiguration) ∨
  (found.rest.qosConfiguration = none ∧ ∀ cfg ∈ cfgs, ¬ Eligible K p requirement cfg)

/-- For one configuration found: its QoS, if any, is the one to give exactly when it is harmless. -/
theorem harmless_iff {requirement : Option AseQosDirectionRequirement}
    {cfgs : List (AseDirectionConfiguration (QosAndDataPath Q D))} {found : AseDirectionConfiguration (QosAndDataPath Q D)}
    (hfound : First (Sought K p requirement) cfgs found) :
    Harmless K p requirement cfgs found ↔
      (∀ qos, found.rest.qosConfiguration = some qos →
        ∃ cfg, First (Eligible K p requirement) cfgs cfg ∧ cfg.rest.qosConfiguration = some qos) ∧
      (found.rest.qosConfiguration = none → ∀ cfg ∈ cfgs, ¬ Eligible K p requirement cfg) := by
  constructor
  · rintro (⟨henabled, hsome⟩ | ⟨cfg, hfirst, hsame⟩ | ⟨hnone, hall⟩)
    · have hfirst := hfound.strengthen ((eligible_iff K p requirement found).2 ⟨hfound.prop, henabled, hsome⟩)
        fun cfg hcfg => ((eligible_iff K p requirement cfg).1 hcfg).1
      refine ⟨fun qos hqos => ⟨found, hfirst, hqos⟩, fun hnone => ?_⟩
      rw [hnone] at hsome
      cases hsome
    · refine ⟨fun qos hqos => ⟨cfg, hfirst, hsame.trans hqos⟩, fun hnone => ?_⟩
      obtain ⟨qos, hqos, -⟩ := hfirst.prop.qos
      cases hqos.symm.trans (hsame.trans hnone)
    · refine ⟨fun qos hqos => ?_, fun _ => hall⟩
      cases hnone.symm.trans hqos
  · rintro ⟨hsome, hnone⟩
    cases hqos : found.rest.qosConfiguration with
    | none => exact .inr (.inr ⟨hqos, hnone hqos⟩)
    | some qos =>
      obtain ⟨cfg, hfirst, hsame⟩ := hsome qos hqos
      exact .inr (.inl ⟨cfg, hfirst, hsame.trans hqos.symm⟩)

/-- Any QoS returned is that of the first configuration that is eligible, in the
field of the requirement's direction, or in both without a requirement. The result
is empty when none is. -/
def AnswersEligible (settings : List (LeAudioAseConfigurationSetting (QosAndDataPath Q D)))
    (requirement : LeAudioAseQosConfigurationRequirement) : Prop :=
  let result := p.getLeAudioAseQosConfiguration K settings requirement
  let cfgs := configurations settings requirement.audioContext requirement.direction
  let eligible := Eligible K p requirement.directionQosRequirement
  (∀ which qos, result.direction which = some qos →
    (requirement.directionQosRequirement.isSome → which = requirement.direction) ∧
      ∃ cfg, First eligible cfgs cfg ∧ cfg.rest.qosConfiguration = some qos) ∧
  (result = .empty ↔ ∀ cfg ∈ cfgs, ¬ eligible cfg)

end

/-- A setting with one configuration, whose codec is disabled. -/
def disabledSetting : LeAudioAseConfigurationSetting (QosAndDataPath Unit Unit) :=
  ⟨4, 0, some [some ⟨⟨.lower, some (.core 1), []⟩, ⟨some ⟨20, 2, ()⟩, ()⟩⟩], none, none⟩

end PhhTreble.LeAudio

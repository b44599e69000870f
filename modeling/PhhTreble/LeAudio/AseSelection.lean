import PhhTreble.LeAudio.Ase
/-!
# What the selection of ASE configurations is for

The settings that a device and a requirement allow, and when the two passes
find them.
-/

namespace PhhTreble.LeAudio

open LeAudioOffloadAudioProvider

variable {R : Type}

/-! ## The specification -/

/-- The LTV is of the kind the capability is about, and within it. -/
def Supports (K : AidlConstants) : CodecSpecificCapabilitiesLtv → CodecSpecificConfigurationLtv → Prop
  | .supportedSamplingFrequencies bitmask, .samplingFrequency freq =>
    ∃ bit, K.supportedSamplingFrequencies freq = some bit ∧ bitmask &&& bit ≠ 0
  | .supportedFrameDurations bitmask, .frameDuration fduration =>
    ∃ bit, K.supportedFrameDurations fduration = some bit ∧ bitmask &&& bit ≠ 0
  | .supportedAudioChannelCounts _, .audioChannelAllocation _ => True
  | .supportedMaxCodecFramesPerSDU value, .codecFrameBlocksPerSDU blocks => blocks ≤ value
  | .supportedOctetsPerCodecFrame min max, .octetsPerCodecFrame octets => min ≤ octets ∧ octets ≤ max
  | _, _ => False

/-- Metadata, where there is any, prefers a context of the setting. -/
def AllowsContext (capabilities : LeAudioDeviceCapabilities) (context : BitVec 32) : Prop :=
  ∀ metadata, capabilities.metadata = some metadata →
    ∃ bitmask, some (MetadataLtv.preferredAudioContexts bitmask) ∈ metadata ∧ context &&& bitmask ≠ 0

/-- The configuration has the codec, if one is required, the latency and the
required LTVs. -/
structure Meets (cfg requirement : LeAudioAseConfiguration) : Prop where
  codec : ∀ codecId, requirement.codecId = some codecId → cfg.codecId = some codecId
  latency : cfg.targetLatency = requirement.targetLatency
  ltvs : ∀ ltv ∈ requirement.codecConfiguration, cfgTagMap cfg.codecConfiguration ltv.getTag = some ltv

/-- The direction configuration is one that the device and the requirement allow. -/
structure Kept (K : AidlConstants) (p : LeAudioOffloadAudioProvider) (direction : Direction)
    (capabilities : LeAudioDeviceCapabilities) (requirement : LeAudioConfigurationRequirement)
    (d : AseDirectionConfiguration R) : Prop where
  codec : d.aseConfiguration.codecId = some capabilities.codecId
  enabled : p.codec_priority_map_ capabilities.codecId ≠ some K.codecPriorityDisabled
  capable : ∀ x ∈ capabilities.codecSpecificCapabilities, ∃ ltv ∈ d.aseConfiguration.codecConfiguration, Supports K x ltv
  required : ∀ requirements, requirement.direction direction = some requirements →
    ∃ q : AseDirectionRequirement, some q ∈ requirements ∧ Meets d.aseConfiguration q.aseConfiguration

/-- The contexts of the setting, the device and the requirement go together. -/
def ContextsMatch (t : LeAudioAseConfigurationSetting R × LeAudioDeviceCapabilities × LeAudioConfigurationRequirement) :
    Prop := AllowsContext t.2.1 t.1.audioContext ∧ t.1.audioContext = t.2.2.audioContext

open Classical in
/-- The copy of the setting with what is kept of the direction, unless nothing is. -/
noncomputable def selected (K : AidlConstants) (p : LeAudioOffloadAudioProvider) (direction : Direction)
    (t : LeAudioAseConfigurationSetting R × LeAudioDeviceCapabilities × LeAudioConfigurationRequirement) :
    Option (LeAudioAseConfigurationSetting R) :=
  let kept := ((t.1.direction direction).getD []).filter fun o => o.any fun d => Kept K p direction t.2.1 t.2.2 d
  if ContextsMatch t ∧ kept ≠ [] then some (t.1.filtered kept direction) else none

/-- Every setting, capability and requirement, in that order. -/
def candidates (settings : List (LeAudioAseConfigurationSetting R)) (capabilities : List (Option LeAudioDeviceCapabilities))
    (requirements : List LeAudioConfigurationRequirement) :
    List (LeAudioAseConfigurationSetting R × LeAudioDeviceCapabilities × LeAudioConfigurationRequirement) :=
  settings ×ˢ capabilities.reduceOption ×ˢ requirements

noncomputable def specification (K : AidlConstants) (p : LeAudioOffloadAudioProvider) (direction : Direction)
    (settings : List (LeAudioAseConfigurationSetting R)) (capabilities : List (Option LeAudioDeviceCapabilities))
    (requirements : List LeAudioConfigurationRequirement) : List (LeAudioAseConfigurationSetting R) :=
  (candidates settings capabilities requirements).filterMap (selected K p direction)

/-! ## The tables -/

/-- The LTV is not a frequency or duration without a row. -/
def Listed : CodecSpecificConfigurationLtv → Prop
  | .samplingFrequency freq => freq ∈ listedFrequencies
  | .frameDuration fduration => fduration ∈ listedDurations
  | _ => True

/-- For each capability the last LTV of its kind is supported and listed. -/
def Tabled (K : AidlConstants) (capabilities : LeAudioDeviceCapabilities) (d : AseDirectionConfiguration R) : Prop :=
  ∀ x ∈ capabilities.codecSpecificCapabilities, ∃ ltv,
    cfgTagMap d.aseConfiguration.codecConfiguration x.cfgTag = some ltv ∧ Supports K x ltv ∧ Listed ltv

/-- A table of the listed values has the bits of those. -/
theorem lookup_filterMap {α : Type} [DecidableEq α] (listed : List α) (bits : α → Option (BitVec 32)) (a : α) :
    (listed.filterMap fun a => (bits a).map (a, ·)).lookup a = if a ∈ listed then bits a else none := by
  induction listed with
  | nil => rfl
  | cons b listed ih =>
    cases hb : bits b with
    | none =>
      rw [List.filterMap_cons_none (by rw [hb]; rfl), ih]
      by_cases hab : a = b
      · subst hab
        simp [hb]
      · simp [hab]
    | some bit =>
      rw [List.filterMap_cons_some (by rw [hb]; rfl), List.lookup_cons, ih]
      by_cases hab : a = b
      · subst hab
        simp [hb]
      · simp [hab, beq_false_of_ne hab]

/-- A capability is matched by what it supports as far as the tables go. -/
theorem isMatched_iff (K : AidlConstants) (x : CodecSpecificCapabilitiesLtv) (ltv : CodecSpecificConfigurationLtv) :
    isMatched K x ltv = true ↔ Supports K x ltv ∧ Listed ltv := by
  cases x with
  | supportedSamplingFrequencies bitmask =>
    cases ltv with
    | samplingFrequency freq =>
      simp only [isMatched, isMatchedSamplingFreq, freq_to_support_bitmask_map, lookup_filterMap, Supports, Listed]
      by_cases hl : freq ∈ listedFrequencies
      · rw [if_pos hl]
        cases K.supportedSamplingFrequencies freq <;> simp [hl]
      · simp [hl]
    | _ => simp [isMatched, Supports]
  | supportedFrameDurations bitmask =>
    cases ltv with
    | frameDuration fduration =>
      simp only [isMatched, isMatchedFrameDuration, fduration_to_support_fduration_map, lookup_filterMap, Supports, Listed]
      by_cases hl : fduration ∈ listedDurations
      · rw [if_pos hl]
        cases K.supportedFrameDurations fduration <;> simp [hl]
      · simp [hl]
    | _ => simp [isMatched, Supports]
  | supportedAudioChannelCounts bitmask => cases ltv <;> simp [isMatched, Supports, Listed]
  | supportedMaxCodecFramesPerSDU value => cases ltv <;> simp [isMatched, Supports, Listed]
  | supportedOctetsPerCodecFrame min max => cases ltv <;> simp [isMatched, Supports, Listed]

theorem isCapabilitiesMatchedCodecConfiguration_iff (K : AidlConstants) (capabilities : LeAudioDeviceCapabilities)
    (d : AseDirectionConfiguration R) :
    isCapabilitiesMatchedCodecConfiguration K d.aseConfiguration.codecConfiguration
      capabilities.codecSpecificCapabilities = true ↔ Tabled K capabilities d := by
  simp only [isCapabilitiesMatchedCodecConfiguration, List.all_eq_true, Tabled]
  refine forall₂_congr fun x _ => ?_
  cases cfgTagMap d.aseConfiguration.codecConfiguration x.cfgTag with
  | none => simp
  | some ltv => simp [isMatched_iff]

/-! ## One candidate -/

theorem isCapabilitiesMatchedContext_iff (context : BitVec 32) (capabilities : LeAudioDeviceCapabilities) :
    isCapabilitiesMatchedContext context capabilities = true ↔ AllowsContext capabilities context := by
  unfold isCapabilitiesMatchedContext AllowsContext
  cases capabilities.metadata with
  | none => simp
  | some metadata =>
    simp only [List.any_eq_true, Option.some.injEq, forall_eq']
    constructor
    · rintro ⟨o, ho, hm⟩
      split at hm
      · exact ⟨_, ho, by simpa using hm⟩
      · cases hm
    · rintro ⟨bitmask, ho, hm⟩
      exact ⟨_, ho, by simpa using hm⟩

section
variable (K : AidlConstants) (p : LeAudioOffloadAudioProvider)

theorem isMatchedValidCodec_iff {cfg_codec req_codec : A2dp.CodecId} :
    p.isMatchedValidCodec K cfg_codec req_codec = true ↔
      p.codec_priority_map_ cfg_codec ≠ some K.codecPriorityDisabled ∧ cfg_codec = req_codec := by
  unfold isMatchedValidCodec
  split
  · simp_all
  · simp_all

/-- A codec that is required must not be disabled either. -/
theorem isMatchedAseConfiguration_iff {cfg requirement : LeAudioAseConfiguration} :
    p.isMatchedAseConfiguration K cfg requirement = true ↔ Meets cfg requirement ∧
      ∀ codecId, requirement.codecId = some codecId → p.codec_priority_map_ codecId ≠ some K.codecPriorityDisabled := by
  simp only [isMatchedAseConfiguration, Bool.and_eq_true, List.all_eq_true, beq_iff_eq]
  constructor
  · rintro ⟨⟨hcodec, hl⟩, hltvs⟩
    have hboth : ∀ codecId, requirement.codecId = some codecId →
        cfg.codecId = some codecId ∧ p.codec_priority_map_ codecId ≠ some K.codecPriorityDisabled := by
      intro req_codec hreq
      rw [hreq] at hcodec
      cases hcfg : cfg.codecId with
      | none =>
        rw [hcfg] at hcodec
        cases hcodec
      | some cfg_codec =>
        rw [hcfg] at hcodec
        obtain ⟨he, rfl⟩ := (isMatchedValidCodec_iff K p).1 hcodec
        exact ⟨rfl, he⟩
    exact ⟨⟨fun codecId h => (hboth codecId h).1, hl, hltvs⟩, fun codecId h => (hboth codecId h).2⟩
  · rintro ⟨⟨hcodec, hl, hltvs⟩, he⟩
    refine ⟨⟨?_, hl⟩, hltvs⟩
    cases hreq : requirement.codecId with
    | none => rfl
    | some req_codec =>
      rw [hcodec _ hreq]
      exact (isMatchedValidCodec_iff K p).2 ⟨he _ hreq, rfl⟩

/-- For a codec that is not disabled. -/
theorem isMatchedAseConfiguration_iff_meets {cfg requirement : LeAudioAseConfiguration} {codecId : A2dp.CodecId}
    (hc : cfg.codecId = some codecId) (he : p.codec_priority_map_ codecId ≠ some K.codecPriorityDisabled) :
    p.isMatchedAseConfiguration K cfg requirement = true ↔ Meets cfg requirement := by
  rw [isMatchedAseConfiguration_iff]
  apply and_iff_left_of_imp
  intro hmeets req_codec hreq
  have hcodec := hc.symm.trans (hmeets.codec _ hreq)
  injection hcodec with hcodec
  rwa [← hcodec]

/-- The tests of both passes on a direction configuration. -/
def passes (direction : Direction) (capabilities : LeAudioDeviceCapabilities) (requirement : LeAudioConfigurationRequirement)
    (d : AseDirectionConfiguration R) : Bool :=
  (match d.aseConfiguration.codecId with
    | none => false
    | some codecId =>
      p.isMatchedValidCodec K codecId capabilities.codecId &&
        isCapabilitiesMatchedCodecConfiguration K d.aseConfiguration.codecConfiguration
          capabilities.codecSpecificCapabilities) &&
    match requirement.direction direction with
    | none => true
    | some requirements => requirements.any fun
      | none => false
      | some q => p.isMatchedAseConfiguration K d.aseConfiguration q.aseConfiguration

theorem passes_iff (direction : Direction) (capabilities : LeAudioDeviceCapabilities)
    (requirement : LeAudioConfigurationRequirement) (d : AseDirectionConfiguration R) :
    passes K p direction capabilities requirement d = true ↔
      Kept K p direction capabilities requirement d ∧ Tabled K capabilities d := by
  have hrequired : ∀ codecId, d.aseConfiguration.codecId = some codecId →
      p.codec_priority_map_ codecId ≠ some K.codecPriorityDisabled →
      ((match requirement.direction direction with
        | none => true
        | some requirements => requirements.any fun
          | none => false
          | some q => p.isMatchedAseConfiguration K d.aseConfiguration q.aseConfiguration) = true ↔
        ∀ requirements, requirement.direction direction = some requirements →
          ∃ q : AseDirectionRequirement, some q ∈ requirements ∧ Meets d.aseConfiguration q.aseConfiguration) := by
    intro codecId hc he
    cases requirement.direction direction with
    | none => simp
    | some requirements =>
      simp only [List.any_eq_true, Option.some.injEq, forall_eq']
      constructor
      · rintro ⟨o, ho, hm⟩
        cases o with
        | none => cases hm
        | some q => exact ⟨q, ho, (isMatchedAseConfiguration_iff_meets K p hc he).1 hm⟩
      · rintro ⟨q, ho, hm⟩
        exact ⟨some q, ho, (isMatchedAseConfiguration_iff_meets K p hc he).2 hm⟩
  rw [passes, Bool.and_eq_true]
  constructor
  · rintro ⟨hcap, hreq⟩
    cases hc : d.aseConfiguration.codecId with
    | none =>
      rw [hc] at hcap
      cases hcap
    | some codecId =>
      rw [hc] at hcap
      simp only [Bool.and_eq_true, isMatchedValidCodec_iff, isCapabilitiesMatchedCodecConfiguration_iff] at hcap
      obtain ⟨⟨he, rfl⟩, ht⟩ := hcap
      refine ⟨⟨hc, he, ?_, (hrequired _ hc he).1 hreq⟩, ht⟩
      intro x hx
      obtain ⟨ltv, hl, hs, -⟩ := ht x hx
      exact ⟨ltv, (Selection.overwrite_mem hl).1, hs⟩
  · rintro ⟨hk, ht⟩
    refine ⟨?_, (hrequired _ hk.codec hk.enabled).2 hk.required⟩
    rw [hk.codec]
    simp only [Bool.and_eq_true, isMatchedValidCodec_iff, isCapabilitiesMatchedCodecConfiguration_iff]
    exact ⟨⟨hk.enabled, trivial⟩, ht⟩

end

/-! ## The two passes -/

namespace LeAudioAseConfigurationSetting
variable (setting : LeAudioAseConfigurationSetting R) (valid : List (Option (AseDirectionConfiguration R)))

@[simp] theorem filtered_audioContext (direction : Direction) :
    (setting.filtered valid direction).audioContext = setting.audioContext := by cases direction <;> rfl

@[simp] theorem filtered_direction (direction : Direction) :
    (setting.filtered valid direction).direction direction = some valid := by cases direction <;> rfl

/-- The second pass finds the direction of the first. -/
@[simp] theorem filtered_which (direction : Direction) :
    (if (setting.filtered valid direction).sinkAseConfiguration.isSome then Direction.sink else .source) = direction := by
  cases direction <;> rfl

@[simp] theorem filtered_filtered (valid' : List (Option (AseDirectionConfiguration R))) (direction : Direction) :
    (setting.filtered valid direction).filtered valid' direction = setting.filtered valid' direction := by
  cases direction <;> rfl

theorem filtered_injective {direction : Direction} {valid valid' : List (Option (AseDirectionConfiguration R))}
    (h : setting.filtered valid direction = setting.filtered valid' direction) : valid = valid' := by
  have hd := congrArg (·.direction direction) h
  simpa using hd

end LeAudioAseConfigurationSetting

section
variable (K : AidlConstants) (p : LeAudioOffloadAudioProvider)

/-- What the two passes make of a candidate. -/
def twoPasses (direction : Direction)
    (t : LeAudioAseConfigurationSetting R × LeAudioDeviceCapabilities × LeAudioConfigurationRequirement) :
    Option (LeAudioAseConfigurationSetting R) :=
  (p.getCapabilitiesMatchedAseConfigurationSettings K t.1 t.2.1 direction).bind fun setting =>
    p.getRequirementMatchedAseConfigurationSettings K setting t.2.2

theorem filter_both (direction : Direction) (l : List (Option (AseDirectionConfiguration R)))
    (capabilities : LeAudioDeviceCapabilities) (requirement : LeAudioConfigurationRequirement) :
    p.filterRequirementAseDirectionConfiguration K (p.filterCapabilitiesAseDirectionConfiguration K l capabilities)
        (requirement.direction direction) =
      l.filter fun o => o.any (passes K p direction capabilities requirement) := by
  unfold filterRequirementAseDirectionConfiguration filterCapabilitiesAseDirectionConfiguration
  rw [List.filter_filter]
  refine List.filter_congr fun o _ => ?_
  cases o with
  | none => simp
  | some d =>
    rw [Option.any_some, passes]
    refine (Bool.and_comm _ _).trans ?_
    cases requirement.direction direction with
    | none => rfl
    | some requirements => rfl

/-- One filter does the work of both passes. -/
theorem twoPasses_eq (direction : Direction)
    (t : LeAudioAseConfigurationSetting R × LeAudioDeviceCapabilities × LeAudioConfigurationRequirement) :
    twoPasses K p direction t =
      let kept := ((t.1.direction direction).getD []).filter fun o => o.any (passes K p direction t.2.1 t.2.2)
      open Classical in if ContextsMatch t ∧ kept ≠ [] then some (t.1.filtered kept direction) else none := by
  obtain ⟨setting, capabilities, requirement⟩ := t
  simp only [twoPasses, getCapabilitiesMatchedAseConfigurationSettings, ContextsMatch, ← isCapabilitiesMatchedContext_iff]
  cases hctx : isCapabilitiesMatchedContext setting.audioContext capabilities with
  | false => simp
  | true =>
    cases hdir : setting.direction direction with
    | none => simp
    | some l =>
      have hboth := filter_both K p direction l capabilities requirement
      simp only [Option.getD_some]
      generalize l.filter (fun o => o.any (passes K p direction capabilities requirement)) = kept at hboth ⊢
      generalize p.filterCapabilitiesAseDirectionConfiguration K l capabilities = valid at hboth
      by_cases hnil : valid = []
      · -- What the first pass drops the second cannot keep.
        have hkept : kept = [] := by
          rw [← hboth, hnil]
          rfl
        simp [hnil, hkept]
      · by_cases heq : setting.audioContext = requirement.audioContext
        · by_cases hkept : kept = []
          · simp [hnil, getRequirementMatchedAseConfigurationSettings, heq, hboth, hkept]
          · simp [hnil, getRequirementMatchedAseConfigurationSettings, heq, hboth, hkept]
        · simp [hnil, getRequirementMatchedAseConfigurationSettings, heq]

/-! ## The result -/

section
variable {direction : Direction}
  {t : LeAudioAseConfigurationSetting R × LeAudioDeviceCapabilities × LeAudioConfigurationRequirement}

theorem mem_of_passes {d : AseDirectionConfiguration R} (h : passes K p direction t.2.1 t.2.2 d = true) :
    Kept K p direction t.2.1 t.2.2 d := ((passes_iff K p direction t.2.1 t.2.2 d).1 h).1

/-- Where the passes find something, something is to be found. -/
theorem selected_isSome (h : (twoPasses K p direction t).isSome) : (selected K p direction t).isSome := by
  classical
  rw [twoPasses_eq] at h
  simp only [selected, Option.isSome_ite, ne_eq, List.filter_eq_nil_iff, not_forall] at h ⊢
  obtain ⟨hctx, o, ho, hpass⟩ := h
  refine ⟨hctx, o, ho, ?_⟩
  cases o with
  | none => simp at hpass
  | some d =>
    rw [not_not, Option.any_some] at hpass
    simpa using mem_of_passes K p hpass

/-- A setting with one direction configuration, which is kept. -/
theorem selected_of_kept (hctx : ContextsMatch t) {d : AseDirectionConfiguration R}
    (hd : t.1.direction direction = some [some d]) (hk : Kept K p direction t.2.1 t.2.2 d) :
    selected K p direction t = some (t.1.filtered [some d] direction) := by
  unfold selected
  have hkept : ((t.1.direction direction).getD []).filter (fun o => o.any fun d => @decide (Kept K p direction t.2.1 t.2.2 d)
      (Classical.propDecidable _)) = [some d] := by
    rw [hd, Option.getD_some, List.filter_cons_of_pos (by simpa using hk), List.filter_nil]
  rw [hkept]
  exact if_pos ⟨hctx, List.cons_ne_nil _ _⟩

open Classical in
/-- The passes find all that is to be kept when it is in the tables. -/
theorem filter_passes_eq_iff (l : List (Option (AseDirectionConfiguration R))) :
    l.filter (fun o => o.any (passes K p direction t.2.1 t.2.2)) =
        l.filter (fun o => o.any fun d => Kept K p direction t.2.1 t.2.2 d) ↔
      ∀ d, some d ∈ l → Kept K p direction t.2.1 t.2.2 d → Tabled K t.2.1 d := by
  rw [Selection.filter_eq_iff]
  constructor
  · intro h d hd hk
    have hp := h _ hd
    simp only [Option.any_some, hk, decide_true] at hp
    exact ((passes_iff K p direction t.2.1 t.2.2 d).1 hp).2
  · intro h o ho
    cases o with
    | none => rfl
    | some d =>
      rw [Option.any_some, Option.any_some, Bool.eq_iff_iff, passes_iff, decide_eq_true_eq]
      apply and_iff_left_of_imp
      exact h d ho

/-- The passes agree with the specification on a candidate exactly when all that
is to be kept of it is found in the tables. -/
theorem twoPasses_eq_selected_iff :
    twoPasses K p direction t = selected K p direction t ↔
      (ContextsMatch t → ∀ d, some d ∈ (t.1.direction direction).getD [] → Kept K p direction t.2.1 t.2.2 d →
        Tabled K t.2.1 d) := by
  classical
  rw [twoPasses_eq, selected, ← filter_passes_eq_iff]
  by_cases hctx : ContextsMatch t
  · simp only [hctx, true_and, true_imp_iff]
    generalize ((t.1.direction direction).getD []).filter (fun o => o.any (passes K p direction t.2.1 t.2.2)) = found
    generalize ((t.1.direction direction).getD []).filter
      (fun o => o.any fun d => decide (Kept K p direction t.2.1 t.2.2 d)) = kept
    by_cases hf : found = [] <;> by_cases hk : kept = []
    · simp [hf, hk]
    · simp [hf, hk, eq_comm]
    · simp [hf, hk]
    · simp only [ne_eq, hf, not_false_eq_true, if_true, hk, Option.some.injEq]
      exact ⟨t.1.filtered_injective, fun h => by rw [h]⟩
  · simp [hctx]

end

/-- All that is to be kept, of every candidate, is found in the tables: for each
capability its last LTV of the kind is supported, and no 44.1 kHz or other value
without a row. -/
def Covered (direction : Direction) (settings : List (LeAudioAseConfigurationSetting R))
    (capabilities : List (Option LeAudioDeviceCapabilities)) (requirements : List LeAudioConfigurationRequirement) : Prop :=
  ∀ t ∈ candidates settings capabilities requirements, ContextsMatch t →
    ∀ d, some d ∈ (t.1.direction direction).getD [] → Kept K p direction t.2.1 t.2.2 d → Tabled K t.2.1 d

/-- The capabilities of one direction, as the two arguments. -/
def givenFor (direction : Direction) (capabilities : List (Option LeAudioDeviceCapabilities)) (which : Direction) :
    Option (List (Option LeAudioDeviceCapabilities)) := if which = direction then some capabilities else none

theorem getLeAudioAseConfiguration_eq (direction : Direction) (settings : List (LeAudioAseConfigurationSetting R))
    (capabilities : List (Option LeAudioDeviceCapabilities)) (requirements : List LeAudioConfigurationRequirement) :
    p.getLeAudioAseConfiguration K settings (givenFor direction capabilities .sink) (givenFor direction capabilities .source)
        requirements =
      some ((candidates settings capabilities requirements).filterMap (twoPasses K p direction)) := by
  have hgiven : p.getLeAudioAseConfiguration K settings (givenFor direction capabilities .sink)
      (givenFor direction capabilities .source) requirements =
      some ((settings.flatMap fun setting => capabilities.filterMap fun capability => capability.bind fun capabilities =>
        p.getCapabilitiesMatchedAseConfigurationSettings K setting capabilities direction).flatMap fun setting =>
          requirements.filterMap fun requirement =>
            p.getRequirementMatchedAseConfigurationSettings K setting requirement) := by
    cases direction
    · exact p.getLeAudioAseConfiguration_of_given K settings requirements rfl
    · exact p.getLeAudioAseConfiguration_of_given K settings requirements rfl
  rw [hgiven, Option.some.injEq, List.flatMap_assoc]
  show _ = (List.product settings (List.product (capabilities.filterMap id) requirements)).filterMap _
  simp only [List.product, List.filterMap_flatMap, List.filterMap_map]
  refine List.flatMap_congr fun setting _ => ?_
  simp only [List.filterMap_eq_flatMap_toList, List.flatMap_assoc]
  refine List.flatMap_congr fun capability _ => ?_
  cases capability with
  | none => rfl
  | some capabilities =>
    simp only [Option.bind_some, id_eq, Option.toList_some, List.flatMap_cons, List.flatMap_nil, List.append_nil,
      Function.comp_apply, twoPasses]
    cases p.getCapabilitiesMatchedAseConfigurationSettings K setting capabilities direction with
    | none => simp
    | some setting => simp

end

/-- Given the capabilities of one direction, the selection is what the
specification says exactly when all that is to be kept is found in the tables. -/
theorem getLeAudioAseConfiguration_eq_specification_iff (K : AidlConstants) (p : LeAudioOffloadAudioProvider)
    (direction : Direction) (settings : List (LeAudioAseConfigurationSetting R))
    (capabilities : List (Option LeAudioDeviceCapabilities)) (requirements : List LeAudioConfigurationRequirement) :
    p.getLeAudioAseConfiguration K settings (givenFor direction capabilities .sink) (givenFor direction capabilities .source)
        requirements = some (specification K p direction settings capabilities requirements) ↔
      Covered K p direction settings capabilities requirements := by
  rw [getLeAudioAseConfiguration_eq, Option.some.injEq, specification,
    Selection.filterMap_eq_iff fun t _ => selected_isSome K p]
  exact forall₂_congr fun t _ => twoPasses_eq_selected_iff K p

/-- The constants with the bits of the Bluetooth assigned numbers. -/
def assignedConstants : AidlConstants where
  codecPriorityDisabled := -1
  supportedSamplingFrequencies
    | .hz8000 => some 0x1
    | .hz11025 => some 0x2
    | .hz16000 => some 0x4
    | .hz22050 => some 0x8
    | .hz24000 => some 0x10
    | .hz32000 => some 0x20
    | .hz44100 => some 0x40
    | .hz48000 => some 0x80
    | .hz88200 => some 0x100
    | .hz96000 => some 0x200
    | .hz176400 => some 0x400
    | .hz192000 => some 0x800
    | .hz384000 => some 0x1000
    | .other _ => none
  supportedFrameDurations
    | .us7500 => some 0x1
    | .us10000 => some 0x2
    | .other _ => none

/-- An LC3 setting for media at 44.1 kHz. -/
def setting44100 : LeAudioAseConfigurationSetting Unit where
  audioContext := 4
  packing := 0
  sinkAseConfiguration := some [some ⟨⟨.lower, some (.core 6), [.samplingFrequency .hz44100]⟩, ()⟩]
  sourceAseConfiguration := none
  flags := none

/-- A device that supports 44.1 kHz does not get it. -/
theorem getLeAudioAseConfiguration_drops_44100 :
    let p : LeAudioOffloadAudioProvider := ⟨fun _ => none⟩
    let device : LeAudioDeviceCapabilities := ⟨.core 6, [.supportedSamplingFrequencies 0x40], none⟩
    p.getLeAudioAseConfiguration assignedConstants [setting44100] (some [some device]) none [⟨4, none, none⟩] = some [] ∧
      setting44100 ∈ specification assignedConstants p .sink [setting44100] [some device] [⟨4, none, none⟩] := by
  intro p device
  refine ⟨rfl, ?_⟩
  have hkept : Kept (R := Unit) assignedConstants p .sink device ⟨4, none, none⟩
      ⟨⟨.lower, some (.core 6), [.samplingFrequency .hz44100]⟩, ()⟩ := by
    refine ⟨rfl, nofun, ?_, nofun⟩
    intro x hx
    rw [List.mem_singleton.1 hx]
    exact ⟨_, List.mem_singleton_self _, 0x40, rfl, by decide⟩
  refine List.mem_filterMap.2 ⟨(setting44100, device, ⟨4, none, none⟩), List.mem_singleton_self _, ?_⟩
  exact selected_of_kept _ _ (t := (setting44100, device, ⟨4, none, none⟩)) ⟨nofun, rfl⟩ rfl hkept

end PhhTreble.LeAudio

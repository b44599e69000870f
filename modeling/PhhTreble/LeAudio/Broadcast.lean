import PhhTreble.LeAudio.Ase
import PhhTreble.LeAudio.Settings
import PhhTreble.Lib.Throwing
/-!
# Broadcast configurations

`getLeAudioBroadcastConfiguration` makes settings of the codec infos for the
broadcast session, once, and searches them for one that the remote device is
capable of and that meets a requirement.
-/

namespace PhhTreble.LeAudio

open A2dp (CodecId)
open Selection (First)
open Throwing

/-! ## The data model -/

/-- `other` is a value that the code does not name. -/
inductive Phy where
  | twoM
  | other (value : BitVec 8)
deriving DecidableEq, Repr

structure LeAudioBisConfiguration where
  codecId : CodecId
  codecConfiguration : List CodecSpecificConfigurationLtv
deriving DecidableEq, Repr

structure LeAudioSubgroupBisConfiguration where
  numBis : Int
  bisConfiguration : LeAudioBisConfiguration
deriving DecidableEq, Repr

structure LeAudioBroadcastSubgroupConfiguration where
  bisConfigurations : List LeAudioSubgroupBisConfiguration
deriving DecidableEq, Repr

structure LeAudioBroadcastConfigurationSetting where
  numBis : Int
  phy : List Phy
  subgroupsConfigurations : List LeAudioBroadcastSubgroupConfiguration
deriving DecidableEq, Repr

structure LeAudioBroadcastSubgroupConfigurationRequirement where
  bisNumPerSubgroup : Int
deriving DecidableEq, Repr

structure LeAudioBroadcastConfigurationRequirement where
  subgroupConfigurationRequirements : List LeAudioBroadcastSubgroupConfigurationRequirement
deriving DecidableEq, Repr

/-- A `CodecInfo`, as far as the broadcast settings read it. `none` is a
transport other than LE audio. -/
structure BroadcastCodecInfo where
  id : CodecId
  transport : Option LeAudioTransport
deriving DecidableEq, Repr

/-- More of the AIDL: the bit of the front centre, and the values numbered 0,
which the maps give for a missing key. -/
structure BroadcastConstants where
  frontCenter : BitVec 32
  frequency0 : SamplingFrequency
  duration0 : FrameDuration

/-- Where the behaviour is undefined. -/
inductive BroadcastFault where
  | nullWrite
  | outOfRange
deriving DecidableEq, Repr

/-! ## The settings -/

def sampling_freq_map : List (Int × SamplingFrequency) := [(16000, .hz16000), (48000, .hz48000), (96000, .hz96000)]

def frame_duration_map : List (Int × FrameDuration) := [(7500, .us7500), (10000, .us10000)]

/-- `v[0]`. -/
def first {α : Type} : List α → Except BroadcastFault α
  | [] => .error .outOfRange
  | a :: _ => .ok a

section
variable (B : BroadcastConstants)

/-- One subgroup with one BIS. -/
def defaultSetting (id : CodecId) (samplingFrequency : SamplingFrequency) (octets : Int) (frameDuration : FrameDuration) :
    LeAudioBroadcastConfigurationSetting :=
  let bis_cfg : LeAudioBisConfiguration :=
    ⟨id, [.samplingFrequency samplingFrequency, .octetsPerCodecFrame octets, .frameDuration frameDuration,
      .audioChannelAllocation B.frontCenter]⟩
  let sub_bis_cfg : LeAudioSubgroupBisConfiguration := ⟨1, bis_cfg⟩
  let sub_cfg : LeAudioBroadcastSubgroupConfiguration := ⟨[sub_bis_cfg]⟩
  ⟨1, [.twoM], [sub_cfg]⟩

/-- The loop body of `getBroadcastSettings`. -/
def broadcastSettingOf (codec_info : BroadcastCodecInfo) : Except BroadcastFault (Option LeAudioBroadcastConfigurationSetting) :=
  match codec_info.transport with
  | none => return none
  | some transport => do
    -- The octets stand in for the bit depth.
    let octets ← first transport.bitdepth
    let samplingFrequency := (sampling_freq_map.lookup (← first transport.samplingFrequencyHz)).getD B.frequency0
    let frameDuration := (frame_duration_map.lookup (← first transport.frameDurationUs)).getD B.duration0
    return some (defaultSetting B codec_info.id samplingFrequency octets frameDuration)

def getBroadcastSettings (db_codec_info : List BroadcastCodecInfo)
    (broadcast_settings : List LeAudioBroadcastConfigurationSetting) :
    Except BroadcastFault (List LeAudioBroadcastConfigurationSetting) :=
  if !broadcast_settings.isEmpty then return broadcast_settings
  else db_codec_info.filterMapM (broadcastSettingOf B)

end

/-! ## The search -/

/-- A pointer to the caller's object, or null. -/
inductive OutPointer where
  | null | object
deriving DecidableEq, Repr

/-- `*_aidl_return = value`. -/
def OutPointer.write (value : LeAudioBroadcastConfigurationSetting) :
    OutPointer → Except BroadcastFault LeAudioBroadcastConfigurationSetting
  | null => .error .nullWrite
  | object => .ok value

namespace LeAudioOffloadAudioProvider
variable (K : AidlConstants) (p : LeAudioOffloadAudioProvider)

def isMatchedBISConfiguration (bis_cfg : LeAudioBisConfiguration) (capabilities : LeAudioDeviceCapabilities) : Bool :=
  if !p.isMatchedValidCodec K bis_cfg.codecId capabilities.codecId then false
  else if !isCapabilitiesMatchedCodecConfiguration K bis_cfg.codecConfiguration capabilities.codecSpecificCapabilities
  then false
  else true

def getCapabilitiesMatchedBroadcastConfigurationSettings (setting : LeAudioBroadcastConfigurationSetting)
    (capabilities : LeAudioDeviceCapabilities) : Option LeAudioBroadcastConfigurationSetting :=
  let filter_subgroup := setting.subgroupsConfigurations.filterMap fun sub_cfg =>
    let filtered_bis_cfg := sub_cfg.bisConfigurations.filter fun bis_cfg =>
      p.isMatchedBISConfiguration K bis_cfg.bisConfiguration capabilities
    if !filtered_bis_cfg.isEmpty then some (⟨filtered_bis_cfg⟩ : LeAudioBroadcastSubgroupConfiguration) else none
  if filter_subgroup.isEmpty then none else some { setting with subgroupsConfigurations := filter_subgroup }

end LeAudioOffloadAudioProvider

/-- `filtered_settings`. -/
def restrictions (K : AidlConstants) (p : LeAudioOffloadAudioProvider)
    (broadcast_settings : List LeAudioBroadcastConfigurationSetting) (capabilities : List (Option LeAudioDeviceCapabilities)) :
    List LeAudioBroadcastConfigurationSetting :=
  broadcast_settings.flatMap fun setting => capabilities.filterMap fun capability => capability.bind fun capability =>
    p.getCapabilitiesMatchedBroadcastConfigurationSettings K setting capability

/-- The setting with the subgroups that have a required number of BISes. -/
def requirementMatched (in_requirement : LeAudioBroadcastConfigurationRequirement)
    (setting : LeAudioBroadcastConfigurationSetting) : Option LeAudioBroadcastConfigurationSetting :=
  let subgroups := setting.subgroupsConfigurations.filter fun sub_cfg =>
    in_requirement.subgroupConfigurationRequirements.any fun sub_req =>
      sub_req.bisNumPerSubgroup == sub_cfg.bisConfigurations.length
  if !subgroups.isEmpty then some { setting with subgroupsConfigurations := subgroups } else none

namespace LeAudioOffloadAudioProvider
variable (K : AidlConstants) (B : BroadcastConstants) (p : LeAudioOffloadAudioProvider)

/-- The search, once there are settings: the object that `_aidl_return` was given for. -/
def searchBroadcastSettings (broadcast_settings : List LeAudioBroadcastConfigurationSetting)
    (in_remoteSinkAudioCapabilities : Option (List (Option LeAudioDeviceCapabilities)))
    (in_requirement : LeAudioBroadcastConfigurationRequirement) (object : LeAudioBroadcastConfigurationSetting) :
    Except BroadcastFault LeAudioBroadcastConfigurationSetting :=
  -- The parameter is overwritten, not the object.
  let _aidl_return := OutPointer.null
  match in_remoteSinkAudioCapabilities with
  | none => .ok object
  | some capabilities =>
    let filtered_settings := restrictions K p broadcast_settings capabilities
    match filtered_settings with
    | [] => .ok object
    | filtered_setting :: _ =>
      if in_requirement.subgroupConfigurationRequirements.isEmpty then _aidl_return.write filtered_setting
      else
        match filtered_settings.findSome? (requirementMatched in_requirement) with
        | some filtered_setting => _aidl_return.write filtered_setting
        | none => .ok object

/-- The object afterwards, and `broadcast_settings`. -/
def getLeAudioBroadcastConfiguration (db_codec_info : List BroadcastCodecInfo)
    (broadcast_settings : List LeAudioBroadcastConfigurationSetting)
    (in_remoteSinkAudioCapabilities : Option (List (Option LeAudioDeviceCapabilities)))
    (in_requirement : LeAudioBroadcastConfigurationRequirement) (object : LeAudioBroadcastConfigurationSetting) :
    Except BroadcastFault (LeAudioBroadcastConfigurationSetting × List LeAudioBroadcastConfigurationSetting) := do
  let broadcast_settings ← getBroadcastSettings B db_codec_info broadcast_settings
  let object ← p.searchBroadcastSettings K broadcast_settings in_remoteSinkAudioCapabilities in_requirement object
  return (object, broadcast_settings)

end LeAudioOffloadAudioProvider

/-! ## What is to be delivered -/

def SamplingFrequency.hz : SamplingFrequency → Option Int
  | hz8000 => some 8000
  | hz11025 => some 11025
  | hz16000 => some 16000
  | hz22050 => some 22050
  | hz24000 => some 24000
  | hz32000 => some 32000
  | hz44100 => some 44100
  | hz48000 => some 48000
  | hz88200 => some 88200
  | hz96000 => some 96000
  | hz176400 => some 176400
  | hz192000 => some 192000
  | hz384000 => some 384000
  | other _ => none

def FrameDuration.us : FrameDuration → Option Int
  | us7500 => some 7500
  | us10000 => some 10000
  | other _ => none

/-- The setting meets the requirement: one of its subgroups has a required number
of BISes, if any is required. -/
def Wanted (requirement : LeAudioBroadcastConfigurationRequirement) (setting : LeAudioBroadcastConfigurationSetting) : Prop :=
  requirement.subgroupConfigurationRequirements = [] ∨
    ∃ sub_cfg ∈ setting.subgroupsConfigurations, ∃ sub_req ∈ requirement.subgroupConfigurationRequirements,
      sub_req.bisNumPerSubgroup = sub_cfg.bisConfigurations.length

/-- The BIS configurations of a setting. -/
def LeAudioBroadcastConfigurationSetting.bisConfigurations (setting : LeAudioBroadcastConfigurationSetting) :
    List LeAudioBisConfiguration :=
  setting.subgroupsConfigurations.flatMap fun sub_cfg => sub_cfg.bisConfigurations.map (·.bisConfiguration)

/-- Frequency, duration and octets of a codec info. -/
structure Values where
  hz : Int
  us : Int
  octets : Int
deriving DecidableEq, Repr

def LeAudioTransport.values (transport : LeAudioTransport) : Option Values := do
  return ⟨← transport.samplingFrequencyHz.head?, ← transport.frameDurationUs.head?, ← transport.bitdepth.head?⟩

/-- The BIS has the frequency, the duration and the octets. -/
def HasValues (v : Values) (bis : LeAudioBisConfiguration) : Prop :=
  ∃ freq fduration, cfgTagMap bis.codecConfiguration .samplingFrequency = some (.samplingFrequency freq) ∧ freq.hz = some v.hz ∧
    cfgTagMap bis.codecConfiguration .frameDuration = some (.frameDuration fduration) ∧ fduration.us = some v.us ∧
    cfgTagMap bis.codecConfiguration .octetsPerCodecFrame = some (.octetsPerCodecFrame v.octets)

/-- Each BIS of the setting, and there is one, has the values of the codec info. -/
def Carries (transport : LeAudioTransport) (setting : LeAudioBroadcastConfigurationSetting) : Prop :=
  setting.bisConfigurations ≠ [] ∧
    ∃ v, transport.values = some v ∧ ∀ bis ∈ setting.bisConfigurations, HasValues v bis

section
variable (K : AidlConstants) (B : BroadcastConstants) (p : LeAudioOffloadAudioProvider)

/-- The call returns, and where there is a wanted restriction the object is the first. -/
def Delivers (db_codec_info : List BroadcastCodecInfo) (broadcast_settings : List LeAudioBroadcastConfigurationSetting)
    (capabilities : Option (List (Option LeAudioDeviceCapabilities))) (requirement : LeAudioBroadcastConfigurationRequirement)
    (object : LeAudioBroadcastConfigurationSetting) : Prop :=
  ∃ object' broadcast_settings',
    p.getLeAudioBroadcastConfiguration K B db_codec_info broadcast_settings capabilities requirement object =
      .ok (object', broadcast_settings') ∧
    ∀ setting, First (Wanted requirement) (restrictions K p broadcast_settings' (capabilities.getD [])) setting →
      object' = setting

/-- Each setting that is built has the values of its codec info. -/
def Carried (db_codec_info : List BroadcastCodecInfo) : Prop :=
  ∃ built, getBroadcastSettings B db_codec_info [] = .ok built ∧
    List.Forall₂ Carries (db_codec_info.filterMap (·.transport)) built

/-! ## Nothing is delivered -/

theorem requirementMatched_eq_none_iff {requirement : LeAudioBroadcastConfigurationRequirement}
    (hreq : requirement.subgroupConfigurationRequirements ≠ []) (setting : LeAudioBroadcastConfigurationSetting) :
    requirementMatched requirement setting = none ↔ ¬ Wanted requirement setting := by
  rw [Wanted, or_iff_right hreq]
  simp [requirementMatched]

/-- The search returns only where nothing is wanted: the pointer is null. -/
theorem searchBroadcastSettings_ok_iff (settings : List LeAudioBroadcastConfigurationSetting)
    (capabilities : Option (List (Option LeAudioDeviceCapabilities))) (requirement : LeAudioBroadcastConfigurationRequirement)
    (object object' : LeAudioBroadcastConfigurationSetting) :
    p.searchBroadcastSettings K settings capabilities requirement object = .ok object' ↔
      object = object' ∧ ∀ setting ∈ restrictions K p settings (capabilities.getD []), ¬ Wanted requirement setting := by
  unfold LeAudioOffloadAudioProvider.searchBroadcastSettings
  cases capabilities with
  | none =>
    have hnil : restrictions K p settings [] = [] := by simp [restrictions]
    simp [hnil]
  | some capabilities =>
    simp only [Option.getD_some]
    cases restrictions K p settings capabilities with
    | nil => simp
    | cons restricted rest =>
      by_cases hreq : requirement.subgroupConfigurationRequirements = []
      · have hwanted : Wanted requirement restricted := .inl hreq
        simp [hreq, OutPointer.write, hwanted]
      · simp only [List.isEmpty_iff, hreq, if_false]
        have hnone := List.findSome?_eq_none_iff (p := requirementMatched requirement) (l := restricted :: rest)
        simp only [requirementMatched_eq_none_iff hreq] at hnone
        cases hfound : (restricted :: rest).findSome? (requirementMatched requirement) with
        | none =>
          rw [← hnone, hfound]
          simp
        | some found =>
          rw [← hnone, hfound]
          simp [OutPointer.write]

/-- The object is left as it is wherever the call returns. -/
theorem getLeAudioBroadcastConfiguration_ok_iff (db_codec_info : List BroadcastCodecInfo)
    (broadcast_settings : List LeAudioBroadcastConfigurationSetting)
    (capabilities : Option (List (Option LeAudioDeviceCapabilities))) (requirement : LeAudioBroadcastConfigurationRequirement)
    (object object' : LeAudioBroadcastConfigurationSetting) (settings : List LeAudioBroadcastConfigurationSetting) :
    p.getLeAudioBroadcastConfiguration K B db_codec_info broadcast_settings capabilities requirement object =
        .ok (object', settings) ↔
      getBroadcastSettings B db_codec_info broadcast_settings = .ok settings ∧ object = object' ∧
        ∀ setting ∈ restrictions K p settings (capabilities.getD []), ¬ Wanted requirement setting := by
  rw [← searchBroadcastSettings_ok_iff]
  unfold LeAudioOffloadAudioProvider.getLeAudioBroadcastConfiguration
  cases getBroadcastSettings B db_codec_info broadcast_settings with
  | error fault => simp [bind, Except.bind]
  | ok loaded =>
    simp only [bind, Except.bind, Except.ok.injEq]
    constructor
    · intro h
      cases hsearch : p.searchBroadcastSettings K loaded capabilities requirement object with
      | error fault =>
        rw [hsearch] at h
        cases h
      | ok found =>
        rw [hsearch] at h
        cases h
        exact ⟨rfl, hsearch⟩
    · rintro ⟨rfl, hsearch⟩
      rw [hsearch]
      rfl

theorem delivers_iff (db_codec_info : List BroadcastCodecInfo)
    (broadcast_settings : List LeAudioBroadcastConfigurationSetting)
    (capabilities : Option (List (Option LeAudioDeviceCapabilities))) (requirement : LeAudioBroadcastConfigurationRequirement)
    (object : LeAudioBroadcastConfigurationSetting) :
    Delivers K B p db_codec_info broadcast_settings capabilities requirement object ↔
      ∃ settings, getBroadcastSettings B db_codec_info broadcast_settings = .ok settings ∧
        ∀ setting ∈ restrictions K p settings (capabilities.getD []), ¬ Wanted requirement setting := by
  unfold Delivers
  simp only [getLeAudioBroadcastConfiguration_ok_iff]
  constructor
  · rintro ⟨object', settings, ⟨hload, -, hunwanted⟩, -⟩
    exact ⟨settings, hload, hunwanted⟩
  · rintro ⟨settings, hload, hunwanted⟩
    refine ⟨object, settings, ⟨hload, rfl, hunwanted⟩, ?_⟩
    intro setting hfirst
    obtain ⟨wanted, hmem, hwanted⟩ := Selection.exists_first_iff.1 ⟨setting, hfirst⟩
    exact absurd hwanted (hunwanted wanted hmem)

/-! ## What is loaded -/

/-- The setting for a BIS configuration. -/
def single (bis : LeAudioBisConfiguration) : LeAudioBroadcastConfigurationSetting := ⟨1, [.twoM], [⟨[⟨1, bis⟩]⟩]⟩

/-- The BIS configuration made of a codec info for LE audio that has the values. -/
def bisOf (codec_info : BroadcastCodecInfo) : Option LeAudioBisConfiguration := do
  let v ← (← codec_info.transport).values
  return ⟨codec_info.id, [.samplingFrequency ((sampling_freq_map.lookup v.hz).getD B.frequency0),
    .octetsPerCodecFrame v.octets, .frameDuration ((frame_duration_map.lookup v.us).getD B.duration0),
    .audioChannelAllocation B.frontCenter]⟩

/-- Each codec info for LE audio has the values. -/
def Readable (db_codec_info : List BroadcastCodecInfo) : Prop :=
  ∀ codec_info ∈ db_codec_info, ∀ transport, codec_info.transport = some transport → transport.values.isSome

theorem broadcastSettingOf_eq (codec_info : BroadcastCodecInfo)
    (h : ∀ transport, codec_info.transport = some transport → transport.values.isSome) :
    broadcastSettingOf B codec_info = .ok ((bisOf B codec_info).map single) := by
  obtain ⟨id, transport⟩ := codec_info
  rcases transport with _ | ⟨channelMode, frequencies, durations, octets⟩
  · rfl
  have hvalues := h _ rfl
  rcases frequencies with _ | ⟨hz, frequencies⟩
  · cases hvalues
  rcases durations with _ | ⟨us, durations⟩
  · cases hvalues
  rcases octets with _ | ⟨octets, rest⟩
  · cases hvalues
  rfl

theorem isSome_of_broadcastSettingOf {codec_info : BroadcastCodecInfo} {setting : Option LeAudioBroadcastConfigurationSetting}
    (h : broadcastSettingOf B codec_info = .ok setting) {transport : LeAudioTransport}
    (ht : codec_info.transport = some transport) : transport.values.isSome := by
  obtain ⟨id, transport'⟩ := codec_info
  cases ht
  obtain ⟨channelMode, frequencies, durations, octets⟩ := transport
  rcases octets with _ | ⟨octets, rest⟩
  · cases h
  rcases frequencies with _ | ⟨hz, frequencies⟩
  · cases h
  rcases durations with _ | ⟨us, durations⟩
  · cases h
  rfl

/-- The settings are built of the codec infos, one for each for LE audio. -/
theorem getBroadcastSettings_ok_iff (db_codec_info : List BroadcastCodecInfo)
    (built : List LeAudioBroadcastConfigurationSetting) :
    getBroadcastSettings B db_codec_info [] = .ok built ↔
      Readable db_codec_info ∧ built = (db_codec_info.filterMap (bisOf B)).map single := by
  have hload : getBroadcastSettings B db_codec_info [] = db_codec_info.filterMapM (broadcastSettingOf B) := rfl
  have hreadable : Readable db_codec_info → db_codec_info.filterMapM (broadcastSettingOf B) =
      .ok ((db_codec_info.filterMap (bisOf B)).map single) := by
    intro h
    rw [List.map_filterMap]
    exact filterMapM_ok fun codec_info hmem => broadcastSettingOf_eq B codec_info (h codec_info hmem)
  rw [hload]
  constructor
  · intro hbuilt
    have h : Readable db_codec_info := by
      intro codec_info hmem transport ht
      obtain ⟨setting, hsetting⟩ := forall_ok_of_filterMapM hbuilt codec_info hmem
      exact isSome_of_broadcastSettingOf B hsetting ht
    have heq := hbuilt.symm.trans (hreadable h)
    injection heq with heq
    exact ⟨h, heq⟩
  · rintro ⟨h, rfl⟩
    exact hreadable h

/-! ## When it has the values -/

/-- The frequency and the duration have a row in the maps, or happen to be the
values numbered 0. -/
def Mapped (v : Values) : Prop :=
  (v.hz ∈ [16000, 48000, 96000] ∨ B.frequency0.hz = some v.hz) ∧ (v.us ∈ [7500, 10000] ∨ B.duration0.us = some v.us)

/-- Looking up a key in a table of the values that have it gives one that has it,
unless the key is missing and the default has not. -/
theorem lookup_getD_iff {α : Type} {keyOf : α → Option Int} {table : List (Int × α)}
    (h : ∀ row ∈ table, keyOf row.2 = some row.1) (k : Int) (default : α) :
    keyOf ((table.lookup k).getD default) = some k ↔ k ∈ table.map (·.1) ∨ keyOf default = some k := by
  induction table with
  | nil => simp
  | cons row table ih =>
    rw [List.forall_mem_cons] at h
    rw [List.lookup_cons, List.map_cons, List.mem_cons, or_assoc]
    by_cases hk : k = row.1
    · subst hk
      simp [h.1]
    · rw [beq_false_of_ne hk, ih h.2]
      simp [hk]

theorem sampling_freq_map_hz_iff (hz : Int) :
    ((sampling_freq_map.lookup hz).getD B.frequency0).hz = some hz ↔
      hz ∈ [16000, 48000, 96000] ∨ B.frequency0.hz = some hz := by
  apply lookup_getD_iff
  simp [sampling_freq_map, SamplingFrequency.hz]

theorem frame_duration_map_us_iff (us : Int) :
    ((frame_duration_map.lookup us).getD B.duration0).us = some us ↔ us ∈ [7500, 10000] ∨ B.duration0.us = some us := by
  apply lookup_getD_iff
  simp [frame_duration_map, FrameDuration.us]

/-- A setting has the values of its codec info exactly when they are listed. -/
theorem carries_iff {codec_info : BroadcastCodecInfo} {transport : LeAudioTransport} {v : Values}
    (ht : codec_info.transport = some transport) (hv : transport.values = some v) {bis : LeAudioBisConfiguration}
    (hbis : bisOf B codec_info = some bis) : Carries transport (single bis) ↔ Mapped B v := by
  have hbis' : bis = ⟨codec_info.id, [.samplingFrequency ((sampling_freq_map.lookup v.hz).getD B.frequency0),
      .octetsPerCodecFrame v.octets, .frameDuration ((frame_duration_map.lookup v.us).getD B.duration0),
      .audioChannelAllocation B.frontCenter]⟩ := by
    simp only [bisOf, ht, hv, Option.bind_eq_bind, Option.bind_some, Option.pure_def, Option.some.injEq] at hbis
    exact hbis.symm
  have hbises : (single bis).bisConfigurations = [bis] := rfl
  rw [Mapped, ← sampling_freq_map_hz_iff, ← frame_duration_map_us_iff, Carries, hbises, hbis']
  constructor
  · rintro ⟨-, v', hv', hvalues⟩
    cases hv.symm.trans hv'
    obtain ⟨freq, fduration, hfreq, hhz, hfduration, hus, -⟩ := hvalues _ (List.mem_singleton_self _)
    cases hfreq
    cases hfduration
    exact ⟨hhz, hus⟩
  · rintro ⟨hhz, hus⟩
    refine ⟨List.cons_ne_nil _ _, v, hv, ?_⟩
    intro bis' hmem
    cases List.mem_singleton.1 hmem
    exact ⟨_, _, rfl, hhz, rfl, hus, rfl⟩

/-- Each codec info for LE audio has values that the maps give. -/
def AllMapped (db_codec_info : List BroadcastCodecInfo) : Prop :=
  ∀ codec_info ∈ db_codec_info, ∀ transport, codec_info.transport = some transport →
    ∃ v, transport.values = some v ∧ Mapped B v

theorem AllMapped.readable {db_codec_info : List BroadcastCodecInfo} (h : AllMapped B db_codec_info) :
    Readable db_codec_info := by
  intro codec_info hmem transport ht
  obtain ⟨v, hv, -⟩ := h codec_info hmem transport ht
  rw [hv]
  rfl

theorem forall₂_carries_iff {db_codec_info : List BroadcastCodecInfo} (h : Readable db_codec_info) :
    List.Forall₂ Carries (db_codec_info.filterMap (·.transport)) ((db_codec_info.filterMap (bisOf B)).map single) ↔
      AllMapped B db_codec_info := by
  induction db_codec_info with
  | nil => simp [AllMapped]
  | cons codec_info db_codec_info ih =>
    rw [Readable, List.forall_mem_cons] at h
    rw [AllMapped, List.forall_mem_cons]
    cases ht : codec_info.transport with
    | none =>
      have hbis : bisOf B codec_info = none := by simp [bisOf, ht]
      rw [List.filterMap_cons_none ht, List.filterMap_cons_none hbis, ih h.2]
      simp [AllMapped]
    | some transport =>
      obtain ⟨v, hv⟩ := Option.isSome_iff_exists.1 (h.1 transport ht)
      obtain ⟨bis, hbis⟩ : ∃ bis, bisOf B codec_info = some bis := by simp [bisOf, ht, hv]
      rw [List.filterMap_cons_some ht, List.filterMap_cons_some hbis, List.map_cons, List.forall₂_cons, ih h.2,
        carries_iff B ht hv hbis]
      simp [AllMapped, hv]

theorem carried_iff (db_codec_info : List BroadcastCodecInfo) : Carried B db_codec_info ↔ AllMapped B db_codec_info := by
  unfold Carried
  simp only [getBroadcastSettings_ok_iff]
  constructor
  · rintro ⟨built, ⟨hreadable, rfl⟩, hcarries⟩
    exact (forall₂_carries_iff B hreadable).1 hcarries
  · intro h
    exact ⟨_, ⟨h.readable, rfl⟩, (forall₂_carries_iff B h.readable).2 h⟩

/-! ## When nothing is wanted -/

/-- The device matches the BIS of no codec info, or no requirement is for one BIS. -/
def Unmatched (db_codec_info : List BroadcastCodecInfo) (capabilities : Option (List (Option LeAudioDeviceCapabilities)))
    (requirement : LeAudioBroadcastConfigurationRequirement) : Prop :=
  ∀ bis ∈ db_codec_info.filterMap (bisOf B), ∀ capability, some capability ∈ capabilities.getD [] →
    p.isMatchedBISConfiguration K bis capability = true → requirement.subgroupConfigurationRequirements ≠ [] ∧
      ∀ sub_req ∈ requirement.subgroupConfigurationRequirements, sub_req.bisNumPerSubgroup ≠ 1

theorem getCapabilitiesMatched_single (bis : LeAudioBisConfiguration) (capability : LeAudioDeviceCapabilities) :
    p.getCapabilitiesMatchedBroadcastConfigurationSettings K (single bis) capability =
      if p.isMatchedBISConfiguration K bis capability then some (single bis) else none := by
  unfold LeAudioOffloadAudioProvider.getCapabilitiesMatchedBroadcastConfigurationSettings single
  cases hmatched : p.isMatchedBISConfiguration K bis capability with
  | false => simp [hmatched]
  | true => simp [hmatched]

theorem wanted_single (requirement : LeAudioBroadcastConfigurationRequirement) (bis : LeAudioBisConfiguration) :
    Wanted requirement (single bis) ↔ requirement.subgroupConfigurationRequirements = [] ∨
      ∃ sub_req ∈ requirement.subgroupConfigurationRequirements, sub_req.bisNumPerSubgroup = 1 := by
  simp [Wanted, single]

/-- A setting with one BIS is restricted to itself or dropped. -/
theorem mem_restrictions_single {bises : List LeAudioBisConfiguration} {capabilities : List (Option LeAudioDeviceCapabilities)}
    {setting : LeAudioBroadcastConfigurationSetting} :
    setting ∈ restrictions K p (bises.map single) capabilities ↔ ∃ bis ∈ bises, ∃ capability,
      some capability ∈ capabilities ∧ p.isMatchedBISConfiguration K bis capability = true ∧ single bis = setting := by
  simp only [restrictions, List.mem_flatMap, List.mem_filterMap, List.mem_map, exists_exists_and_eq_and,
    Option.bind_eq_some_iff, getCapabilitiesMatched_single, Option.ite_none_right_eq_some, Option.some.injEq]
  constructor
  · rintro ⟨bis, hbis, o, ho, capability, rfl, hmatched, hsingle⟩
    exact ⟨bis, hbis, capability, ho, hmatched, hsingle⟩
  · rintro ⟨bis, hbis, capability, hcapability, hmatched, hsingle⟩
    exact ⟨bis, hbis, some capability, hcapability, capability, rfl, hmatched, hsingle⟩

theorem unwanted_iff (db_codec_info : List BroadcastCodecInfo)
    (capabilities : Option (List (Option LeAudioDeviceCapabilities)))
    (requirement : LeAudioBroadcastConfigurationRequirement) :
    (∀ setting ∈ restrictions K p ((db_codec_info.filterMap (bisOf B)).map single) (capabilities.getD []),
        ¬ Wanted requirement setting) ↔ Unmatched K B p db_codec_info capabilities requirement := by
  have hwanted : ∀ bis, ¬ Wanted requirement (single bis) ↔ requirement.subgroupConfigurationRequirements ≠ [] ∧
      ∀ sub_req ∈ requirement.subgroupConfigurationRequirements, sub_req.bisNumPerSubgroup ≠ 1 := by
    intro bis
    rw [wanted_single, not_or]
    simp
  unfold Unmatched
  simp only [mem_restrictions_single]
  constructor
  · intro h bis hbis capability hcapability hmatched
    exact (hwanted bis).1 (h (single bis) ⟨bis, hbis, capability, hcapability, hmatched, rfl⟩)
  · rintro h setting ⟨bis, hbis, capability, hcapability, hmatched, rfl⟩
    exact (hwanted bis).2 (h bis hbis capability hcapability hmatched)

/-- The settings are those of an earlier call, or there are none. -/
def Loaded (db_codec_info : List BroadcastCodecInfo) (broadcast_settings : List LeAudioBroadcastConfigurationSetting) : Prop :=
  broadcast_settings = [] ∨ getBroadcastSettings B db_codec_info [] = .ok broadcast_settings

/-- What is loaded once stays. -/
theorem Loaded.getBroadcastSettings_eq {db_codec_info : List BroadcastCodecInfo}
    {broadcast_settings : List LeAudioBroadcastConfigurationSetting} (h : Loaded B db_codec_info broadcast_settings) :
    getBroadcastSettings B db_codec_info broadcast_settings = getBroadcastSettings B db_codec_info [] := by
  rcases h with rfl | h
  · rfl
  · cases broadcast_settings with
    | nil => rfl
    | cons setting settings => exact h.symm

/-- A call delivers what is wanted, of settings that have the values of their
codec infos, exactly when nothing is wanted and the maps give the values: a match
is written through a null pointer. -/
theorem getLeAudioBroadcastConfiguration_delivers_iff (db_codec_info : List BroadcastCodecInfo)
    (broadcast_settings : List LeAudioBroadcastConfigurationSetting) (h : Loaded B db_codec_info broadcast_settings)
    (capabilities : Option (List (Option LeAudioDeviceCapabilities))) (requirement : LeAudioBroadcastConfigurationRequirement)
    (object : LeAudioBroadcastConfigurationSetting) :
    Delivers K B p db_codec_info broadcast_settings capabilities requirement object ∧ Carried B db_codec_info ↔
      Unmatched K B p db_codec_info capabilities requirement ∧ AllMapped B db_codec_info := by
  rw [carried_iff, delivers_iff, h.getBroadcastSettings_eq]
  refine and_congr_left fun hmapped => ?_
  simp only [getBroadcastSettings_ok_iff]
  rw [← unwanted_iff]
  constructor
  · rintro ⟨settings, ⟨-, rfl⟩, hunwanted⟩
    exact hunwanted
  · intro hunwanted
    exact ⟨_, ⟨hmapped.readable, rfl⟩, hunwanted⟩

end

/-- A codec info of 48 kHz, 10 ms and 120 octets. -/
def lc3Info : BroadcastCodecInfo := ⟨.core 1, some ⟨[.stereo], [48000], [10000], [120]⟩⟩

/-- A device with the codec, of which nothing more is known. -/
def lc3Capabilities : LeAudioDeviceCapabilities := ⟨.core 1, [], none⟩

/-- Nothing is delivered where two BISes are required. -/
theorem getLeAudioBroadcastConfiguration_delivers_iff_two :
    Delivers ⟨0, fun _ => none, fun _ => none⟩ ⟨4, .other 0, .us7500⟩ ⟨fun _ => none⟩ [lc3Info] []
        (some [some lc3Capabilities]) ⟨[⟨2⟩]⟩ ⟨0, [], []⟩ ∧
      Carried ⟨4, .other 0, .us7500⟩ [lc3Info] := by
  refine (getLeAudioBroadcastConfiguration_delivers_iff _ _ _ [lc3Info] [] (.inl rfl) _ _ _).2 ⟨?_, ?_⟩
  · intro bis _ capability _ _
    exact ⟨by decide, by decide⟩
  · intro codec_info hmem transport ht
    cases List.mem_singleton.1 hmem
    cases ht
    exact ⟨⟨48000, 10000, 120⟩, rfl, .inl (by decide), .inl (by decide)⟩

/-- The match is written through the null pointer. -/
theorem getLeAudioBroadcastConfiguration_null :
    ¬ ∀ (K : AidlConstants) (B : BroadcastConstants) (p : LeAudioOffloadAudioProvider) (db_codec_info : List BroadcastCodecInfo)
        (capabilities : Option (List (Option LeAudioDeviceCapabilities)))
        (requirement : LeAudioBroadcastConfigurationRequirement) (object : LeAudioBroadcastConfigurationSetting),
      Delivers K B p db_codec_info [] capabilities requirement object ∧ Carried B db_codec_info := by
  intro h
  obtain ⟨⟨object, settings, hcall, -⟩, -⟩ := h ⟨0, fun _ => none, fun _ => none⟩ ⟨4, .other 0, .us7500⟩ ⟨fun _ => none⟩
    [lc3Info] (some [some lc3Capabilities]) ⟨[]⟩ ⟨0, [], []⟩
  have hfault : LeAudioOffloadAudioProvider.getLeAudioBroadcastConfiguration ⟨0, fun _ => none, fun _ => none⟩
      ⟨4, .other 0, .us7500⟩ ⟨fun _ => none⟩ [lc3Info] [] (some [some lc3Capabilities]) ⟨[]⟩ ⟨0, [], []⟩ =
      .error .nullWrite := rfl
  cases hfault.symm.trans hcall

end PhhTreble.LeAudio

import Mathlib.Data.List.Dedup
import PhhTreble.LeAudio.Resolver
/-!
# Codec info and codec capabilities

Both queries follow the names of the scenarios. Where a name leads nowhere the
capability is UNKNOWN, but a `CodecInfo` is listed all the same.
-/

namespace PhhTreble.LeAudio

open A2dp (ChannelMode)
open Setting (LeAudioOffloadSetting AudioLocation)

/-! ## Listing alike -/

/-- The use a scenario makes of a name. -/
inductive Role where
  | encode | decode | broadcast
deriving DecidableEq, Repr

namespace Role

def sessionType : Role → Audio.SessionType
  | encode => .leAudioHardwareOffloadEncodingDatapath
  | decode => .leAudioHardwareOffloadDecodingDatapath
  | broadcast => .leAudioBroadcastHardwareOffloadEncodingDatapath

/-- The names that the scenarios of a file use so. -/
def names (role : Role) (setting : LeAudioOffloadSetting) : List String :=
  match role with
  | encode => (getScenarios setting).map (·.encode)
  | decode => (getScenarios setting).map (·.decode)
  | broadcast => (getScenarios setting).filterMap (·.broadcast)

/-- The type of the name's capability. -/
def codecType (role : Role) (d : Definitions) (name : String) : Audio.CodecType :=
  match role with
  | encode | decode => (d.getUnicastCapability name).codecType
  | broadcast => (d.getBroadcastCapability name).codecType

def codecs : Role → List Setting.CodecType
  | encode | decode => unicastCodecs
  | broadcast => broadcastCodecs

end Role

def locationMode : AudioLocation → ChannelMode
  | .mono => .mono
  | .stereo => .stereo
  | .unknown => .unknown

/-- The info has what the name resolves to; the octets are its bit depth. -/
def Shows (setting : LeAudioOffloadSetting) (name : String) (info : CodecInfo) : Prop :=
  ∃ codec strategy, Resolves setting name codec strategy ∧
    info.transport = some ⟨[locationMode strategy.audioLocation], [codec.samplingFrequency], [codec.frameDurationUs],
      [codec.octetsPerCodecFrame]⟩

/-- Each session type has an info for each name with a capability, and no other. -/
def ListsAlike (setting : LeAudioOffloadSetting) (session_codecs : List (Audio.SessionType × List CodecInfo)) : Prop :=
  ∀ role : Role, ∃ infos, session_codecs.lookup role.sessionType = some infos ∧
    ∃ names : List String, names.Nodup ∧
      (∀ name, name ∈ names ↔ name ∈ role.names setting ∧ role.codecType (.load setting) name ≠ .unknown) ∧
      List.Forall₂ (Shows setting) names infos

/-- The provider after some queries for codec info. -/
def CodecsProvider.informed (setting : LeAudioOffloadSetting) (n : Nat) : CodecsProvider :=
  (fun p => p.next (some setting) .getLeAudioCodecInfo)^[n] .init

/-! ## What is listed -/

section
variable {setting : LeAudioOffloadSetting}

theorem CodecsProvider.informed_informs (h : (Definitions.load setting).isIncomplete = false) (n : Nat) :
    (CodecsProvider.informed setting n).Informs setting := by
  induction n with
  | zero => exact Informs.init
  | succ n ih =>
    rw [informed, Function.iterate_succ_apply']
    exact (ih.codecInfo h).2

theorem mem_nameSet {names : List String} {name : String} : name ∈ nameSet names ↔ name ∈ names := by
  simp [nameSet]

theorem nodup_nameSet (names : List String) : (nameSet names).Nodup :=
  ((names.dedup.perm_insertionSort (· ≤ ·)).nodup_iff).2 names.nodup_dedup

theorem sessionCodecs_lookup (setting : LeAudioOffloadSetting) (role : Role) :
    (sessionCodecs (.full setting)).lookup role.sessionType =
      some ((nameSet (role.names setting)).map (configCodecInfo (.full setting))) := by
  cases role <;> rfl

/-- A capability is UNKNOWN where the name does not resolve. -/
theorem Role.codecType_ne_unknown_iff (role : Role) (name : String) :
    role.codecType (.full setting) name ≠ .unknown ↔ Resolvable setting role.codecs (some name) := by
  cases role with
  | encode => exact not_iff_comm.1 (getUnicastCapability_agrees setting name).unknown_iff.symm
  | decode => exact not_iff_comm.1 (getUnicastCapability_agrees setting name).unknown_iff.symm
  | broadcast => exact not_iff_comm.1 (getBroadcastCapability_agrees setting name).unknown_iff.symm

theorem channelModeOf_of_legal {strategy : StrategyConfiguration} (h : Legal strategy) :
    channelModeOf strategy = locationMode strategy.audioLocation := by
  cases h <;> rfl

/-- A strategy that a name resolves to is legal. -/
theorem Resolves.legal {name : String} {codec : CodecConfiguration} {strategy : StrategyConfiguration}
    (h : Resolves setting name codec strategy) : Legal strategy := by
  obtain ⟨configuration, -, -, element, -, hdefines⟩ := h.configuration
  exact hdefines.2

theorem Resolves.shows {name : String} {codec : CodecConfiguration} {strategy : StrategyConfiguration}
    (h : Resolves setting name codec strategy) : Shows setting name (configCodecInfo (.full setting) name) := by
  refine ⟨codec, strategy, h, ?_⟩
  have hlookup := (Definitions.lookupName_full_iff setting name codec strategy).2 h
  rw [Definitions.lookupName, if_neg h.valid, Option.bind_eq_some_iff] at hlookup
  obtain ⟨configuration, hconfiguration, hresolve⟩ := hlookup
  simp [configCodecInfo, hconfiguration, codecInfoOf, hresolve, channelModeOf_of_legal h.legal]

end

/-- Codec info and capabilities resolve alike exactly when every name that the
scenarios use resolves for its role. -/
theorem codecInfo_alike_iff (setting : LeAudioOffloadSetting) (h : HasEveryKind setting) (n : Nat) :
    (∃ session_codecs, ((CodecsProvider.informed setting n).query (some setting) .getLeAudioCodecInfo).1 =
      .codecInfo session_codecs ∧ ListsAlike setting session_codecs) ↔
      ∀ role : Role, ∀ name ∈ role.names setting, Resolvable setting role.codecs (some name) := by
  have hfull := (Definitions.isIncomplete_full_iff setting).2 h
  have hload := (Definitions.isIncomplete_load setting).trans hfull
  rw [((CodecsProvider.informed_informs hload n).codecInfo hload).1]
  simp only [Answer.codecInfo.injEq, exists_eq_left', ListsAlike, Definitions.load_eq_full hfull, sessionCodecs_lookup,
    Option.some.injEq, Role.codecType_ne_unknown_iff]
  refine forall_congr' fun role => ?_
  constructor
  · rintro ⟨names, hnodup, hmem, hshows⟩ name hname
    -- As many names are listed as are used.
    have hlength := hshows.length_eq
    rw [List.length_map] at hlength
    have hsub : names ⊆ nameSet (role.names setting) := fun m hm => mem_nameSet.2 ((hmem m).1 hm).1
    have hperm := (List.subperm_of_subset hnodup hsub).perm_of_length_le hlength.symm.le
    exact ((hmem name).1 (hperm.mem_iff.2 (mem_nameSet.2 hname))).2
  · intro hall
    refine ⟨nameSet (role.names setting), nodup_nameSet _, fun name => ?_, ?_⟩
    · rw [mem_nameSet]
      exact ⟨fun hname => ⟨hname, hall name hname⟩, fun hname => hname.1⟩
    · rw [List.forall₂_map_right_iff, List.forall₂_same]
      intro name hname
      obtain ⟨codec, strategy, hresolves, -⟩ := (resolvable_some_iff _ _).1 (hall name (mem_nameSet.1 hname))
      exact hresolves.shows

/-- Both names of the scenario resolve. -/
theorem codecInfo_alike_oneScenario :
    ∃ session_codecs, ((CodecsProvider.informed oneScenario 0).query (some oneScenario) .getLeAudioCodecInfo).1 =
      .codecInfo session_codecs ∧ ListsAlike oneScenario session_codecs := by
  have hkind : HasEveryKind oneScenario := (Definitions.isIncomplete_full_iff oneScenario).1 rfl
  refine (codecInfo_alike_iff oneScenario hkind 0).2 fun role name hname => ?_
  rw [← Role.codecType_ne_unknown_iff]
  cases role with
  | encode =>
    cases List.mem_singleton.1 hname
    decide
  | decode =>
    cases List.mem_singleton.1 hname
    decide
  | broadcast => cases hname

/-- A scenario that is not for decoding, as the comments of the file have it. -/
def encodeOnly : LeAudioOffloadSetting :=
  { oneScenario with scenarioList := [[⟨some "OneChanStereo_16_1", some "invalid", none⟩]] }

/-- For its decode name there is no capability, but a codec info. -/
theorem codecInfo_lists_invalid :
    ¬ ∀ setting : LeAudioOffloadSetting, HasEveryKind setting → ∀ n : Nat, ∃ session_codecs,
      ((CodecsProvider.informed setting n).query (some setting) .getLeAudioCodecInfo).1 = .codecInfo session_codecs ∧
        ListsAlike setting session_codecs := by
  intro h
  have hkind : HasEveryKind encodeOnly := (Definitions.isIncomplete_full_iff encodeOnly).1 rfl
  obtain ⟨session_codecs, hanswer, halike⟩ := h encodeOnly hkind 0
  obtain ⟨infos, hinfos, names, -, hmem, hshows⟩ := halike .decode
  have hnames : names = [] := by
    rw [List.eq_nil_iff_forall_not_mem]
    intro name hname
    obtain ⟨hused, hknown⟩ := (hmem name).1 hname
    cases List.mem_singleton.1 hused
    exact hknown rfl
  have hlisted : session_codecs.lookup Role.decode.sessionType = some [.default] := by
    cases hanswer
    rfl
  cases hlisted.symm.trans hinfos
  cases hnames
  cases hshows

end PhhTreble.LeAudio

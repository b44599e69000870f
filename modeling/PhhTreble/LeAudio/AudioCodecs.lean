import Mathlib.Data.List.Dedup
import PhhTreble.LeAudio.CodecsProvider
/-!
# The LE audio offload queries of BluetoothAudioCodecs

They keep what `BluetoothLeAudioCodecsProvider` answers in maps of their own.
-/

namespace PhhTreble.LeAudio

open Setting (LeAudioOffloadSetting)

/-- The sessions the queries are for. -/
def isLeAudioOffloadSession : Audio.SessionType → Bool
  | .leAudioHardwareOffloadEncodingDatapath | .leAudioHardwareOffloadDecodingDatapath
  | .leAudioBroadcastHardwareOffloadEncodingDatapath => true
  | _ => false

/-- The variables of `BluetoothAudioCodecs.cpp`, and the provider. -/
structure AudioCodecs where
  kDefaultOffloadLeAudioCapabilities : List LeAudioCodecCapabilitiesSetting
  kDefaultOffloadLeAudioCodecInfoMap : List (Audio.SessionType × List CodecInfo)
  provider : CodecsProvider
deriving DecidableEq, Repr

namespace AudioCodecs

/-- After process start. -/
def init : AudioCodecs := ⟨[], [], .init⟩

def getLeAudioOffloadCodecCapabilities (file : Option LeAudioOffloadSetting) (c : AudioCodecs)
    (session_type : Audio.SessionType) : List LeAudioCodecCapabilitiesSetting × AudioCodecs :=
  if !isLeAudioOffloadSession session_type then ([], c)
  else
    let c :=
      if c.kDefaultOffloadLeAudioCapabilities.isEmpty then
        let le_audio_offload_setting := c.provider.parseFromLeAudioOffloadSettingFile file
        let (capabilities, provider) := c.provider.getLeAudioCodecCapabilities le_audio_offload_setting
        { c with kDefaultOffloadLeAudioCapabilities := capabilities, provider := provider }
      else c
    (c.kDefaultOffloadLeAudioCapabilities, c)

def getLeAudioOffloadCodecInfo (file : Option LeAudioOffloadSetting) (c : AudioCodecs) (session_type : Audio.SessionType) :
    List CodecInfo × AudioCodecs :=
  if !isLeAudioOffloadSession session_type then ([], c)
  else
    let c :=
      if c.kDefaultOffloadLeAudioCodecInfoMap.isEmpty then
        let le_audio_offload_setting := c.provider.parseFromLeAudioOffloadSettingFile file
        -- `auto` declares a variable of the block, by the same name as the static one.
        let (_kDefaultOffloadLeAudioCodecInfoMap, provider) := c.provider.getLeAudioCodecInfo le_audio_offload_setting
        { c with provider := provider }
      else c
    match c.kDefaultOffloadLeAudioCodecInfoMap.lookup session_type with
    | none => ([], c)
    | some codec_info => (codec_info, c)

/-! ## Calls -/

inductive Call where
  | getLeAudioOffloadCodecCapabilities (session_type : Audio.SessionType)
  | getLeAudioOffloadCodecInfo (session_type : Audio.SessionType)
deriving DecidableEq, Repr

def next (file : Option LeAudioOffloadSetting) (c : AudioCodecs) : Call → AudioCodecs
  | .getLeAudioOffloadCodecCapabilities session_type => (c.getLeAudioOffloadCodecCapabilities file session_type).2
  | .getLeAudioOffloadCodecInfo session_type => (c.getLeAudioOffloadCodecInfo file session_type).2

/-- What the provider yields for the session from the file. -/
def yielded (file : Option LeAudioOffloadSetting) (session_type : Audio.SessionType) : List CodecInfo :=
  ((CodecsProvider.init.getLeAudioCodecInfo (CodecsProvider.init.parseFromLeAudioOffloadSettingFile file)).1.lookup
    session_type).getD []

/-- A query for the codec info of an LE audio session is answered with what the
provider yields. -/
def Answers (file : Option LeAudioOffloadSetting) (c : AudioCodecs) : Call → Prop
  | .getLeAudioOffloadCodecCapabilities _ => True
  | .getLeAudioOffloadCodecInfo session_type =>
    isLeAudioOffloadSession session_type = true → (c.getLeAudioOffloadCodecInfo file session_type).1 = yielded file session_type

/-! ## The map stays empty -/

/-- Nothing is ever stored in the map of the codec info. -/
def NoInfo (c : AudioCodecs) : Prop := c.kDefaultOffloadLeAudioCodecInfoMap = []

theorem NoInfo.init : init.NoInfo := rfl

theorem NoInfo.capabilities {c : AudioCodecs} (h : c.NoInfo) (file : Option LeAudioOffloadSetting)
    (session_type : Audio.SessionType) : (c.getLeAudioOffloadCodecCapabilities file session_type).2.NoInfo := by
  unfold getLeAudioOffloadCodecCapabilities
  split
  · exact h
  · simp only
    split
    · exact h
    · exact h

theorem NoInfo.codecInfo {c : AudioCodecs} (h : c.NoInfo) (file : Option LeAudioOffloadSetting)
    (session_type : Audio.SessionType) : (c.getLeAudioOffloadCodecInfo file session_type).1 = [] ∧
      (c.getLeAudioOffloadCodecInfo file session_type).2.NoInfo := by
  obtain ⟨capabilities, infoMap, provider⟩ := c
  have hnil : infoMap = [] := h
  subst hnil
  unfold getLeAudioOffloadCodecInfo
  split
  · exact ⟨rfl, rfl⟩
  · exact ⟨rfl, rfl⟩

theorem NoInfo.next {file : Option LeAudioOffloadSetting} {c : AudioCodecs} (h : c.NoInfo) (call : Call) :
    (c.next file call).NoInfo := by
  cases call with
  | getLeAudioOffloadCodecCapabilities session_type => exact h.capabilities file session_type
  | getLeAudioOffloadCodecInfo session_type => exact (h.codecInfo file session_type).2

end AudioCodecs

/-! ## When there is nothing to store -/

theorem load_supported_scenarios (setting : LeAudioOffloadSetting) :
    (Definitions.load setting).supported_scenarios_ = getScenarios setting := by
  unfold Definitions.load
  simp only
  split
  · rfl
  · split
    · rfl
    · split <;> rfl

theorem nameSet_eq_nil_iff (names : List String) : nameSet names = [] ↔ names = [] := by
  constructor
  · intro h
    by_contra hne
    obtain ⟨name, hmem⟩ := List.exists_mem_of_ne_nil _ hne
    have hset : name ∈ nameSet names := by simpa [nameSet] using hmem
    rw [h] at hset
    cases hset
  · rintro rfl
    rfl

/-- No scenario of the file that counts names a broadcast. -/
def NoBroadcast (setting : LeAudioOffloadSetting) : Prop := ∀ scenario ∈ getScenarios setting, scenario.broadcast = none

namespace AudioCodecs

theorem yielded_of_not_loads {file : Option LeAudioOffloadSetting} (h : ¬ Loads file) (session_type : Audio.SessionType) :
    yielded file session_type = [] := by
  have hempty : (CodecsProvider.init.getLeAudioCodecInfo (CodecsProvider.init.parseFromLeAudioOffloadSettingFile file)).1 =
      [] := Answer.codecInfo.inj (CodecsProvider.Empty.init.codecInfo h).1
  rw [yielded, hempty]
  rfl

theorem yielded_of_loads {setting : LeAudioOffloadSetting} (h : (Definitions.load setting).isIncomplete = false)
    (session_type : Audio.SessionType) :
    yielded (some setting) session_type = ((sessionCodecs (.load setting)).lookup session_type).getD [] := by
  have hinfo : (CodecsProvider.init.getLeAudioCodecInfo
      (CodecsProvider.init.parseFromLeAudioOffloadSettingFile (some setting))).1 = sessionCodecs (.load setting) :=
    Answer.codecInfo.inj (CodecsProvider.Informs.init.codecInfo h).1
  rw [yielded, hinfo]

/-- Of a file that loads, the provider yields nothing only for broadcasts, when
there are none: each scenario has an encode and a decode name. -/
theorem yielded_eq_nil_iff {setting : LeAudioOffloadSetting} (h : (Definitions.load setting).isIncomplete = false)
    {session_type : Audio.SessionType} (hs : isLeAudioOffloadSession session_type = true) :
    yielded (some setting) session_type = [] ↔
      session_type = .leAudioBroadcastHardwareOffloadEncodingDatapath ∧ NoBroadcast setting := by
  have hscenarios : getScenarios setting ≠ [] := by
    intro hnil
    rw [Definitions.isIncomplete, load_supported_scenarios, hnil] at h
    cases h
  rw [yielded_of_loads h, sessionCodecs]
  simp only [load_supported_scenarios]
  cases session_type with
  | leAudioHardwareOffloadEncodingDatapath => simp [nameSet_eq_nil_iff, hscenarios]
  | leAudioHardwareOffloadDecodingDatapath =>
    change (nameSet ((getScenarios setting).map (·.decode))).map _ = [] ↔ _
    simp [nameSet_eq_nil_iff, hscenarios]
  | leAudioBroadcastHardwareOffloadEncodingDatapath =>
    change (nameSet ((getScenarios setting).filterMap (·.broadcast))).map _ = [] ↔ _
    simp [nameSet_eq_nil_iff, NoBroadcast]
  | _ => cases hs

/-! ## Runs -/

/-- The provider has nothing to yield for what the call asks. -/
def AsksNothing (file : Option LeAudioOffloadSetting) : Call → Prop
  | .getLeAudioOffloadCodecCapabilities _ => True
  | .getLeAudioOffloadCodecInfo session_type => isLeAudioOffloadSession session_type = true →
    ∀ setting, file = some setting → (Definitions.load setting).isIncomplete = false →
      session_type = .leAudioBroadcastHardwareOffloadEncodingDatapath ∧ NoBroadcast setting

theorem answers_iff {file : Option LeAudioOffloadSetting} {c : AudioCodecs} (h : c.NoInfo) (call : Call) :
    c.Answers file call ↔ AsksNothing file call := by
  cases call with
  | getLeAudioOffloadCodecCapabilities session_type => exact Iff.rfl
  | getLeAudioOffloadCodecInfo session_type =>
    refine imp_congr_right fun hs => ?_
    rw [(h.codecInfo file session_type).1, eq_comm]
    by_cases hf : Loads file
    · obtain ⟨setting, rfl, hl⟩ := hf
      rw [yielded_eq_nil_iff hl hs]
      simp [hl]
    · refine iff_of_true (yielded_of_not_loads hf session_type) ?_
      intro setting hfile hl
      exact absurd ⟨setting, hfile, hl⟩ hf

/-- In a run of calls every query for codec info is answered with what the
provider yields exactly when the file does not load, or each is for broadcasts
and the file names none. -/
theorem getLeAudioOffloadCodecInfo_run_iff (file : Option LeAudioOffloadSetting) (calls : List Call) :
    Runs.Along (next file) (Answers file) init calls ↔ ∀ call ∈ calls, AsksNothing file call := by
  rw [Runs.along_congr (J := NoInfo) (fun c call hc => hc.next call) (fun c call hc => answers_iff hc call) NoInfo.init]
  exact Runs.along_forall_iff

/-- The codec info of one scenario is never answered. -/
theorem getLeAudioOffloadCodecInfo_lost :
    ¬ ∀ (file : Option LeAudioOffloadSetting) (calls : List Call), Runs.Along (next file) (Answers file) init calls := by
  intro h
  have hanswer := (h (some oneScenario) [.getLeAudioOffloadCodecInfo .leAudioHardwareOffloadEncodingDatapath]).1 rfl
  cases hanswer

end AudioCodecs

end PhhTreble.LeAudio

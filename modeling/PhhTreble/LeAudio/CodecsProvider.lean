import PhhTreble.Lib.Runs
import PhhTreble.LeAudio.Settings
/-!
# BluetoothLeAudioCodecsProvider

Its caches are shared by two queries, for codec info and for codec
capabilities. Each reads the settings file first. `file` is what the file
contains, `none` when it cannot be read.
-/

namespace PhhTreble.LeAudio

open Setting (LeAudioOffloadSetting)

/-! ## The provider -/

structure CodecsProvider where
  leAudioCodecCapabilities : List LeAudioCodecCapabilitiesSetting
  isInvalidFileContent : Bool
  definitions : Definitions
  session_codecs_map_ : List (Audio.SessionType × List CodecInfo)
deriving DecidableEq, Repr

namespace CodecsProvider

/-- After process start. -/
def init : CodecsProvider := ⟨[], false, .empty, []⟩

def parseFromLeAudioOffloadSettingFile (file : Option LeAudioOffloadSetting) (p : CodecsProvider) :
    Option LeAudioOffloadSetting :=
  if !p.leAudioCodecCapabilities.isEmpty || p.isInvalidFileContent then none else file

def clearLeAudioCodecCapabilities (p : CodecsProvider) : CodecsProvider := ⟨[], p.isInvalidFileContent, .empty, []⟩

def loadConfigurationToMap (p : CodecsProvider) (setting : LeAudioOffloadSetting) : CodecsProvider :=
  { p.clearLeAudioCodecCapabilities with definitions := .load setting }

def getLeAudioCodecInfo (p : CodecsProvider) (le_audio_offload_setting : Option LeAudioOffloadSetting) :
    List (Audio.SessionType × List CodecInfo) × CodecsProvider :=
  if !p.session_codecs_map_.isEmpty then (p.session_codecs_map_, p)
  else
    let p := { p with isInvalidFileContent := true }
    match le_audio_offload_setting with
    | none => ([], p)
    | some setting =>
      let p := p.loadConfigurationToMap setting
      if p.definitions.isIncomplete then ([], p)
      else
        let p := { p with session_codecs_map_ := sessionCodecs p.definitions }
        let p := { p with isInvalidFileContent := p.session_codecs_map_.isEmpty }
        (p.session_codecs_map_, p)

def getLeAudioCodecCapabilities (p : CodecsProvider) (le_audio_offload_setting : Option LeAudioOffloadSetting) :
    List LeAudioCodecCapabilitiesSetting × CodecsProvider :=
  if !p.leAudioCodecCapabilities.isEmpty then (p.leAudioCodecCapabilities, p)
  else
    let p := { p with isInvalidFileContent := true }
    match le_audio_offload_setting with
    | none => ([], p)
    | some setting =>
      let p := p.loadConfigurationToMap setting
      if p.definitions.isIncomplete then ([], p)
      else
        let p := { p with leAudioCodecCapabilities := p.definitions.composeLeAudioCodecCapabilities }
        let p := { p with isInvalidFileContent := p.leAudioCodecCapabilities.isEmpty }
        (p.leAudioCodecCapabilities, p)

end CodecsProvider

/-! ## Queries -/

/-- Each after a `ParseFromLeAudioOffloadSettingFile` of its own. -/
inductive Query where
  | getLeAudioCodecInfo
  | getLeAudioCodecCapabilities
deriving DecidableEq, Repr

inductive Answer where
  | codecInfo (m : List (Audio.SessionType × List CodecInfo))
  | codecCapabilities (l : List LeAudioCodecCapabilitiesSetting)
deriving DecidableEq, Repr

namespace CodecsProvider

def query (file : Option LeAudioOffloadSetting) (p : CodecsProvider) : Query → Answer × CodecsProvider
  | .getLeAudioCodecInfo =>
    let (m, p) := p.getLeAudioCodecInfo (parseFromLeAudioOffloadSettingFile file p)
    (.codecInfo m, p)
  | .getLeAudioCodecCapabilities =>
    let (l, p) := p.getLeAudioCodecCapabilities (parseFromLeAudioOffloadSettingFile file p)
    (.codecCapabilities l, p)

def next (file : Option LeAudioOffloadSetting) (p : CodecsProvider) (q : Query) : CodecsProvider := (p.query file q).2

/-- The answer is that of a first query. -/
def AnswersAsFirst (file : Option LeAudioOffloadSetting) (p : CodecsProvider) (q : Query) : Prop :=
  (p.query file q).1 = (init.query file q).1

instance (file : Option LeAudioOffloadSetting) (p : CodecsProvider) (q : Query) : Decidable (p.AnswersAsFirst file q) :=
  inferInstanceAs (Decidable (_ = _))

end CodecsProvider

/-- The file can be read and has an element of every kind. -/
def Loads (file : Option LeAudioOffloadSetting) : Prop :=
  ∃ setting, file = some setting ∧ (Definitions.load setting).isIncomplete = false

/-- No query for codec info comes after one for codec capabilities. -/
def InfoFirst (qs : List Query) : Prop :=
  ∀ pre post, qs = pre ++ .getLeAudioCodecCapabilities :: post → Query.getLeAudioCodecInfo ∉ post

/-! ## Caches that stay empty -/

namespace CodecsProvider

/-- Nothing is cached. -/
def Empty (p : CodecsProvider) : Prop := p.leAudioCodecCapabilities = [] ∧ p.session_codecs_map_ = []

theorem parse_cases (file : Option LeAudioOffloadSetting) (p : CodecsProvider) :
    parseFromLeAudioOffloadSettingFile file p = none ∨ parseFromLeAudioOffloadSettingFile file p = file := by
  unfold parseFromLeAudioOffloadSettingFile
  split
  · exact .inl rfl
  · exact .inr rfl

/-- What is parsed of a file that does not load lacks an element. -/
theorem parse_not_loads {file : Option LeAudioOffloadSetting} (hf : ¬ Loads file) {p : CodecsProvider}
    {setting : LeAudioOffloadSetting} (hs : parseFromLeAudioOffloadSettingFile file p = some setting) :
    (Definitions.load setting).isIncomplete = true := by
  by_contra hn
  rcases parse_cases file p with h | h
  · rw [h] at hs
    cases hs
  · exact hf ⟨setting, h.symm.trans hs, Bool.eq_false_iff.2 hn⟩

theorem Empty.init : init.Empty := ⟨rfl, rfl⟩

theorem Empty.codecInfo {file : Option LeAudioOffloadSetting} (hf : ¬ Loads file) {p : CodecsProvider} (hp : p.Empty) :
    (p.query file .getLeAudioCodecInfo).1 = .codecInfo [] ∧ (p.next file .getLeAudioCodecInfo).Empty := by
  obtain ⟨hc, hm⟩ := hp
  simp only [next, query]
  unfold getLeAudioCodecInfo
  cases hs : parseFromLeAudioOffloadSettingFile file p with
  | none => simp [hm, hc, Empty]
  | some setting =>
    have hi := parse_not_loads hf hs
    simp [hm, Empty, loadConfigurationToMap, clearLeAudioCodecCapabilities, hi]

theorem Empty.codecCapabilities {file : Option LeAudioOffloadSetting} (hf : ¬ Loads file) {p : CodecsProvider}
    (hp : p.Empty) :
    (p.query file .getLeAudioCodecCapabilities).1 = .codecCapabilities [] ∧
      (p.next file .getLeAudioCodecCapabilities).Empty := by
  obtain ⟨hc, hm⟩ := hp
  simp only [next, query]
  unfold getLeAudioCodecCapabilities
  cases hs : parseFromLeAudioOffloadSettingFile file p with
  | none => simp [hm, hc, Empty]
  | some setting =>
    have hi := parse_not_loads hf hs
    simp [hc, Empty, loadConfigurationToMap, clearLeAudioCodecCapabilities, hi]

/-- A file that does not load leaves the caches empty, and so is the answer. -/
theorem Empty.query {file : Option LeAudioOffloadSetting} (hf : ¬ Loads file) {p : CodecsProvider} (hp : p.Empty)
    (q : Query) : (p.next file q).Empty ∧ p.AnswersAsFirst file q := by
  cases q with
  | getLeAudioCodecInfo =>
    obtain ⟨ha, he⟩ := hp.codecInfo hf
    exact ⟨he, ha.trans (Empty.init.codecInfo hf).1.symm⟩
  | getLeAudioCodecCapabilities =>
    obtain ⟨ha, he⟩ := hp.codecCapabilities hf
    exact ⟨he, ha.trans (Empty.init.codecCapabilities hf).1.symm⟩

theorem Empty.run {file : Option LeAudioOffloadSetting} (hf : ¬ Loads file) {p : CodecsProvider} (hp : p.Empty)
    (qs : List Query) : Runs.Along (next file) (AnswersAsFirst file) p qs := by
  induction qs generalizing p with
  | nil => exact trivial
  | cons q qs ih =>
    obtain ⟨he, ha⟩ := hp.query hf q
    exact ⟨ha, ih he⟩

/-! ## Caches that are filled -/

section
variable {setting : LeAudioOffloadSetting}

/-- No capabilities query has come yet. -/
def Informs (setting : LeAudioOffloadSetting) (p : CodecsProvider) : Prop :=
  p.leAudioCodecCapabilities = [] ∧ p.isInvalidFileContent = false ∧
    (p.session_codecs_map_ = [] ∨ p.session_codecs_map_ = sessionCodecs (.load setting))

/-- A capabilities query has come: it dropped the codec info, and the file is not
parsed again. -/
def Dropped (setting : LeAudioOffloadSetting) (p : CodecsProvider) : Prop :=
  p.leAudioCodecCapabilities = (Definitions.load setting).composeLeAudioCodecCapabilities ∧ p.session_codecs_map_ = [] ∧
    (p.leAudioCodecCapabilities = [] → p.isInvalidFileContent = true)

theorem Informs.init : Informs setting .init := ⟨rfl, rfl, .inl rfl⟩

/-- The codec info of a file that loads lists the three session types. -/
theorem sessionCodecs_ne_nil (d : Definitions) : sessionCodecs d ≠ [] := List.cons_ne_nil _ _

theorem Informs.parse {p : CodecsProvider} (hp : p.Informs setting) :
    parseFromLeAudioOffloadSettingFile (some setting) p = some setting := by
  simp [parseFromLeAudioOffloadSettingFile, hp.1, hp.2.1]

theorem Dropped.parse {p : CodecsProvider} (hp : p.Dropped setting) :
    parseFromLeAudioOffloadSettingFile (some setting) p = none := by
  unfold parseFromLeAudioOffloadSettingFile
  by_cases hc : p.leAudioCodecCapabilities = []
  · simp [hc, hp.2.2 hc]
  · simp [hc]

theorem Informs.codecInfo (hl : (Definitions.load setting).isIncomplete = false) {p : CodecsProvider}
    (hp : p.Informs setting) :
    (p.query (some setting) .getLeAudioCodecInfo).1 = .codecInfo (sessionCodecs (.load setting)) ∧
      (p.next (some setting) .getLeAudioCodecInfo).Informs setting := by
  simp only [next, query, hp.parse]
  unfold getLeAudioCodecInfo
  rcases hp.2.2 with hm | hm
  · simp [hm, loadConfigurationToMap, clearLeAudioCodecCapabilities, hl, Informs, sessionCodecs_ne_nil]
  · simp [hm, sessionCodecs_ne_nil, Informs, hp.1, hp.2.1]

theorem Informs.codecCapabilities (hl : (Definitions.load setting).isIncomplete = false) {p : CodecsProvider}
    (hp : p.Informs setting) :
    (p.query (some setting) .getLeAudioCodecCapabilities).1 =
        .codecCapabilities (Definitions.load setting).composeLeAudioCodecCapabilities ∧
      (p.next (some setting) .getLeAudioCodecCapabilities).Dropped setting := by
  simp only [next, query, hp.parse]
  unfold getLeAudioCodecCapabilities
  simp [hp.1, loadConfigurationToMap, clearLeAudioCodecCapabilities, hl, Dropped]

theorem Dropped.codecCapabilities {p : CodecsProvider} (hp : p.Dropped setting) :
    (p.query (some setting) .getLeAudioCodecCapabilities).1 =
        .codecCapabilities (Definitions.load setting).composeLeAudioCodecCapabilities ∧
      (p.next (some setting) .getLeAudioCodecCapabilities).Dropped setting := by
  simp only [next, query, hp.parse]
  unfold getLeAudioCodecCapabilities
  by_cases hc : p.leAudioCodecCapabilities = []
  · have hnil := hp.1.symm.trans hc
    simp [hc, Dropped, hnil, hp.2.1]
  · have hne : (!p.leAudioCodecCapabilities.isEmpty) = true := by simpa using hc
    simp only [hne, if_true]
    exact ⟨congrArg Answer.codecCapabilities hp.1, hp⟩

/-- The codec info is gone. -/
theorem Dropped.codecInfo {p : CodecsProvider} (hp : p.Dropped setting) :
    (p.query (some setting) .getLeAudioCodecInfo).1 = .codecInfo [] := by
  simp only [query, hp.parse]
  unfold getLeAudioCodecInfo
  simp [hp.2.1]

/-! ## Runs -/

theorem Informs.answersAsFirst (hl : (Definitions.load setting).isIncomplete = false) {p : CodecsProvider}
    (hp : p.Informs setting) (q : Query) : p.AnswersAsFirst (some setting) q := by
  cases q with
  | getLeAudioCodecInfo => exact (hp.codecInfo hl).1.trans (Informs.init.codecInfo hl).1.symm
  | getLeAudioCodecCapabilities => exact (hp.codecCapabilities hl).1.trans (Informs.init.codecCapabilities hl).1.symm

/-- After a capabilities query only such queries are answered as the first. -/
theorem Dropped.run_iff (hl : (Definitions.load setting).isIncomplete = false) {p : CodecsProvider}
    (hp : p.Dropped setting) (qs : List Query) :
    Runs.Along (next (some setting)) (AnswersAsFirst (some setting)) p qs ↔ Query.getLeAudioCodecInfo ∉ qs := by
  induction qs generalizing p with
  | nil => exact iff_of_true trivial List.not_mem_nil
  | cons q qs ih =>
    cases q with
    | getLeAudioCodecInfo =>
      refine iff_of_false ?_ fun hn => hn List.mem_cons_self
      rintro ⟨ha, -⟩
      have hinfo := hp.codecInfo.symm.trans (ha.trans (Informs.init.codecInfo hl).1)
      injection hinfo with hnil
      exact sessionCodecs_ne_nil _ hnil.symm
    | getLeAudioCodecCapabilities =>
      have ha : p.AnswersAsFirst (some setting) .getLeAudioCodecCapabilities :=
        hp.codecCapabilities.1.trans (Informs.init.codecCapabilities hl).1.symm
      rw [Runs.Along, and_iff_right ha, ih hp.codecCapabilities.2]
      simp

end

end CodecsProvider

theorem infoFirst_codecInfo (qs : List Query) : InfoFirst (.getLeAudioCodecInfo :: qs) ↔ InfoFirst qs := by
  constructor
  · rintro h pre post rfl
    exact h (.getLeAudioCodecInfo :: pre) post rfl
  · intro h pre post he
    cases pre with
    | nil => cases he
    | cons q pre =>
      cases he
      exact h pre post rfl

theorem infoFirst_codecCapabilities (qs : List Query) :
    InfoFirst (.getLeAudioCodecCapabilities :: qs) ↔ Query.getLeAudioCodecInfo ∉ qs := by
  constructor
  · intro h
    exact h [] qs rfl
  · intro h pre post he
    cases pre with
    | nil =>
      cases he
      exact h
    | cons q pre =>
      cases he
      exact fun hm => h (List.mem_append_right pre (List.mem_cons_of_mem _ hm))

theorem CodecsProvider.Informs.run_iff {setting : LeAudioOffloadSetting}
    (hl : (Definitions.load setting).isIncomplete = false) {p : CodecsProvider} (hp : p.Informs setting) (qs : List Query) :
    Runs.Along (CodecsProvider.next (some setting)) (CodecsProvider.AnswersAsFirst (some setting)) p qs ↔ InfoFirst qs := by
  induction qs generalizing p with
  | nil =>
    refine iff_of_true trivial ?_
    intro pre post he
    cases pre <;> cases he
  | cons q qs ih =>
    rw [Runs.Along, and_iff_right (hp.answersAsFirst hl q)]
    cases q with
    | getLeAudioCodecInfo => rw [infoFirst_codecInfo, ih (hp.codecInfo hl).2]
    | getLeAudioCodecCapabilities => rw [infoFirst_codecCapabilities, (hp.codecCapabilities hl).2.run_iff hl]

/-- In a run of queries each is answered as if it were the first exactly when
the file does not load, or no query for codec info comes after one for codec
capabilities. -/
theorem answers_run_iff (file : Option LeAudioOffloadSetting) (qs : List Query) :
    Runs.Along (CodecsProvider.next file) (CodecsProvider.AnswersAsFirst file) .init qs ↔ ¬ Loads file ∨ InfoFirst qs := by
  by_cases hf : Loads file
  · obtain ⟨setting, rfl, hl⟩ := hf
    rw [CodecsProvider.Informs.init.run_iff hl]
    simp [Loads, hl]
  · exact iff_of_true (CodecsProvider.Empty.init.run hf qs) (.inl hf)

/-- One scenario with its definitions. -/
def oneScenario : LeAudioOffloadSetting where
  scenarioList := [[⟨some "OneChanStereo_16_1", some "OneChanStereo_16_1", none⟩]]
  configurationList := [[⟨some "OneChanStereo_16_1", some "LC3_16k_1", some "STEREO_ONE_CIS_PER_DEVICE"⟩]]
  codecConfigurationList := [[⟨some "LC3_16k_1", some .lc3, some 16000, some 7500, some 30⟩]]
  strategyConfigurationList := [[⟨some "STEREO_ONE_CIS_PER_DEVICE", some .stereo, some 2, some 1⟩]]

/-- The codec info is gone once the capabilities were asked for. -/
theorem answers_run_lost :
    ¬ Runs.Along (CodecsProvider.next (some oneScenario)) (CodecsProvider.AnswersAsFirst (some oneScenario)) .init
      [.getLeAudioCodecCapabilities, .getLeAudioCodecInfo] := by
  rintro ⟨-, h, -⟩
  cases h

end PhhTreble.LeAudio

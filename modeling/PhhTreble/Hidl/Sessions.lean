import PhhTreble.Lib.Runs
import PhhTreble.Hidl.Bridge
import PhhTreble.Hidl.Config
/-!
# The HIDL sessions

`BluetoothAudioSession` of HIDL 2.0 and `BluetoothAudioSession_2_1`, which wraps
it, when there is no AIDL service.
-/

namespace PhhTreble.Hidl

open Audio (Host DataMQDesc Notification)

/-! ## BluetoothAudioSession -/

/-- `session_type_` is a parameter of the operations. It may be a cast type of
2.1, which no comparison below is true of. -/
structure Session where
  stack_iface_ : Option Host
  mDataMQ : Option DataMQDesc
  audio_config_ : AudioConfiguration_2_0
  observers_ : List Nat
deriving DecidableEq, Repr

def kInvalidCodecConfiguration : CodecConfiguration := ⟨.unknown, 0, 0xffff, false, .zero⟩

def kInvalidSoftwareAudioConfiguration : AudioConfiguration_2_0 := .pcmConfig ⟨.rateUnknown, .unknown, .bitsUnknown⟩

def kInvalidOffloadAudioConfiguration : AudioConfiguration_2_0 := .codecConfig kInvalidCodecConfiguration

namespace Session

/-- The constructor, with the observers that registered before the run. -/
def init (observers_ : List Nat) : Session := ⟨none, none, .pcmConfig ⟨.rateUnknown, .unknown, .bitsUnknown⟩, observers_⟩

def isSessionReady (t : SessionType) (s : Session) : Bool :=
  let dataMQ_valid := t == .a2dpHardwareOffloadDatapath || s.mDataMQ.any (·.valid)
  s.stack_iface_.isSome && dataMQ_valid

def updateDataPath (s : Session) (dataMQ : Option DataMQDesc) : Bool × Session :=
  match dataMQ with
  | none => (true, { s with mDataMQ := none })
  | some desc => if desc.valid then (true, { s with mDataMQ := some desc }) else (false, { s with mDataMQ := none })

def updateAudioConfig (t : SessionType) (s : Session) (audio_config : AudioConfiguration_2_0) : Bool × Session :=
  let is_software_session := t == .a2dpSoftwareEncodingDatapath || t == .hearingAidSoftwareEncodingDatapath
  let is_offload_session := t == .a2dpHardwareOffloadDatapath
  let (is_software_audio_config, is_offload_audio_config) :=
    match audio_config with
    | .pcmConfig _ => (is_software_session, false)
    | .codecConfig _ => (false, is_offload_session)
  if !is_software_audio_config && !is_offload_audio_config then (false, s)
  else (true, { s with audio_config_ := audio_config })

def reportSessionStatus (s : Session) : List Notification := s.observers_.map .sessionChanged

/-- The configuration of a session without one. -/
def invalidConfig (t : SessionType) : AudioConfiguration_2_0 :=
  if t = .a2dpHardwareOffloadDatapath then kInvalidOffloadAudioConfiguration else kInvalidSoftwareAudioConfiguration

def onSessionStarted (t : SessionType) (s : Session) (stack_iface : Option Host) (dataMQ : Option DataMQDesc)
    (audio_config : AudioConfiguration_2_0) : Session × List Notification :=
  match stack_iface with
  | none => (s, [])
  | some host =>
    let (accepted, s) := updateAudioConfig t s audio_config
    if !accepted then (s, []) else
    let (valid, s) := updateDataPath s dataMQ
    if !valid then ({ s with audio_config_ := invalidConfig t }, []) else
    let s := { s with stack_iface_ := some host }
    (s, reportSessionStatus s)

def onSessionEnded (t : SessionType) (s : Session) : Session × List Notification :=
  let toggled := isSessionReady t s
  let s := { s with audio_config_ := invalidConfig t, stack_iface_ := none }
  let s := (updateDataPath s none).2
  (s, if toggled then reportSessionStatus s else [])

def getAudioConfig (t : SessionType) (s : Session) : AudioConfiguration_2_0 :=
  if isSessionReady t s then s.audio_config_
  else if t = .a2dpHardwareOffloadDatapath then kInvalidOffloadAudioConfiguration
  else kInvalidSoftwareAudioConfiguration

end Session

/-! ## BluetoothAudioSession_2_1 -/

/-- `audio_session` and the members of 2.1; `raw_session_type_` is the parameter
of the operations. -/
structure Session_2_1 where
  audio_session : Session
  session_type_2_1_ : SessionType
  audio_config_2_1_ : AudioConfiguration_2_1
deriving DecidableEq, Repr

namespace SessionType

def is_2_0_session_type (t : SessionType) : Bool :=
  t == a2dpSoftwareEncodingDatapath || t == a2dpHardwareOffloadDatapath || t == hearingAidSoftwareEncodingDatapath

def is_unsupported_2_1_session_type (t : SessionType) : Bool :=
  t == leAudioHardwareOffloadEncodingDatapath || t == leAudioHardwareOffloadDecodingDatapath

end SessionType

/-- The accessor of the union; it aborts on another discriminator. -/
def AudioConfiguration_2_1.getPcmConfig : AudioConfiguration_2_1 → Option PcmParameters_2_1
  | pcmConfig c => some c
  | _ => none

/-- The configuration that a start of 2.1 gives 2.0. -/
def AudioConfiguration_2_1.toConfig_2_0 (audio_config : AudioConfiguration_2_1) : Option AudioConfiguration_2_0 :=
  match audio_config with
  | codecConfig c => some (.codecConfig c)
  | _ => do
    let tmpPcm ← audio_config.getPcmConfig
    -- `dataIntervalUs` is not passed.
    return .pcmConfig ⟨tmpPcm.sampleRate, tmpPcm.channelMode, tmpPcm.bitsPerSample⟩

/-- 2.0 gets back what was embedded. -/
@[simp] theorem AudioConfiguration_2_0.toConfig_embed (audio_config : AudioConfiguration_2_0) :
    audio_config.embed.toConfig_2_0 = some audio_config := by
  cases audio_config with
  | pcmConfig c => rfl
  | codecConfig c => rfl

namespace Session_2_1

/-- `{}`, which nothing assigns to. -/
def kInvalidSoftwareAudioConfiguration : AudioConfiguration_2_1 := .zero

def kInvalidOffloadAudioConfiguration : AudioConfiguration_2_1 := .zero

def init (t : SessionType) (observers_ : List Nat) : Session_2_1 :=
  let session_type_2_1_ := if t.is_2_0_session_type || t.is_unsupported_2_1_session_type then .unknown else t
  ⟨Session.init observers_, session_type_2_1_, .zero⟩

def getAudioConfig (t : SessionType) (s : Session_2_1) : AudioConfiguration_2_1 :=
  if s.audio_session.isSessionReady t then
    if s.session_type_2_1_ ≠ .unknown then s.audio_config_2_1_
    else match s.audio_session.getAudioConfig t with
      | .codecConfig c => .codecConfig c
      | .pcmConfig c => .pcmConfig ⟨c.sampleRate, c.channelMode, c.bitsPerSample, 0⟩
  else if s.session_type_2_1_ = .a2dpHardwareOffloadDatapath then kInvalidOffloadAudioConfiguration
  else kInvalidSoftwareAudioConfiguration

def updateAudioConfig (s : Session_2_1) (audio_config : AudioConfiguration_2_1) : Bool × Session_2_1 :=
  let is_software_session :=
    s.session_type_2_1_ == .a2dpSoftwareEncodingDatapath || s.session_type_2_1_ == .hearingAidSoftwareEncodingDatapath ||
      s.session_type_2_1_ == .leAudioSoftwareEncodingDatapath || s.session_type_2_1_ == .leAudioSoftwareDecodedDatapath
  let is_offload_a2dp_session := s.session_type_2_1_ == .a2dpHardwareOffloadDatapath
  let (is_software_audio_config, is_a2dp_offload_audio_config) :=
    match audio_config with
    | .pcmConfig _ => (is_software_session, false)
    | .codecConfig _ => (false, is_offload_a2dp_session)
    | .leAudioCodecConfig _ => (false, false)
  if !is_software_audio_config && !is_a2dp_offload_audio_config then (false, s)
  else (true, { s with audio_config_2_1_ := audio_config })

/-- `none` where it aborts. -/
def onSessionStarted (t : SessionType) (s : Session_2_1) (stack_iface : Option Host) (dataMQ : Option DataMQDesc)
    (audio_config : AudioConfiguration_2_1) : Option (Session_2_1 × List Notification) :=
  if s.session_type_2_1_ = .unknown then do
    let config ← audio_config.toConfig_2_0
    let (audio_session, notified) := s.audio_session.onSessionStarted t stack_iface dataMQ config
    return ({ s with audio_session := audio_session }, notified)
  else match stack_iface with
    | none => some (s, [])
    | some host =>
      let (accepted, s) := updateAudioConfig s audio_config
      if !accepted then some (s, []) else
      let (valid, audio_session) := s.audio_session.updateDataPath dataMQ
      let s := { s with audio_session := audio_session }
      if !valid then
        let invalid :=
          if s.session_type_2_1_ = .a2dpHardwareOffloadDatapath then kInvalidOffloadAudioConfiguration
          else kInvalidSoftwareAudioConfiguration
        some ({ s with audio_config_2_1_ := invalid }, [])
      else
        let s := { s with audio_session := { s.audio_session with stack_iface_ := some host } }
        some (s, s.audio_session.reportSessionStatus)

/-- `BluetoothAudioSession` as the wrapper shows it. -/
def inner (s : Session_2_1) (r : Session × List Notification) : Session_2_1 × List Notification :=
  ({ s with audio_session := r.1 }, r.2)

end Session_2_1

/-! ## Runs through both interfaces -/

inductive SessionEvent where
  | onSessionStarted_2_0 (stack_iface : Option Host) (dataMQ : Option DataMQDesc) (audio_config : AudioConfiguration_2_0)
  | onSessionStarted_2_1 (stack_iface : Option Host) (dataMQ : Option DataMQDesc) (audio_config : AudioConfiguration_2_1)
  | onSessionEnded

namespace Session_2_1

def step (t : SessionType) (s : Session_2_1) : SessionEvent → Option (Session_2_1 × List Notification)
  | .onSessionStarted_2_0 stack_iface dataMQ audio_config =>
    some (s.inner (s.audio_session.onSessionStarted t stack_iface dataMQ audio_config))
  | .onSessionStarted_2_1 stack_iface dataMQ audio_config => s.onSessionStarted t stack_iface dataMQ audio_config
  | .onSessionEnded => some (s.inner (s.audio_session.onSessionEnded t))

/-- No state follows an abort. -/
def next (t : SessionType) (s : Option Session_2_1) (e : SessionEvent) : Option Session_2_1 :=
  s.bind fun s => (s.step t e).map (·.1)

theorem updateAudioConfig_type (s : Session_2_1) (audio_config : AudioConfiguration_2_1) :
    (s.updateAudioConfig audio_config).2.session_type_2_1_ = s.session_type_2_1_ := by
  unfold updateAudioConfig
  cases audio_config with
  | pcmConfig c =>
    dsimp only
    split <;> rfl
  | codecConfig c =>
    dsimp only
    split <;> rfl
  | leAudioCodecConfig c => rfl

theorem onSessionStarted_type {t : SessionType} {s s' : Session_2_1} {stack_iface : Option Host}
    {dataMQ : Option DataMQDesc} {audio_config : AudioConfiguration_2_1} {notified : List Notification}
    (h : s.onSessionStarted t stack_iface dataMQ audio_config = some (s', notified)) :
    s'.session_type_2_1_ = s.session_type_2_1_ := by
  unfold onSessionStarted at h
  split at h
  · obtain ⟨config, -, h⟩ := Option.bind_eq_some_iff.1 h
    cases h
    rfl
  · cases stack_iface with
    | none =>
      cases h
      rfl
    | some host =>
      have hu := updateAudioConfig_type s audio_config
      dsimp only at h
      split at h
      · cases h
        exact hu
      · split at h <;>
        · cases h
          exact hu

theorem step_type {t : SessionType} {s s' : Session_2_1} {e : SessionEvent} {notified : List Notification}
    (h : s.step t e = some (s', notified)) : s'.session_type_2_1_ = s.session_type_2_1_ := by
  cases e with
  | onSessionStarted_2_0 stack_iface dataMQ audio_config =>
    cases h
    rfl
  | onSessionStarted_2_1 stack_iface dataMQ audio_config => exact onSessionStarted_type h
  | onSessionEnded =>
    cases h
    rfl

/-- No step changes `session_type_2_1_`. -/
theorem run_type {t : SessionType} {observers_ : List Nat} {es : List SessionEvent} {s : Session_2_1}
    (h : Runs.run (next t) (some (init t observers_)) es = some s) :
    s.session_type_2_1_ = (init t observers_).session_type_2_1_ := by
  have hinv : ∀ s ∈ Runs.run (next t) (some (init t observers_)) es,
      s.session_type_2_1_ = (init t observers_).session_type_2_1_ := by
    apply Runs.run_inv (J := fun o : Option Session_2_1 => ∀ s ∈ o, s.session_type_2_1_ = (init t observers_).session_type_2_1_)
    · intro o e ho s' hs'
      obtain ⟨s, hs, hs'⟩ := Option.bind_eq_some_iff.1 hs'
      obtain ⟨r, hr, rfl⟩ := Option.map_eq_some_iff.1 hs'
      rw [step_type hr]
      exact ho s hs
    · intro s hs
      cases hs
      rfl
  exact hinv s h

end Session_2_1

/-! ## Agreement -/

/-- The types of 2.0. -/
def SessionType.In_2_0 (t : SessionType) : Prop := t = .unknown ∨ t.is_2_0_session_type = true

namespace Session_2_1

/-- The configuration of 2.1 is the embedding of that of 2.0. -/
def ConfigAgrees (t : SessionType) (s : Session_2_1) : Prop :=
  s.getAudioConfig t = (s.audio_session.getAudioConfig t).embed

/-- A start through 2.1 is the start through 2.0. -/
def StartAgrees (t : SessionType) (s : Session_2_1) : Prop :=
  ∀ (stack_iface : Option Host) (dataMQ : Option DataMQDesc) (audio_config : AudioConfiguration_2_0),
    s.onSessionStarted t stack_iface dataMQ audio_config.embed =
      some (s.inner (s.audio_session.onSessionStarted t stack_iface dataMQ audio_config))

section
variable {t : SessionType} {s : Session_2_1}

theorem init_type (ht : t.In_2_0) (observers_ : List Nat) : (init t observers_).session_type_2_1_ = .unknown := by
  rcases ht with rfl | ht
  · rfl
  · simp [init, ht]

theorem startAgrees (hs : s.session_type_2_1_ = .unknown) : s.StartAgrees t := by
  intro stack_iface dataMQ audio_config
  unfold onSessionStarted
  rw [if_pos hs, AudioConfiguration_2_0.toConfig_embed]
  rfl

/-- A session that is not ready shows the invalid configuration of its type in
2.0, and always that of software in 2.1. -/
theorem configAgrees_iff (hs : s.session_type_2_1_ = .unknown) :
    s.ConfigAgrees t ↔ t ≠ .a2dpHardwareOffloadDatapath ∨ s.audio_session.isSessionReady t = true := by
  have hne : SessionType.unknown ≠ .a2dpHardwareOffloadDatapath := by nofun
  cases hr : s.audio_session.isSessionReady t with
  | true =>
    apply iff_of_true
    · simp only [ConfigAgrees, getAudioConfig, hr, if_true, hs, ne_eq, not_true_eq_false, if_false]
      cases s.audio_session.getAudioConfig t with
      | pcmConfig c => rfl
      | codecConfig c => rfl
    · exact Or.inr rfl
  | false =>
    simp only [ConfigAgrees, getAudioConfig, hr, Session.getAudioConfig, hs, if_neg hne, Bool.false_eq_true, if_false, or_false]
    constructor
    · intro h ht
      rw [if_pos ht] at h
      cases h
    · intro ht
      rw [if_neg ht]
      rfl

end

end Session_2_1

/-- For a type of 2.0, in every state of a run the sessions agree on the
configuration and on every start exactly when the session is not one of A2DP
offload, or is ready. -/
theorem sessions_agree_iff {t : SessionType} (ht : t.In_2_0) (observers_ : List Nat) (es : List SessionEvent)
    {s : Session_2_1} (h : Runs.run (Session_2_1.next t) (some (Session_2_1.init t observers_)) es = some s) :
    s.ConfigAgrees t ∧ s.StartAgrees t ↔
      t ≠ .a2dpHardwareOffloadDatapath ∨ s.audio_session.isSessionReady t = true := by
  have hs : s.session_type_2_1_ = .unknown := by
    rw [Session_2_1.run_type h, Session_2_1.init_type ht]
  rw [and_iff_left (Session_2_1.startAgrees hs)]
  exact Session_2_1.configAgrees_iff hs

theorem sessions_agree_software :
    Session_2_1.ConfigAgrees .a2dpSoftwareEncodingDatapath
        ⟨⟨some 1, some ⟨true⟩, .pcmConfig ⟨.rate44100, .stereo, .bits16⟩, [256]⟩, .unknown, .zero⟩ ∧
      Session_2_1.StartAgrees .a2dpSoftwareEncodingDatapath
        ⟨⟨some 1, some ⟨true⟩, .pcmConfig ⟨.rate44100, .stereo, .bits16⟩, [256]⟩, .unknown, .zero⟩ :=
  (sessions_agree_iff (Or.inr rfl) [256]
    [.onSessionStarted_2_1 (some 1) (some ⟨true⟩) (.pcmConfig ⟨.rate44100, .stereo, .bits16, 10000⟩)] rfl).2
    (Or.inl nofun)

/-- The offload session after its constructor. -/
theorem sessions_differ_offload :
    ¬ (Session_2_1.init .a2dpHardwareOffloadDatapath []).ConfigAgrees .a2dpHardwareOffloadDatapath := by
  intro h
  cases h

end PhhTreble.Hidl

import PhhTreble.Audio.Codecs
import PhhTreble.Audio.Observers
import PhhTreble.Audio.Provider
/-!
# The provider classes

What each subclass of `BluetoothAudioProvider` checks before it starts a
session, and the configuration the provider and its session then agree on.
-/

namespace PhhTreble.Audio

open A2dp (ChannelMode getCodec)

/-! ## The classes -/

inductive ProviderClass where
  | a2dpSoftwareEncoding | a2dpSoftwareDecoding
  | a2dpOffloadEncoding | a2dpOffloadDecoding
  | hearingAid
  | leAudioSoftwareOutput | leAudioSoftwareInput | leAudioSoftwareBroadcast
  | leAudioOffloadOutput | leAudioOffloadInput | leAudioOffloadBroadcast
  | hfpSoftwareOutput | hfpSoftwareInput
  | hfpOffload
deriving DecidableEq, Repr

/-- `session_type_`, as the constructors set it. -/
def ProviderClass.sessionType : ProviderClass → SessionType
  | a2dpSoftwareEncoding => .a2dpSoftwareEncodingDatapath
  | a2dpSoftwareDecoding => .a2dpSoftwareDecodingDatapath
  | a2dpOffloadEncoding => .a2dpHardwareOffloadEncodingDatapath
  | a2dpOffloadDecoding => .a2dpHardwareOffloadDecodingDatapath
  | hearingAid => .hearingAidSoftwareEncodingDatapath
  | leAudioSoftwareOutput => .leAudioSoftwareEncodingDatapath
  | leAudioSoftwareInput => .leAudioSoftwareDecodingDatapath
  | leAudioSoftwareBroadcast => .leAudioBroadcastSoftwareEncodingDatapath
  | leAudioOffloadOutput => .leAudioHardwareOffloadEncodingDatapath
  | leAudioOffloadInput => .leAudioHardwareOffloadDecodingDatapath
  | leAudioOffloadBroadcast => .leAudioBroadcastHardwareOffloadEncodingDatapath
  | hfpSoftwareOutput => .hfpSoftwareEncodingDatapath
  | hfpSoftwareInput => .hfpSoftwareDecodingDatapath
  | hfpOffload => .hfpHardwareOffloadDatapath

/-- `A2dpSoftwareAudioProvider` and `HearingAidAudioProvider`. -/
def softwareAccepts : Configuration → Bool
  | .pcmConfig pcm_config => BluetoothAudioCodecs.isSoftwarePcmConfigurationValid pcm_config
  | _ => false

namespace A2dpOffloadAudioProvider

def accepts (session_type_ : SessionType) : Configuration → Bool
  | .a2dp a2dp_config =>
    match getCodec a2dp_config.codecId with
    | none => false
    | some codec => (codec.parseConfiguration a2dp_config.configuration).isOk
  | .a2dpConfig codec_config => BluetoothAudioCodecs.isOffloadCodecConfigurationValid session_type_ codec_config
  | _ => false

end A2dpOffloadAudioProvider

namespace LeAudioSoftwareAudioProvider

def channelModeToChannelCount : ChannelMode → Int
  | .mono => 1
  | .stereo => 2
  | _ => 0

def kBufferOutCount : Int := 2
def kBufferInCount : Int := 2

/-- `data_mq_size`. The source computes with a double and converts it; a
negative product, which has no `uint32_t`, counts as 0. -/
def dataMqSize (session_type_ : SessionType) (pcm_config : PcmConfiguration) : Nat :=
  let buffer_modifier :=
    if session_type_ = .leAudioSoftwareEncodingDatapath ∨ session_type_ = .leAudioBroadcastSoftwareEncodingDatapath then
      kBufferOutCount
    else if session_type_ = .leAudioSoftwareDecodingDatapath then kBufferInCount
    else 0
  -- 24 bit samples are sent unpacked.
  let bytes_per_sample := if pcm_config.bitsPerSample = 24 then 4 else pcm_config.bitsPerSample.tdiv 8
  (pcm_config.sampleRateHz * channelModeToChannelCount pcm_config.channelMode * bytes_per_sample *
    pcm_config.dataIntervalUs.tdiv 1000 * buffer_modifier / 1000).toNat

def accepts (session_type_ : SessionType) : Configuration → Bool
  | .pcmConfig pcm_config =>
    BluetoothAudioCodecs.isSoftwarePcmConfigurationValid pcm_config && 0 < dataMqSize session_type_ pcm_config
  | _ => false

end LeAudioSoftwareAudioProvider

namespace HfpSoftwareAudioProvider

def accepts : Configuration → Bool
  | .pcmConfig pcm_config =>
    BluetoothAudioCodecs.isSoftwarePcmConfigurationValid pcm_config && pcm_config.bitsPerSample == 16 &&
      (pcm_config.sampleRateHz == 8000 || pcm_config.sampleRateHz == 16000 || pcm_config.sampleRateHz == 32000) &&
      pcm_config.channelMode == .mono && pcm_config.dataIntervalUs == 7500
  | _ => false

end HfpSoftwareAudioProvider

def LeAudioOffloadAudioProvider.accepts (session_type_ : SessionType) (audio_config : Configuration) : Bool :=
  if session_type_ = .leAudioBroadcastHardwareOffloadEncodingDatapath then audio_config.getTag == .leAudioBroadcastConfig
  else audio_config.getTag == .leAudioConfig

def HfpOffloadAudioProvider.accepts (audio_config : Configuration) : Bool := audio_config.getTag == .hfpConfig

namespace ProviderClass

/-- The configurations that `startSession` of the class lets through. -/
def accepts (c : ProviderClass) (audio_config : Configuration) : Bool :=
  match c with
  | a2dpSoftwareEncoding | a2dpSoftwareDecoding | hearingAid => softwareAccepts audio_config
  | a2dpOffloadEncoding | a2dpOffloadDecoding => A2dpOffloadAudioProvider.accepts c.sessionType audio_config
  | leAudioSoftwareOutput | leAudioSoftwareInput | leAudioSoftwareBroadcast =>
    LeAudioSoftwareAudioProvider.accepts c.sessionType audio_config
  | leAudioOffloadOutput | leAudioOffloadInput | leAudioOffloadBroadcast =>
    LeAudioOffloadAudioProvider.accepts c.sessionType audio_config
  | hfpSoftwareOutput | hfpSoftwareInput => HfpSoftwareAudioProvider.accepts audio_config
  | hfpOffload => HfpOffloadAudioProvider.accepts audio_config

/-- The classes that make their queue in the constructor. -/
def makesQueueOnce : ProviderClass → Bool
  | a2dpSoftwareEncoding | a2dpSoftwareDecoding | hearingAid => true
  | _ => false

/-- The classes that make a queue in every `startSession`. -/
def makesQueue : ProviderClass → Bool
  | leAudioSoftwareOutput | leAudioSoftwareInput | leAudioSoftwareBroadcast | hfpSoftwareOutput | hfpSoftwareInput => true
  | _ => false

end ProviderClass

/-! ## A provider -/

/-- `updateAudioConfiguration`, and whether it returns ok. -/
def World.updateAudioConfiguration {P : Type} (t : SessionType) (w : World P) (audio_config : AudioConfiguration P) :
    Bool × World P :=
  match w.stack_iface_, w.audio_config_ with
  | some _, some current =>
    if audio_config.tag ≠ current.tag then (false, w)
    else (true, { w with audio_config_ := some audio_config, session := (w.session.reportAudioConfigChanged t audio_config).1 })
  | _, _ => (false, w)

structure Provider where
  data_mq_ : Option DataMQ
  world : World Configuration
deriving DecidableEq, Repr

namespace Provider

/-- `openProvider`: the constructor, with the queue that `new DataMQ` gave it,
and `isValid`. -/
def openProvider (c : ProviderClass) (data_mq : Option DataMQ) (session : Session Configuration) : Option Provider :=
  if c.makesQueueOnce then
    if data_mq.any (·.valid) then some ⟨data_mq, .init session⟩ else none
  else some ⟨none, .init session⟩

/-- `startSession` of the class, and whether it returns ok; `temp_data_mq` is
what `new DataMQ` gives it. -/
def startSession (c : ProviderClass) (p : Provider) (host_if : Option Host) (audio_config : Configuration)
    (latency_modes : List LatencyMode) (temp_data_mq : Option DataMQ) : Bool × Provider :=
  if !c.accepts audio_config then (false, p)
  else if c.makesQueue && !temp_data_mq.any (·.valid) then (false, p)
  else
    let data_mq_ := if c.makesQueue then temp_data_mq else p.data_mq_
    (host_if.isSome, ⟨data_mq_, p.world.startSession c.sessionType host_if audio_config.toAudio latency_modes data_mq_⟩)

def endSession (c : ProviderClass) (p : Provider) : Provider := { p with world := p.world.endSession c.sessionType }

def updateAudioConfiguration (c : ProviderClass) (p : Provider) (audio_config : Configuration) : Bool × Provider :=
  let (ok, world) := p.world.updateAudioConfiguration c.sessionType audio_config.toAudio
  (ok, { p with world := world })

def death (c : ProviderClass) (p : Provider) (host : Host) : Provider := { p with world := p.world.death c.sessionType host }

/-- The session of the provider's type is ready. -/
def Ready (c : ProviderClass) (p : Provider) : Prop := p.world.Ready c.sessionType

instance (c : ProviderClass) (p : Provider) : Decidable (p.Ready c) := inferInstanceAs (Decidable (p.world.Ready c.sessionType))

/-- The queue of a software class is valid, and so is one made from its descriptor. -/
def QueueValid (c : ProviderClass) (p : Provider) : Prop :=
  c.sessionType.isOffload = true ∨ ∃ mq, p.data_mq_ = some mq ∧ mq.valid = true ∧ mq.dupeDesc.valid = true

end Provider

inductive ProviderCall where
  | startSession (host_if : Option Host) (audio_config : Configuration) (latency_modes : List LatencyMode)
      (temp_data_mq : Option DataMQ)
  | endSession
  | updateAudioConfiguration (audio_config : Configuration)
  | death (host : Host)
deriving DecidableEq, Repr

/-- The provider after a call, and the configuration the call was given where it
returned ok. -/
def Provider.step (c : ProviderClass) (p : Provider) : ProviderCall → Option Configuration × Provider
  | .startSession host_if audio_config latency_modes temp_data_mq =>
    let (ok, p) := p.startSession c host_if audio_config latency_modes temp_data_mq
    (if ok then some audio_config else none, p)
  | .endSession => (none, p.endSession c)
  | .updateAudioConfiguration audio_config =>
    let (ok, p) := p.updateAudioConfiguration c audio_config
    (if ok then some audio_config else none, p)
  | .death host => (none, p.death c host)

/-! ## The tags agree -/

/-- A class lets through only what the session of its type accepts. -/
theorem accepts_of_accepts {c : ProviderClass} {audio_config : Configuration} (h : c.accepts audio_config = true) :
    c.sessionType.accepts audio_config.getTag = true := by
  cases c <;> cases audio_config <;> first | rfl | cases h

theorem accepts_leAudioConfig {t : SessionType} (h : t.isLeUnicastOffload = true) : t.accepts .leAudioConfig = true := by
  cases t <;> first | rfl | cases h

theorem accepts_defaultConfig (t : SessionType) :
    t.accepts (Session.defaultConfig t).getTag = true ∨ t = .unknown ∧ Session.defaultConfig t = .pcmConfig .default := by
  cases t <;> first | exact .inl rfl | exact .inr ⟨rfl, rfl⟩

namespace Session

/-- The configuration that is held has a tag of the type. -/
def Accepted {P : Type} (t : SessionType) (s : Session P) : Prop :=
  ∀ audio_config, s.audio_config_ = some audio_config → t.accepts audio_config.tag = true

theorem accepted_next {P : Type} {t : SessionType} {s : Session P} (hs : s.Accepted t) (e : SessionEvent P) :
    (s.next t e).Accepted t := by
  intro c hc
  rcases audio_config_next t s e with h | h | ⟨_, _, audio_config, _, -, ha, h⟩ | ⟨audio_config, -, ht, htag, h⟩
  · rw [h] at hc
    cases hc
  · rw [h] at hc
    exact hs c hc
  · rw [h] at hc
    cases hc
    exact ha
  · rw [h] at hc
    cases hc
    rw [htag]
    exact accepts_leAudioConfig ht

theorem getAudioConfig_ready {t : SessionType} {s : Session Configuration} {a : AudioConfiguration Configuration}
    (hr : s.isSessionReady t = true) (ha : s.audio_config_ = some a) : s.getAudioConfig t = a := by
  simp [getAudioConfig, hr, ha]

theorem getAudioConfig_not_ready {t : SessionType} {s : Session Configuration} (hr : ¬ s.isSessionReady t = true) :
    s.getAudioConfig t = (defaultConfig t).toAudio := by
  simp [getAudioConfig, hr]

/-- The configuration has a tag of the type; that of a session that is not ready
is the default, which for `UNKNOWN` is Pcm. -/
def ConfigOfType (t : SessionType) (s : Session Configuration) : Prop :=
  (t.accepts (s.getAudioConfig t).tag = true ∨ t = .unknown ∧ s.getAudioConfig t = (Configuration.pcmConfig .default).toAudio) ∧
    (¬ s.isSessionReady t = true → s.getAudioConfig t = (defaultConfig t).toAudio)

theorem configOfType_of_accepted {t : SessionType} {s : Session Configuration} (hs : s.Accepted t) : s.ConfigOfType t := by
  refine ⟨?_, getAudioConfig_not_ready⟩
  by_cases hr : s.isSessionReady t = true
  · obtain ⟨a, ha⟩ := Option.isSome_iff_exists.1 ((ready_iff t s).1 hr).2.2
    rw [getAudioConfig_ready hr ha]
    exact .inl (hs a ha)
  · rw [getAudioConfig_not_ready hr]
    rcases accepts_defaultConfig t with h | ⟨rfl, h⟩
    · exact .inl h
    · exact .inr ⟨rfl, by rw [h]⟩

end Session

/-! ## A start that returns ok -/

/-- The descriptor that `onSessionReady` passes on. -/
def queueDesc (t : SessionType) (data_mq_ : Option DataMQ) : Option DataMQDesc :=
  if t.isOffload then none else data_mq_.map (·.dupeDesc)

/-- With a valid queue `startSession` of the base class starts the session. -/
theorem World.session_startSession {P : Type} {t : SessionType} (w : World P) (host : Host)
    (audio_config : AudioConfiguration P) (latency_modes : List LatencyMode) {data_mq_ : Option DataMQ}
    (hv : t.isOffload = true ∨ data_mq_.any (·.valid) = true) :
    (w.startSession t (some host) audio_config latency_modes data_mq_).session =
      (w.session.onSessionStarted t (some host) (queueDesc t data_mq_) audio_config latency_modes).1 := by
  by_cases ho : t.isOffload = true
  · simp [startSession, onSessionReady, queueDesc, ho]
  · rcases hv with hv | hv
    · exact absurd hv ho
    · cases data_mq_ with
      | none => cases hv
      | some mq =>
        rw [Option.any_some] at hv
        simp [startSession, onSessionReady, queueDesc, ho, hv]

namespace Provider

/-- A call that returned ok had a port, passed the checks and has its queue. -/
theorem startSession_ok {c : ProviderClass} {p p' : Provider} {host_if : Option Host} {audio_config : Configuration}
    {latency_modes : List LatencyMode} {temp_data_mq : Option DataMQ}
    (h : p.startSession c host_if audio_config latency_modes temp_data_mq = (true, p')) :
    ∃ host, host_if = some host ∧ c.accepts audio_config = true ∧
      (c.makesQueue = true → temp_data_mq.any (·.valid) = true) ∧
      p' = ⟨if c.makesQueue then temp_data_mq else p.data_mq_, p.world.startSession c.sessionType (some host)
        audio_config.toAudio latency_modes (if c.makesQueue then temp_data_mq else p.data_mq_)⟩ := by
  unfold startSession at h
  split at h
  · cases h
  · rename_i hacc
    split at h
    · cases h
    · rename_i hq
      cases host_if with
      | none => cases h
      | some host =>
        injection h with _ hp
        refine ⟨host, rfl, by simpa using hacc, fun hm => ?_, hp.symm⟩
        simpa [hm] using hq

/-- With a valid queue the session is ready with the very configuration. -/
theorem startSession_ready {c : ProviderClass} {p p' : Provider} {host_if : Option Host} {audio_config : Configuration}
    {latency_modes : List LatencyMode} {temp_data_mq : Option DataMQ}
    (h : p.startSession c host_if audio_config latency_modes temp_data_mq = (true, p')) (hq : p'.QueueValid c) :
    p'.Ready c ∧ p'.world.session.getAudioConfig c.sessionType = audio_config.toAudio := by
  obtain ⟨host, -, hacc, -, rfl⟩ := startSession_ok h
  simp only [QueueValid] at hq
  generalize hmq : (if c.makesQueue then temp_data_mq else p.data_mq_) = data_mq_ at hq ⊢
  have hvalid : c.sessionType.isOffload = true ∨ data_mq_.any (·.valid) = true := by
    rcases hq with ho | ⟨mq, rfl, hv, -⟩
    · exact .inl ho
    · exact .inr hv
  have hs := World.session_startSession p.world host audio_config.toAudio latency_modes hvalid
  -- What is passed to the session is no queue or a valid one.
  have hdesc : ∀ desc, queueDesc c.sessionType data_mq_ = some desc → desc.valid = true := by
    intro desc hd
    unfold queueDesc at hd
    split at hd
    · cases hd
    · rename_i ho
      rcases hq with hq | ⟨mq, rfl, -, hv⟩
      · exact absurd hq ho
      · cases hd
        exact hv
  rcases Session.onSessionStarted_cases c.sessionType p.world.session (some host) (queueDesc c.sessionType data_mq_)
    audio_config.toAudio latency_modes with ⟨hn, -⟩ | ⟨⟨-, -, desc, hd, hv⟩, -⟩ | ⟨host', -, -, -, hr⟩
  · rcases hn with hn | hn
    · cases hn
    · rw [show audio_config.toAudio.tag = audio_config.getTag from rfl, accepts_of_accepts hacc] at hn
      cases hn
  · rw [hdesc desc hd] at hv
    cases hv
  · rw [hr] at hs
    have hready : (p.world.startSession c.sessionType (some host) audio_config.toAudio latency_modes
        data_mq_).session.isSessionReady c.sessionType = true := by
      rw [hs, Session.ready_iff]
      refine ⟨rfl, ?_, rfl⟩
      by_cases ho : c.sessionType.isOffload = true
      · exact .inl ho
      · obtain ⟨mq, rfl, -, hv⟩ := hq.resolve_left ho
        right
        simp [queueDesc, ho, hv]
    refine ⟨hready, Session.getAudioConfig_ready hready ?_⟩
    rw [hs]

end Provider

/-- In every run of a session its configuration has a tag of its type, and a
start that a provider answers with ok, over a valid queue, leaves the session
ready with exactly the configuration given. -/
theorem configurations_accepted :
    (∀ (t : SessionType) (es : List (SessionEvent Configuration)), (Runs.run (Session.next t) .init es).ConfigOfType t) ∧
      ∀ (c : ProviderClass) (p p' : Provider) (host : Host) (audio_config : Configuration)
        (latency_modes : List LatencyMode) (temp_data_mq : Option DataMQ),
        p.startSession c (some host) audio_config latency_modes temp_data_mq = (true, p') → p'.QueueValid c →
          p'.Ready c ∧ p'.world.session.getAudioConfig c.sessionType = audio_config.toAudio := by
  constructor
  · intro t es
    apply Session.configOfType_of_accepted
    apply Runs.run_inv (J := Session.Accepted t) (fun s e hs => Session.accepted_next hs e)
    intro a ha
    cases ha
  · intro c p p' host audio_config latency_modes temp_data_mq h hq
    exact Provider.startSession_ready h hq

/-- An LE audio output session with a port and one LC3 stream. -/
theorem configurations_accepted_leAudio :
    let audio_config : Configuration := .leAudioConfig ⟨[1], .lc3Config ⟨16, 48000, 10000, 120, 1⟩, 0⟩
    let p' := (Provider.startSession .leAudioOffloadOutput ⟨none, .init .init⟩ (some 1) audio_config [.free] none).2
    p'.Ready .leAudioOffloadOutput ∧
      p'.world.session.getAudioConfig .leAudioHardwareOffloadEncodingDatapath = audio_config.toAudio :=
  configurations_accepted.2 .leAudioOffloadOutput ⟨none, .init .init⟩ _ 1 _ [.free] none rfl (.inl rfl)

end PhhTreble.Audio

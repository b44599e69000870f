import Mathlib.Data.List.Basic
/-!
# BluetoothAudioSession

The session of one session type: what the providers start and end and what the
audio HAL's ports observe. `P` is the payload of an `AudioConfiguration`; the
session looks at its tag only.
-/

namespace PhhTreble.Audio

/-! ## The data model -/

inductive SessionType where
  | unknown
  | a2dpSoftwareEncodingDatapath | a2dpHardwareOffloadEncodingDatapath
  | hearingAidSoftwareEncodingDatapath
  | leAudioSoftwareEncodingDatapath | leAudioSoftwareDecodingDatapath
  | leAudioHardwareOffloadEncodingDatapath | leAudioHardwareOffloadDecodingDatapath
  | leAudioBroadcastSoftwareEncodingDatapath | leAudioBroadcastHardwareOffloadEncodingDatapath
  | a2dpSoftwareDecodingDatapath | a2dpHardwareOffloadDecodingDatapath
  | hfpSoftwareEncodingDatapath | hfpSoftwareDecodingDatapath
  | hfpHardwareOffloadDatapath
deriving DecidableEq, Repr

inductive Tag where
  | pcmConfig | leAudioConfig | a2dpConfig | leAudioBroadcastConfig | hfpConfig | a2dp
deriving DecidableEq, Repr

/-- The AIDL union `AudioConfiguration`. -/
structure AudioConfiguration (P : Type) where
  tag : Tag
  payload : P
deriving DecidableEq, Repr

inductive LatencyMode where
  | unknown | lowLatency | free | dynamicSpatialAudioSoftware | dynamicSpatialAudioHardware
deriving DecidableEq, Repr

/-- An `IBluetoothAudioPort` of the Bluetooth stack. -/
abbrev Host := Nat

/-- A queue descriptor, with whether a queue made from it is valid. -/
structure DataMQDesc where
  valid : Bool
deriving DecidableEq, Repr

/-- The callbacks that may be null among `PortStatusCallbacks`. -/
structure PortStatusCallbacks where
  audio_configuration_changed_cb_ : Bool
  low_latency_mode_allowed_cb_ : Bool
deriving DecidableEq, Repr

/-- `session_type_` is a parameter of the operations: it never changes. -/
structure Session (P : Type) where
  stack_iface_ : Option Host
  data_mq_ : Option DataMQDesc
  audio_config_ : Option (AudioConfiguration P)
  latency_modes_ : List LatencyMode
  low_latency_allowed_ : Bool
  observers_ : List (Nat × PortStatusCallbacks)
deriving DecidableEq, Repr

/-- A callback of the observer with this cookie. -/
inductive Notification where
  | sessionChanged (cookie : Nat)
deriving DecidableEq, Repr

variable {P : Type}

/-- The constructor of `BluetoothAudioSession`. -/
def Session.init : Session P := ⟨none, none, none, [], true, []⟩

namespace SessionType

/-- The types whose data path is not a queue. -/
def isOffload (t : SessionType) : Bool :=
  t == a2dpHardwareOffloadEncodingDatapath || t == leAudioHardwareOffloadEncodingDatapath ||
    t == leAudioHardwareOffloadDecodingDatapath || t == leAudioBroadcastHardwareOffloadEncodingDatapath ||
    t == a2dpHardwareOffloadDecodingDatapath || t == hfpHardwareOffloadDatapath

/-- The tags `UpdateAudioConfig` accepts. -/
def accepts (t : SessionType) (tag : Tag) : Bool :=
  let is_software_session :=
    t == a2dpSoftwareEncodingDatapath || t == hearingAidSoftwareEncodingDatapath || t == hfpSoftwareEncodingDatapath ||
      t == hfpSoftwareDecodingDatapath || t == leAudioSoftwareDecodingDatapath || t == leAudioSoftwareEncodingDatapath ||
      t == leAudioBroadcastSoftwareEncodingDatapath || t == a2dpSoftwareDecodingDatapath
  let is_offload_a2dp_session := t == a2dpHardwareOffloadEncodingDatapath || t == a2dpHardwareOffloadDecodingDatapath
  let is_offload_hfp_session := t == hfpHardwareOffloadDatapath
  let is_offload_le_audio_unicast_session :=
    t == leAudioHardwareOffloadEncodingDatapath || t == leAudioHardwareOffloadDecodingDatapath
  let is_offload_le_audio_broadcast_session := t == leAudioBroadcastHardwareOffloadEncodingDatapath
  (is_software_session && tag == .pcmConfig) || (is_offload_a2dp_session && (tag == .a2dp || tag == .a2dpConfig)) ||
    (is_offload_hfp_session && tag == .hfpConfig) || (is_offload_le_audio_unicast_session && tag == .leAudioConfig) ||
    (is_offload_le_audio_broadcast_session && tag == .leAudioBroadcastConfig)

end SessionType

/-! ## The operations -/

namespace Session

def isSessionReady (t : SessionType) (s : Session P) : Bool :=
  let is_mq_valid := t.isOffload || s.data_mq_.any (·.valid)
  s.stack_iface_.isSome && is_mq_valid && s.audio_config_.isSome

def updateDataPath (s : Session P) (mq_desc : Option DataMQDesc) : Bool × Session P :=
  match mq_desc with
  | none => (true, { s with data_mq_ := none })
  | some desc => if desc.valid then (true, { s with data_mq_ := some desc }) else (false, { s with data_mq_ := none })

def updateAudioConfig (t : SessionType) (s : Session P) (audio_config : AudioConfiguration P) : Bool × Session P :=
  if t.accepts audio_config.tag then (true, { s with audio_config_ := some audio_config }) else (false, s)

def reportSessionStatus (s : Session P) : List Notification := s.observers_.map fun o => .sessionChanged o.1

def onSessionStarted (t : SessionType) (s : Session P) (stack_iface : Option Host) (mq_desc : Option DataMQDesc)
    (audio_config : AudioConfiguration P) (latency_modes : List LatencyMode) : Session P × List Notification :=
  match stack_iface with
  | none => (s, [])
  | some host =>
    let (accepted, s) := updateAudioConfig t s audio_config
    if !accepted then (s, []) else
    let (valid, s) := updateDataPath s mq_desc
    if !valid then ({ s with audio_config_ := none }, []) else
    let s := { s with stack_iface_ := some host, latency_modes_ := latency_modes }
    (s, reportSessionStatus s)

def onSessionEnded (t : SessionType) (s : Session P) : Session P × List Notification :=
  let toggled := isSessionReady t s
  let s := { s with audio_config_ := none, stack_iface_ := none }
  let s := (updateDataPath s none).2
  (s, if toggled then reportSessionStatus s else [])

@[simp] theorem isSessionReady_onSessionEnded (t : SessionType) (s : Session P) :
    isSessionReady t (onSessionEnded t s).1 = false := by
  simp [onSessionEnded, updateDataPath, isSessionReady]

end Session

end PhhTreble.Audio

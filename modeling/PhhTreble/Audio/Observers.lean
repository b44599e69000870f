import PhhTreble.Audio.Session
import PhhTreble.Lib.Runs
/-!
# The observers of a session

The cookies a session gives out, the reports it passes on, and what its
observers are told when it starts and ends.
-/

namespace PhhTreble.Audio

variable {P C : Type}

/-! ## Cookies -/

namespace SessionType

/-- A number for each enumerator. The interface's own are not in the repository;
under any of them the cookies are the same but for their numbers, by
`Cookies.addObserver_eq`. -/
def value : SessionType → Nat
  | unknown => 0
  | a2dpSoftwareEncodingDatapath => 1
  | a2dpHardwareOffloadEncodingDatapath => 2
  | hearingAidSoftwareEncodingDatapath => 3
  | leAudioSoftwareEncodingDatapath => 4
  | leAudioSoftwareDecodingDatapath => 5
  | leAudioHardwareOffloadEncodingDatapath => 6
  | leAudioHardwareOffloadDecodingDatapath => 7
  | leAudioBroadcastSoftwareEncodingDatapath => 8
  | leAudioBroadcastHardwareOffloadEncodingDatapath => 9
  | a2dpSoftwareDecodingDatapath => 10
  | a2dpHardwareOffloadDecodingDatapath => 11
  | hfpSoftwareEncodingDatapath => 12
  | hfpSoftwareDecodingDatapath => 13
  | hfpHardwareOffloadDatapath => 14

end SessionType

def kObserversCookieSize : Nat := 0x0010

def observersCookieGetInitValue (t : SessionType) : Nat := t.value <<< 8 &&& 0xff00

def observersCookieGetUpperBound (t : SessionType) : Nat := observersCookieGetInitValue t + kObserversCookieSize

def kObserversCookieUndefined : Nat := observersCookieGetInitValue .unknown

/-- The loop of `RegisterStatusCback`: the first cookie of the type that no
observer has. -/
def freeCookie (t : SessionType) (observers_ : List (Nat × C)) : Option Nat :=
  (List.range' (observersCookieGetInitValue t) kObserversCookieSize).find? fun cookie => !observers_.any (·.1 == cookie)

/-- `RegisterStatusCback` on the map of observers. -/
def addObserver (t : SessionType) (observers_ : List (Nat × C)) (callbacks : C) : Nat × List (Nat × C) :=
  match freeCookie t observers_ with
  | none => (kObserversCookieUndefined, observers_)
  | some cookie => (cookie, (cookie, callbacks) :: observers_)

/-- `UnregisterStatusCback` on it. -/
def eraseObserver (observers_ : List (Nat × C)) (cookie : Nat) : List (Nat × C) := observers_.filter (·.1 ≠ cookie)

/-- A cookie that is given out is the session's and no observer has it. -/
theorem freeCookie_spec {t : SessionType} {observers_ : List (Nat × C)} {cookie : Nat}
    (h : freeCookie t observers_ = some cookie) :
    observersCookieGetInitValue t ≤ cookie ∧ cookie < observersCookieGetUpperBound t ∧ cookie ∉ observers_.map (·.1) := by
  have hm := List.mem_of_find?_eq_some h
  have hp := List.find?_some h
  rw [List.mem_range'_1] at hm
  refine ⟨hm.1, hm.2, ?_⟩
  intro hc
  obtain ⟨o, ho, rfl⟩ := List.mem_map.1 hc
  simp only [Bool.not_eq_true', List.any_eq_false, beq_iff_eq] at hp
  exact hp o ho rfl

theorem mem_eraseObserver {observers_ : List (Nat × C)} {cookie : Nat} {o : Nat × C} :
    o ∈ eraseObserver observers_ cookie ↔ o ∈ observers_ ∧ o.1 ≠ cookie := by
  simp [eraseObserver]

theorem eraseObserver_of_notMem {observers_ : List (Nat × C)} {cookie : Nat} (h : cookie ∉ observers_.map (·.1)) :
    eraseObserver observers_ cookie = observers_ := by
  apply List.filter_eq_self.2
  intro o ho
  apply decide_eq_true
  rintro rfl
  exact h (List.mem_map_of_mem ho)

theorem eraseObserver_map {D : Type} (f : C → D) (observers_ : List (Nat × C)) (cookie : Nat) :
    eraseObserver (observers_.map fun o => (o.1, f o.2)) cookie =
      (eraseObserver observers_ cookie).map fun o => (o.1, f o.2) := by
  simp only [eraseObserver, List.filter_map]
  rfl

theorem nodup_eraseObserver {observers_ : List (Nat × C)} (cookie : Nat) (h : (observers_.map (·.1)).Nodup) :
    ((eraseObserver observers_ cookie).map (·.1)).Nodup :=
  h.sublist (List.filter_sublist.map _)

/-- Distinct cookies find their own observer. -/
theorem lookup_of_mem {observers_ : List (Nat × C)} (hd : (observers_.map (·.1)).Nodup) {o : Nat × C}
    (ho : o ∈ observers_) : observers_.lookup o.1 = some o.2 := by
  induction observers_ with
  | nil => cases ho
  | cons a observers_ ih =>
    rw [List.map_cons, List.nodup_cons] at hd
    rcases List.mem_cons.1 ho with rfl | ho
    · exact List.lookup_cons_self
    · have hne : o.1 ≠ a.1 := fun he => hd.1 (he ▸ List.mem_map_of_mem ho)
      rw [List.lookup_cons, beq_eq_false_iff_ne.2 hne]
      exact ih hd.2 ho

/-! ## The operations -/

/-- The types that take a configuration while they run. -/
def SessionType.isLeUnicastOffload (t : SessionType) : Bool :=
  t == .leAudioHardwareOffloadEncodingDatapath || t == .leAudioHardwareOffloadDecodingDatapath

namespace Session

def registerStatusCback (t : SessionType) (s : Session P) (callbacks : PortStatusCallbacks) : Nat × Session P :=
  let (cookie, observers_) := addObserver t s.observers_ callbacks
  (cookie, { s with observers_ := observers_ })

def unregisterStatusCback (s : Session P) (cookie : Nat) : Session P :=
  { s with observers_ := eraseObserver s.observers_ cookie }

/-- With the cookies whose `audio_configuration_changed_cb_` it calls. -/
def reportAudioConfigChanged (t : SessionType) (s : Session P) (audio_config : AudioConfiguration P) :
    Session P × List Nat :=
  if !t.isLeUnicastOffload then (s, []) else
  if audio_config.tag ≠ .leAudioConfig then (s, []) else
  ({ s with audio_config_ := some audio_config },
    (s.observers_.filter (·.2.audio_configuration_changed_cb_)).map (·.1))

/-- With the cookies whose `low_latency_mode_allowed_cb_` it calls. -/
def reportLowLatencyModeAllowedChanged (t : SessionType) (s : Session P) (allowed : Bool) : Session P × List Nat :=
  if t ≠ .a2dpHardwareOffloadEncodingDatapath then (s, []) else
  let latency_modes_ :=
    if allowed && !s.latency_modes_.contains .lowLatency then s.latency_modes_ ++ [.lowLatency] else s.latency_modes_
  ({ s with low_latency_allowed_ := allowed, latency_modes_ := latency_modes_ },
    (s.observers_.filter (·.2.low_latency_mode_allowed_cb_)).map (·.1))

end Session

inductive SessionEvent (P : Type) where
  | onSessionStarted (stack_iface : Option Host) (mq_desc : Option DataMQDesc) (audio_config : AudioConfiguration P)
      (latency_modes : List LatencyMode)
  | onSessionEnded
  | reportAudioConfigChanged (audio_config : AudioConfiguration P)
  | reportLowLatencyModeAllowedChanged (allowed : Bool)
  | registerStatusCback (callbacks : PortStatusCallbacks)
  | unregisterStatusCback (cookie : Nat)
deriving DecidableEq, Repr

namespace Session

/-- The session after an event, and the `session_changed_cb_`s called by it. -/
def step (t : SessionType) (s : Session P) : SessionEvent P → Session P × List Notification
  | .onSessionStarted stack_iface mq_desc audio_config latency_modes =>
    s.onSessionStarted t stack_iface mq_desc audio_config latency_modes
  | .onSessionEnded => s.onSessionEnded t
  | .reportAudioConfigChanged audio_config => ((s.reportAudioConfigChanged t audio_config).1, [])
  | .reportLowLatencyModeAllowedChanged allowed => ((s.reportLowLatencyModeAllowedChanged t allowed).1, [])
  | .registerStatusCback callbacks => ((s.registerStatusCback t callbacks).2, [])
  | .unregisterStatusCback cookie => (s.unregisterStatusCback cookie, [])

def next (t : SessionType) (s : Session P) (e : SessionEvent P) : Session P := (s.step t e).1

/-! ## What a start does -/

/-- The branch that refuses a queue descriptor. -/
def RefusesQueue (t : SessionType) (stack_iface : Option Host) (mq_desc : Option DataMQDesc)
    (audio_config : AudioConfiguration P) : Prop :=
  stack_iface.isSome ∧ t.accepts audio_config.tag = true ∧ ∃ desc, mq_desc = some desc ∧ desc.valid = false

/-- The three error branches of `OnSessionStarted`. -/
def StartFails (t : SessionType) (stack_iface : Option Host) (mq_desc : Option DataMQDesc)
    (audio_config : AudioConfiguration P) : Prop :=
  stack_iface = none ∨ t.accepts audio_config.tag = false ∨ ∃ desc, mq_desc = some desc ∧ desc.valid = false

/-- `OnSessionStarted` in three cases. -/
theorem onSessionStarted_cases (t : SessionType) (s : Session P) (stack_iface : Option Host)
    (mq_desc : Option DataMQDesc) (audio_config : AudioConfiguration P) (latency_modes : List LatencyMode) :
    let r := s.onSessionStarted t stack_iface mq_desc audio_config latency_modes
    -- No port, or a configuration of another type: nothing.
    ((stack_iface = none ∨ t.accepts audio_config.tag = false) ∧ r = (s, [])) ∨
    -- An invalid queue: the configuration and the queue are gone.
    (RefusesQueue t stack_iface mq_desc audio_config ∧ r = ({ s with audio_config_ := none, data_mq_ := none }, [])) ∨
    -- A start.
    (∃ host, stack_iface = some host ∧ t.accepts audio_config.tag = true ∧ (∀ desc, mq_desc = some desc → desc.valid = true) ∧
      r = (⟨some host, mq_desc, some audio_config, latency_modes, s.low_latency_allowed_, s.observers_⟩,
        s.observers_.map fun o => .sessionChanged o.1)) := by
  intro r
  cases stack_iface with
  | none => exact .inl ⟨.inl rfl, rfl⟩
  | some host =>
    by_cases ha : t.accepts audio_config.tag = true
    · rcases mq_desc with _ | ⟨_ | _⟩
      · exact .inr (.inr ⟨host, rfl, ha, by simp,
          by simp [r, onSessionStarted, updateAudioConfig, updateDataPath, reportSessionStatus, ha]⟩)
      · exact .inr (.inl ⟨⟨rfl, ha, _, rfl, rfl⟩, by simp [r, onSessionStarted, updateAudioConfig, updateDataPath, ha]⟩)
      · exact .inr (.inr ⟨host, rfl, ha, by simp,
          by simp [r, onSessionStarted, updateAudioConfig, updateDataPath, reportSessionStatus, ha]⟩)
    · exact .inl ⟨.inr (Bool.eq_false_iff.2 ha), by simp [r, onSessionStarted, updateAudioConfig, ha]⟩

/-! ## Announced changes -/

/-- What readiness depends on, and the latency modes, are as they were. -/
def SameSession (t : SessionType) (s s' : Session P) : Prop :=
  s'.stack_iface_ = s.stack_iface_ ∧ s'.audio_config_ = s.audio_config_ ∧ s'.data_mq_ = s.data_mq_ ∧
    s'.latency_modes_ = s.latency_modes_ ∧ s'.isSessionReady t = s.isSessionReady t

/-- A step that changes readiness tells every observer, and a start that fails
changes nothing. -/
def Announces (t : SessionType) (s : Session P) (e : SessionEvent P) : Prop :=
  ((s.next t e).isSessionReady t ≠ s.isSessionReady t →
      ∀ o ∈ s.observers_, Notification.sessionChanged o.1 ∈ (s.step t e).2) ∧
    match e with
    | .onSessionStarted stack_iface mq_desc audio_config _ =>
      StartFails t stack_iface mq_desc audio_config → SameSession t s (s.next t e)
    | _ => True

/-- A queue is refused only where no configuration and no queue is held. -/
def RefusesIdle (t : SessionType) (s : Session P) : SessionEvent P → Prop
  | .onSessionStarted stack_iface mq_desc audio_config _ =>
    RefusesQueue t stack_iface mq_desc audio_config → s.audio_config_ = none ∧ s.data_mq_ = none
  | _ => True

/-- A session with a port has a configuration. -/
def Configured (s : Session P) : Prop := s.stack_iface_.isSome → s.audio_config_.isSome

theorem SameSession.refl (t : SessionType) (s : Session P) : SameSession t s s := ⟨rfl, rfl, rfl, rfl, rfl⟩

theorem ready_iff (t : SessionType) (s : Session P) :
    s.isSessionReady t = true ↔
      s.stack_iface_.isSome ∧ (t.isOffload = true ∨ s.data_mq_.any (·.valid) = true) ∧ s.audio_config_.isSome := by
  simp [isSessionReady, and_assoc]

/-- A session without a port is not ready. -/
theorem not_ready_of_stack {t : SessionType} {s : Session P} (h : s.stack_iface_ = none) : ¬ s.isSessionReady t = true := by
  intro hr
  have hi := ((ready_iff t s).1 hr).1
  rw [h] at hi
  cases hi

/-- Readiness looks at three fields. -/
theorem ready_congr {t : SessionType} {s s' : Session P} (hs : s'.stack_iface_ = s.stack_iface_)
    (hm : s'.data_mq_ = s.data_mq_) (hc : s'.audio_config_.isSome = s.audio_config_.isSome) :
    s'.isSessionReady t = s.isSessionReady t := by
  simp [isSessionReady, hs, hm, hc]

/-- A queue that is refused where a configuration or a queue is held changes the
session, and where none is held it does not. -/
theorem announces_start {t : SessionType} {s : Session P} (stack_iface : Option Host) (mq_desc : Option DataMQDesc)
    (audio_config : AudioConfiguration P) (latency_modes : List LatencyMode) :
    Announces t s (.onSessionStarted stack_iface mq_desc audio_config latency_modes) ↔
      RefusesIdle t s (.onSessionStarted stack_iface mq_desc audio_config latency_modes) := by
  rcases onSessionStarted_cases t s stack_iface mq_desc audio_config latency_modes with
    ⟨hn, hr⟩ | ⟨hq, hr⟩ | ⟨host, hh, ha, hv, hr⟩
  · apply iff_of_true
    · simp only [Announces, next, step, hr]
      exact ⟨fun h => absurd rfl h, fun _ => .refl t s⟩
    · rintro ⟨hi, ha, -⟩
      rcases hn with rfl | hn
      · cases hi
      · rw [hn] at ha
        cases ha
  · have hf : StartFails t stack_iface mq_desc audio_config := .inr (.inr hq.2.2)
    simp only [Announces, RefusesIdle, next, step, hr]
    constructor
    · rintro ⟨-, h⟩ -
      obtain ⟨-, hc, hm, -⟩ := h hf
      exact ⟨hc.symm, hm.symm⟩
    · intro h
      obtain ⟨hc, hm⟩ := h hq
      have hready : isSessionReady t { s with audio_config_ := none, data_mq_ := none } = s.isSessionReady t :=
        ready_congr rfl hm.symm (by rw [hc])
      exact ⟨fun hne => absurd hready hne, fun _ => ⟨rfl, hc.symm, hm.symm, rfl, hready⟩⟩
  · apply iff_of_true
    · simp only [Announces, next, step, hr]
      refine ⟨fun _ o ho => List.mem_map_of_mem ho, fun hf => ?_⟩
      rcases hf with hf | hf | ⟨desc, hd, hf⟩
      · rw [hf] at hh
        cases hh
      · rw [hf] at ha
        cases ha
      · rw [hv desc hd] at hf
        cases hf
    · rintro ⟨-, -, desc, hd, hf⟩
      rw [hv desc hd] at hf
      cases hf

theorem announces_of_ready {t : SessionType} {s : Session P} {e : SessionEvent P}
    (he : ∀ i m c l, e ≠ .onSessionStarted i m c l) (h : (s.next t e).isSessionReady t = s.isSessionReady t) :
    Announces t s e := by
  refine ⟨fun hn => absurd h hn, ?_⟩
  split
  · exact absurd rfl (he _ _ _ _)
  · exact trivial

theorem reportAudioConfigChanged_cases (t : SessionType) (s : Session P) (audio_config : AudioConfiguration P) :
    (s.reportAudioConfigChanged t audio_config).1 = s ∨
      (t.isLeUnicastOffload = true ∧ audio_config.tag = .leAudioConfig ∧
        (s.reportAudioConfigChanged t audio_config).1 = { s with audio_config_ := some audio_config }) := by
  unfold reportAudioConfigChanged
  by_cases ht : t.isLeUnicastOffload = true
  · by_cases hc : audio_config.tag = .leAudioConfig
    · exact .inr ⟨ht, hc, by simp [ht, hc]⟩
    · exact .inl (by simp [ht, hc])
  · exact .inl (by simp [ht])

/-- A step drops the configuration, leaves it, or takes over that of a start or of
a report. -/
theorem audio_config_next (t : SessionType) (s : Session P) (e : SessionEvent P) :
    (s.next t e).audio_config_ = none ∨ (s.next t e).audio_config_ = s.audio_config_ ∨
      (∃ stack_iface mq_desc audio_config latency_modes,
        e = .onSessionStarted stack_iface mq_desc audio_config latency_modes ∧ t.accepts audio_config.tag = true ∧
          (s.next t e).audio_config_ = some audio_config) ∨
      ∃ audio_config, e = .reportAudioConfigChanged audio_config ∧ t.isLeUnicastOffload = true ∧
        audio_config.tag = .leAudioConfig ∧ (s.next t e).audio_config_ = some audio_config := by
  cases e with
  | onSessionStarted stack_iface mq_desc audio_config latency_modes =>
    simp only [next, step]
    rcases onSessionStarted_cases t s stack_iface mq_desc audio_config latency_modes with
      ⟨-, h⟩ | ⟨-, h⟩ | ⟨host, -, ha, -, h⟩
    · exact .inr (.inl (by rw [h]))
    · exact .inl (by rw [h])
    · exact .inr (.inr (.inl ⟨_, _, _, _, rfl, ha, by rw [h]⟩))
  | onSessionEnded => exact .inl rfl
  | reportAudioConfigChanged audio_config =>
    simp only [next, step]
    rcases reportAudioConfigChanged_cases t s audio_config with h | ⟨ht, htag, h⟩
    · exact .inr (.inl (by rw [h]))
    · exact .inr (.inr (.inr ⟨_, rfl, ht, htag, by rw [h]⟩))
  | reportLowLatencyModeAllowedChanged allowed =>
    right; left
    simp only [next, step, reportLowLatencyModeAllowedChanged]
    split <;> rfl
  | registerStatusCback callbacks => exact .inr (.inl rfl)
  | unregisterStatusCback cookie => exact .inr (.inl rfl)

theorem announces_iff {t : SessionType} {s : Session P} (hs : s.Configured) (e : SessionEvent P) :
    Announces t s e ↔ RefusesIdle t s e := by
  cases e with
  | onSessionStarted stack_iface mq_desc audio_config latency_modes => exact announces_start _ _ _ _
  | onSessionEnded =>
    refine iff_of_true ⟨fun hn o ho => ?_, trivial⟩ trivial
    have hready : s.isSessionReady t = true := by
      simpa [next, step] using hn
    simp only [step, onSessionEnded, hready, if_true]
    exact List.mem_map_of_mem ho
  | reportAudioConfigChanged audio_config =>
    refine iff_of_true (announces_of_ready (by simp) ?_) trivial
    rcases reportAudioConfigChanged_cases t s audio_config with h | ⟨-, -, h⟩
    · rw [next, step, h]
    · simp only [next, step, h]
      cases hi : s.stack_iface_ with
      | none => simp [isSessionReady, hi]
      | some host => exact ready_congr hi.symm rfl (by rw [hs (by rw [hi]; rfl)]; rfl)
  | reportLowLatencyModeAllowedChanged allowed =>
    refine iff_of_true (announces_of_ready (by simp) ?_) trivial
    simp only [next, step, reportLowLatencyModeAllowedChanged]
    split <;> rfl
  | registerStatusCback callbacks => exact iff_of_true (announces_of_ready (by simp) rfl) trivial
  | unregisterStatusCback cookie => exact iff_of_true (announces_of_ready (by simp) rfl) trivial

theorem configured_next {t : SessionType} {s : Session P} (hs : s.Configured) {e : SessionEvent P}
    (hr : RefusesIdle t s e) : (s.next t e).Configured := by
  cases e with
  | onSessionStarted stack_iface mq_desc audio_config latency_modes =>
    simp only [next, step]
    rcases onSessionStarted_cases t s stack_iface mq_desc audio_config latency_modes with
      ⟨-, h⟩ | ⟨hq, h⟩ | ⟨host, -, -, -, h⟩
    · rwa [h]
    · rw [h]
      intro hi
      have hc := hs hi
      rw [(hr hq).1] at hc
      cases hc
    · rw [h]
      exact fun _ => rfl
  | onSessionEnded =>
    intro hi
    cases hi
  | reportAudioConfigChanged audio_config =>
    simp only [next, step]
    rcases reportAudioConfigChanged_cases t s audio_config with h | ⟨-, -, h⟩
    · rwa [h]
    · rw [h]
      exact fun _ => rfl
  | reportLowLatencyModeAllowedChanged allowed =>
    simp only [next, step, reportLowLatencyModeAllowedChanged]
    split
    · exact hs
    · exact hs
  | registerStatusCback callbacks => exact hs
  | unregisterStatusCback cookie => exact hs

end Session

/-- In a run of a session, every step that changes readiness is announced to
every observer and every failed start changes nothing, exactly when a queue
descriptor is refused only while the session holds no configuration and no queue. -/
theorem announces_run_iff (t : SessionType) (es : List (SessionEvent P)) :
    Runs.Along (Session.next t) (Session.Announces t) .init es ↔
      Runs.Along (Session.next t) (Session.RefusesIdle t) .init es := by
  apply Runs.along_congr_of (I := Session.Configured)
  · intro s e hs
    exact Session.announces_iff hs e
  · intro s e hs hr
    exact Session.configured_next hs hr
  · intro hi
    cases hi

/-- A ready session with an observer loses its configuration and queue to a start
with an invalid descriptor, unannounced. -/
theorem announces_invalid_queue :
    ¬ Runs.Along (Session.next .a2dpSoftwareEncodingDatapath) (Session.Announces .a2dpSoftwareEncodingDatapath) .init
      [.registerStatusCback ⟨false, false⟩, .onSessionStarted (some 1) (some ⟨true⟩) ⟨.pcmConfig, ()⟩ [],
        .onSessionStarted (some 1) (some ⟨false⟩) ⟨.pcmConfig, ()⟩ []] := by
  rintro ⟨-, -, ⟨h, -⟩, -⟩
  have hm := h (by decide) (0x0100, ⟨false, false⟩) (by decide)
  exact absurd hm (by decide)

end PhhTreble.Audio

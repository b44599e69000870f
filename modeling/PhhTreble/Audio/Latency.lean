import PhhTreble.Audio.Observers
/-!
# Latency modes of a session

What `GetSupportedLatencyModes` returns after a start, as far as it depends on
what the session did before.
-/

namespace PhhTreble.Audio

variable {P : Type}

namespace Session

def getSupportedLatencyModes (t : SessionType) (s : Session P) : List LatencyMode :=
  if !s.isSessionReady t then [] else
  if t = .leAudioHardwareOffloadEncodingDatapath then s.latency_modes_.filter (· ≠ .lowLatency)
  else s.latency_modes_.filter fun mode =>
    if !s.low_latency_allowed_ && mode == .lowLatency then false
    else !(mode == .dynamicSpatialAudioSoftware || mode == .dynamicSpatialAudioHardware)

/-- What it returns now and after each of the reports. -/
def modesAlong (t : SessionType) (s : Session P) : List Bool → List (List LatencyMode)
  | [] => [s.getSupportedLatencyModes t]
  | allowed :: reports =>
    s.getSupportedLatencyModes t :: modesAlong t (s.next t (.reportLowLatencyModeAllowedChanged allowed)) reports

end Session

/-- An `OnSessionStarted` that the session accepts. -/
structure AcceptedStart (t : SessionType) (P : Type) where
  stack_iface : Host
  mq_desc : Option DataMQDesc
  audio_config : AudioConfiguration P
  latency_modes : List LatencyMode
  accepted : t.accepts audio_config.tag = true
  valid : ∀ desc, mq_desc = some desc → desc.valid = true
  nodup : latency_modes.Nodup

namespace AcceptedStart
variable {t : SessionType}

/-- The session of a history that ends, and that is then started. -/
def after (start : AcceptedStart t P) (history : List (SessionEvent P)) : Session P :=
  Runs.run (Session.next t) .init (history ++ [.onSessionEnded,
    .onSessionStarted (some start.stack_iface) start.mq_desc start.audio_config start.latency_modes])

/-- The start and the reports after it show the same modes whatever came before,
and no mode twice. -/
def NoLeak (start : AcceptedStart t P) (history history' : List (SessionEvent P)) (reports : List Bool) : Prop :=
  (start.after history).modesAlong t reports = (start.after history').modesAlong t reports ∧
    (∀ modes ∈ (start.after history).modesAlong t reports, modes.Nodup) ∧
    ∀ modes ∈ (start.after history').modesAlong t reports, modes.Nodup

end AcceptedStart

/-- The value of the last report, and `allowed` where there is none. -/
def lastAllowed (allowed : Bool) : List (SessionEvent P) → Bool
  | [] => allowed
  | .reportLowLatencyModeAllowedChanged allowed' :: es => lastAllowed allowed' es
  | _ :: es => lastAllowed allowed es

/-! ## The flag and the list -/

namespace Session

theorem low_latency_allowed_next (t : SessionType) (s : Session P) (e : SessionEvent P) :
    (s.next t e).low_latency_allowed_ =
      if t = .a2dpHardwareOffloadEncodingDatapath then lastAllowed s.low_latency_allowed_ [e]
      else s.low_latency_allowed_ := by
  cases e with
  | onSessionStarted stack_iface mq_desc audio_config latency_modes =>
    simp only [next, step, lastAllowed, ite_self]
    rcases onSessionStarted_cases t s stack_iface mq_desc audio_config latency_modes with
      ⟨-, h⟩ | ⟨-, h⟩ | ⟨host, -, -, -, h⟩ <;> rw [h]
  | onSessionEnded => exact (ite_self _).symm
  | reportAudioConfigChanged audio_config =>
    simp only [next, step, lastAllowed, ite_self]
    rcases reportAudioConfigChanged_cases t s audio_config with h | ⟨-, -, h⟩ <;> rw [h]
  | reportLowLatencyModeAllowedChanged allowed =>
    simp only [next, step, reportLowLatencyModeAllowedChanged, lastAllowed]
    by_cases ht : t = .a2dpHardwareOffloadEncodingDatapath <;> simp [ht]
  | registerStatusCback callbacks => exact (ite_self _).symm
  | unregisterStatusCback cookie => exact (ite_self _).symm

theorem lastAllowed_cons (allowed : Bool) (e : SessionEvent P) (es : List (SessionEvent P)) :
    lastAllowed allowed (e :: es) = lastAllowed (lastAllowed allowed [e]) es := by
  cases e <;> rfl

/-- The flag is the last report's, of the only type that listens to it. -/
theorem low_latency_allowed_run (t : SessionType) (s : Session P) (es : List (SessionEvent P)) :
    (Runs.run (next t) s es).low_latency_allowed_ =
      if t = .a2dpHardwareOffloadEncodingDatapath then lastAllowed s.low_latency_allowed_ es
      else s.low_latency_allowed_ := by
  induction es generalizing s with
  | nil => exact (ite_self _).symm
  | cons e es ih =>
    rw [Runs.run_cons, ih, low_latency_allowed_next]
    split
    · exact (lastAllowed_cons _ _ _).symm
    · rfl

/-- What `GetSupportedLatencyModes` reads beside the flag. -/
structure Alike (s s' : Session P) : Prop where
  stack_iface_ : s.stack_iface_ = s'.stack_iface_
  data_mq_ : s.data_mq_ = s'.data_mq_
  audio_config_ : s.audio_config_ = s'.audio_config_
  latency_modes_ : s.latency_modes_ = s'.latency_modes_

theorem Alike.report {t : SessionType} {s s' : Session P} (h : Alike s s') (allowed : Bool) :
    Alike (s.next t (.reportLowLatencyModeAllowedChanged allowed))
      (s'.next t (.reportLowLatencyModeAllowedChanged allowed)) := by
  simp only [next, step, reportLowLatencyModeAllowedChanged]
  split
  · exact h
  · exact ⟨h.stack_iface_, h.data_mq_, h.audio_config_, by rw [h.latency_modes_]⟩

theorem Alike.ready {t : SessionType} {s s' : Session P} (h : Alike s s') :
    s.isSessionReady t = s'.isSessionReady t :=
  ready_congr h.stack_iface_ h.data_mq_ (by rw [h.audio_config_])

theorem Alike.supported {t : SessionType} {s s' : Session P} (h : Alike s s')
    (hf : s.low_latency_allowed_ = s'.low_latency_allowed_) :
    s.getSupportedLatencyModes t = s'.getSupportedLatencyModes t := by
  simp only [getSupportedLatencyModes, h.ready, h.latency_modes_, hf]

/-- Sessions alike with one flag show the same modes from then on. -/
theorem Alike.modesAlong {t : SessionType} {s s' : Session P} (h : Alike s s')
    (hf : s.low_latency_allowed_ = s'.low_latency_allowed_) (reports : List Bool) :
    s.modesAlong t reports = s'.modesAlong t reports := by
  induction reports generalizing s s' with
  | nil => exact congrArg (fun modes => [modes]) (h.supported hf)
  | cons allowed reports ih =>
    have hnext := ih (h.report (t := t) allowed) (by rw [low_latency_allowed_next, low_latency_allowed_next, hf])
    rw [Session.modesAlong, Session.modesAlong, h.supported hf, hnext]

/-- The flag decides over one mode. -/
theorem mem_supported {t : SessionType} {s : Session P} (ht : t = .a2dpHardwareOffloadEncodingDatapath)
    (hr : s.isSessionReady t = true) (hm : .lowLatency ∈ s.latency_modes_) :
    .lowLatency ∈ s.getSupportedLatencyModes t ↔ s.low_latency_allowed_ = true := by
  subst ht
  simp [getSupportedLatencyModes, hr, hm]

/-- Without that mode the flag does not show. -/
theorem Alike.supported_of_notMem {t : SessionType} {s s' : Session P} (h : Alike s s')
    (hm : .lowLatency ∉ s.latency_modes_) : s.getSupportedLatencyModes t = s'.getSupportedLatencyModes t := by
  have hf : (s.latency_modes_.filter fun mode => if !s.low_latency_allowed_ && mode == .lowLatency then false
        else !(mode == .dynamicSpatialAudioSoftware || mode == .dynamicSpatialAudioHardware)) =
      s.latency_modes_.filter fun mode => if !s'.low_latency_allowed_ && mode == .lowLatency then false
        else !(mode == .dynamicSpatialAudioSoftware || mode == .dynamicSpatialAudioHardware) := by
    apply List.filter_congr
    intro mode hmode
    have hne : (mode == LatencyMode.lowLatency) = false := by
      rw [beq_eq_false_iff_ne]
      rintro rfl
      exact hm hmode
    simp only [hne, Bool.and_false]
  rw [getSupportedLatencyModes, getSupportedLatencyModes, hf, h.ready, h.latency_modes_]

theorem nodup_supported {t : SessionType} {s : Session P} (h : s.latency_modes_.Nodup) :
    (s.getSupportedLatencyModes t).Nodup := by
  unfold getSupportedLatencyModes
  split
  · exact List.nodup_nil
  · split
    · exact h.sublist List.filter_sublist
    · exact h.sublist List.filter_sublist

theorem nodup_report {t : SessionType} {s : Session P} (h : s.latency_modes_.Nodup) (allowed : Bool) :
    (s.next t (.reportLowLatencyModeAllowedChanged allowed)).latency_modes_.Nodup := by
  simp only [next, step, reportLowLatencyModeAllowedChanged]
  split
  · exact h
  · dsimp only
    split
    case isFalse => exact h
    case isTrue hc =>
      have hn : .lowLatency ∉ s.latency_modes_ := by simpa using (Bool.and_eq_true_iff.1 hc).2
      rw [List.nodup_append]
      refine ⟨h, by simp, ?_⟩
      intro mode hmode mode' hmode'
      obtain rfl := List.mem_singleton.1 hmode'
      rintro rfl
      exact hn hmode

theorem nodup_modesAlong {t : SessionType} {s : Session P} (h : s.latency_modes_.Nodup) (reports : List Bool) :
    ∀ modes ∈ s.modesAlong t reports, modes.Nodup := by
  induction reports generalizing s with
  | nil =>
    intro modes hm
    obtain rfl := List.mem_singleton.1 hm
    exact nodup_supported h
  | cons allowed reports ih =>
    intro modes hm
    rcases List.mem_cons.1 hm with rfl | hm
    · exact nodup_supported h
    · exact ih (nodup_report h allowed) modes hm

end Session

/-! ## Two histories -/

namespace AcceptedStart
variable {t : SessionType}

/-- The session started anew keeps the flag and the observers of its history. -/
theorem after_eq (start : AcceptedStart t P) (history : List (SessionEvent P)) :
    start.after history = ⟨some start.stack_iface, start.mq_desc, some start.audio_config, start.latency_modes,
      (Runs.run (Session.next t) .init history).low_latency_allowed_,
      (Runs.run (Session.next t) .init history).observers_⟩ := by
  rw [after, Runs.run_append, Runs.run_cons, Runs.run_cons, Runs.run_nil, Session.next, Session.step]
  rcases Session.onSessionStarted_cases t ((Runs.run (Session.next t) .init history).next t .onSessionEnded)
    (some start.stack_iface) start.mq_desc start.audio_config start.latency_modes with
    ⟨hn, -⟩ | ⟨hq, -⟩ | ⟨host, hh, -, -, h⟩
  · rw [start.accepted] at hn
    simp at hn
  · obtain ⟨-, -, desc, hd, hf⟩ := hq
    rw [start.valid desc hd] at hf
    cases hf
  · cases hh
    rw [h]
    rfl

theorem alike_after (start : AcceptedStart t P) (history history' : List (SessionEvent P)) :
    Session.Alike (start.after history) (start.after history') := by
  rw [start.after_eq, start.after_eq]
  exact ⟨rfl, rfl, rfl, rfl⟩

theorem allowed_after (start : AcceptedStart t P) (history : List (SessionEvent P)) :
    (start.after history).low_latency_allowed_ =
      if t = .a2dpHardwareOffloadEncodingDatapath then lastAllowed true history else true := by
  rw [start.after_eq, Session.low_latency_allowed_run]
  rfl

theorem nodup_after (start : AcceptedStart t P) (history : List (SessionEvent P)) :
    (start.after history).latency_modes_.Nodup := by
  rw [start.after_eq]
  exact start.nodup

/-- A session of the A2DP offload encoding type without a queue is ready. -/
theorem ready_after (start : AcceptedStart t P) (history : List (SessionEvent P))
    (ht : t = .a2dpHardwareOffloadEncodingDatapath) : (start.after history).isSessionReady t = true := by
  rw [start.after_eq, Session.ready_iff]
  subst ht
  exact ⟨rfl, .inl rfl, rfl⟩

/-- What a session shows after a start depends on its history exactly where an
A2DP offload encoding session with the low latency mode follows histories whose
last reports differ. -/
theorem noLeak_iff (start : AcceptedStart t P) (history history' : List (SessionEvent P)) (reports : List Bool) :
    start.NoLeak history history' reports ↔
      (t = .a2dpHardwareOffloadEncodingDatapath → .lowLatency ∈ start.latency_modes →
        lastAllowed true history = lastAllowed true history') := by
  have halike := start.alike_after history history'
  have hdup : (∀ modes ∈ (start.after history).modesAlong t reports, modes.Nodup) ∧
      ∀ modes ∈ (start.after history').modesAlong t reports, modes.Nodup :=
    ⟨Session.nodup_modesAlong (start.nodup_after history) reports,
      Session.nodup_modesAlong (start.nodup_after history') reports⟩
  rw [NoLeak, and_iff_left hdup]
  have hmodes : ∀ h, (start.after h).latency_modes_ = start.latency_modes := fun h => by rw [start.after_eq]
  constructor
  · intro h ht hm
    have hhead : (start.after history).getSupportedLatencyModes t = (start.after history').getSupportedLatencyModes t := by
      cases reports with
      | nil => exact (List.cons.inj h).1
      | cons allowed reports => exact (List.cons.inj h).1
    have hl := Session.mem_supported ht (start.ready_after history ht) (by rwa [hmodes])
    have hr := Session.mem_supported ht (start.ready_after history' ht) (by rwa [hmodes])
    rw [hhead, hr, start.allowed_after, start.allowed_after, if_pos ht, if_pos ht] at hl
    exact Bool.eq_iff_iff.2 hl.symm
  · intro h
    by_cases hf : (start.after history).low_latency_allowed_ = (start.after history').low_latency_allowed_
    · exact halike.modesAlong hf reports
    · -- The flags differ, so the type listens and the mode is not among the modes.
      have ht : t = .a2dpHardwareOffloadEncodingDatapath := by
        by_contra ht
        rw [start.allowed_after, start.allowed_after, if_neg ht, if_neg ht] at hf
        exact hf rfl
      have hm : .lowLatency ∉ start.latency_modes := by
        intro hm
        rw [start.allowed_after, start.allowed_after, if_pos ht, if_pos ht] at hf
        exact hf (h ht hm)
      have hhead := halike.supported_of_notMem (t := t) (by rwa [hmodes])
      cases reports with
      | nil => exact congrArg (fun modes => [modes]) hhead
      | cons allowed reports =>
        have hnext : ((start.after history).next t (.reportLowLatencyModeAllowedChanged allowed)).low_latency_allowed_ =
            ((start.after history').next t (.reportLowLatencyModeAllowedChanged allowed)).low_latency_allowed_ := by
          rw [Session.low_latency_allowed_next, Session.low_latency_allowed_next, if_pos ht, if_pos ht]
          rfl
        rw [Session.modesAlong, Session.modesAlong, hhead, (halike.report allowed).modesAlong hnext reports]

/-- An A2DP offload encoding session with the low latency mode. -/
def lowLatencyStart : AcceptedStart .a2dpHardwareOffloadEncodingDatapath Unit where
  stack_iface := 1
  mq_desc := none
  audio_config := ⟨.a2dpConfig, ()⟩
  latency_modes := [.lowLatency, .free]
  accepted := rfl
  valid := by simp
  nodup := by decide

/-- After a session in which low latency was disallowed the next one starts
without the mode that it was started with. -/
theorem leak_disallowed :
    ¬ lowLatencyStart.NoLeak [.onSessionStarted (some 1) none ⟨.a2dpConfig, ()⟩ [.lowLatency, .free],
      .reportLowLatencyModeAllowedChanged false] [] [] := by
  rintro ⟨h, -⟩
  exact absurd h (by decide)

end AcceptedStart

end PhhTreble.Audio

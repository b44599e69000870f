import PhhTreble.Audio.Providers
/-!
# One configuration in two places

A provider and its session each keep the configuration. The session takes over
a new one while it runs only for the LE audio unicast offload types.
-/

namespace PhhTreble.Audio

/-! ## The latest configuration -/

structure Tracked where
  provider : Provider
  /-- The configuration of the latest call that counts. -/
  latest : Option Configuration
deriving DecidableEq, Repr

namespace Tracked

/-- Whether a call that returns ok counts; of updates `updates` says so. -/
def counts (updates : Bool) : ProviderCall → Bool
  | .updateAudioConfiguration _ => updates
  | _ => true

def next (c : ProviderClass) (updates : Bool) (h : Tracked) (call : ProviderCall) : Tracked :=
  let (given, p) := h.provider.step c call
  ⟨p, if counts updates call then given.or h.latest else h.latest⟩

/-- `GetAudioConfig` of a ready session is the latest configuration. -/
def Agrees (c : ProviderClass) (h : Tracked) : Prop :=
  h.provider.Ready c →
    (h.provider.world.session.getAudioConfig c.sessionType) ∈ h.latest.map Configuration.toAudio

end Tracked

/-- A call that starts no session. -/
def NoStart : ProviderCall → Prop
  | .startSession _ _ _ _ => False
  | _ => True

/-! ## The invariant -/

/-- What holds of a provider in every run of its calls. -/
structure Inv (c : ProviderClass) (h : Tracked) : Prop where
  /-- A queue made once is valid. -/
  queue : c.makesQueueOnce = true → h.provider.data_mq_.any (·.valid) = true
  /-- The provider's configuration has a tag of the type. -/
  accepted : ∀ a, h.provider.world.audio_config_ = some a → c.sessionType.accepts a.tag = true
  /-- A session with a port belongs to the provider's host, whose link is there. -/
  linked : h.provider.world.session.stack_iface_.isSome →
    ∃ host, h.provider.world.stack_iface_ = some host ∧ host ∈ h.provider.world.links.map (·.binder)
  /-- A ready session holds the latest configuration. -/
  holds : h.provider.Ready c → h.provider.world.session.audio_config_ = h.latest.map Configuration.toAudio

theorem Inv.agrees {c : ProviderClass} {h : Tracked} (hi : Inv c h) : h.Agrees c := by
  intro hr
  have ha := hi.holds hr
  cases hl : h.latest with
  | none =>
    have hc := ((Session.ready_iff _ _).1 hr).2.2
    rw [ha, hl] at hc
    cases hc
  | some audio_config =>
    rw [hl, Option.map_some] at ha
    rw [Session.getAudioConfig_ready hr ha]
    rfl

/-- What the base class's start sets beside the session. -/
theorem World.startSession_fields {P : Type} (t : SessionType) (w : World P) (host : Host)
    (audio_config : AudioConfiguration P) (latency_modes : List LatencyMode) (data_mq_ : Option DataMQ) :
    let w' := w.startSession t (some host) audio_config latency_modes data_mq_
    w'.stack_iface_ = some host ∧ w'.audio_config_ = some audio_config ∧
      w'.links = ⟨host, .context w.contexts⟩ :: w.links := by
  by_cases ho : t.isOffload = true
  · simp [startSession, onSessionReady, ho]
  · cases data_mq_ with
    | none => simp [startSession, onSessionReady, ho]
    | some mq => by_cases hv : mq.valid = true <;> simp [startSession, onSessionReady, ho, hv]

theorem makesQueue_cases (c : ProviderClass) :
    c.sessionType.isOffload = true ∨ c.makesQueue = true ∨ c.makesQueueOnce = true := by
  cases c <;> first | exact .inl rfl | exact .inr (.inl rfl) | exact .inr (.inr rfl)

/-- A queue made once is made for a software type, and no other one is. -/
theorem makesQueueOnce_only {c : ProviderClass} (h : c.makesQueueOnce = true) :
    c.makesQueue = false ∧ c.sessionType.isOffload = false := by
  cases c <;> first | exact ⟨rfl, rfl⟩ | cases h

/-- A call that is refused changes nothing but a queue of a class that makes one
every time. -/
theorem Provider.startSession_refused {c : ProviderClass} {p p' : Provider} {host_if : Option Host}
    {audio_config : Configuration} {latency_modes : List LatencyMode} {temp_data_mq : Option DataMQ}
    (h : p.startSession c host_if audio_config latency_modes temp_data_mq = (false, p')) :
    p'.world = p.world ∧ (c.makesQueue = false → p'.data_mq_ = p.data_mq_) := by
  unfold startSession at h
  split at h
  · injection h with _ hp
    exact ⟨by rw [hp], fun _ => by rw [hp]⟩
  · split at h
    · injection h with _ hp
      exact ⟨by rw [hp], fun _ => by rw [hp]⟩
    · cases host_if with
      | some host => cases h
      | none =>
        injection h with _ hp
        exact ⟨by rw [← hp]; rfl, fun hm => by rw [← hp, hm]; rfl⟩

/-- Once the configuration is accepted a start leaves it or none. -/
theorem Session.onSessionStarted_audio {P : Type} {t : SessionType} (s : Session P) (host : Host)
    (mq_desc : Option DataMQDesc) {audio_config : AudioConfiguration P} (latency_modes : List LatencyMode)
    (ha : t.accepts audio_config.tag = true) :
    let s' := (s.onSessionStarted t (some host) mq_desc audio_config latency_modes).1
    s'.audio_config_ = none ∨ s'.audio_config_ = some audio_config := by
  rcases onSessionStarted_cases t s (some host) mq_desc audio_config latency_modes with
    ⟨hn, -⟩ | ⟨-, hr⟩ | ⟨host', -, -, -, hr⟩
  · rcases hn with hn | hn
    · cases hn
    · rw [hn] at ha
      cases ha
  · rw [hr]
    exact .inl rfl
  · rw [hr]
    exact .inr rfl

namespace Inv
variable {c : ProviderClass} {h : Tracked}

theorem startSession (hi : Inv c h) (updates : Bool) (host_if : Option Host) (audio_config : Configuration)
    (latency_modes : List LatencyMode) (temp_data_mq : Option DataMQ) :
    Inv c (h.next c updates (.startSession host_if audio_config latency_modes temp_data_mq)) := by
  simp only [Tracked.next, Provider.step, Tracked.counts, if_true]
  rcases hr : h.provider.startSession c host_if audio_config latency_modes temp_data_mq with ⟨_ | _, p'⟩
  · obtain ⟨hw, hd⟩ := Provider.startSession_refused hr
    refine ⟨fun honce => ?_, ?_, ?_, ?_⟩
    · simp only [hd (makesQueueOnce_only honce).1]
      exact hi.queue honce
    · simp only [hw]
      exact hi.accepted
    · simp only [hw]
      exact hi.linked
    · simp only [Provider.Ready, hw]
      exact hi.holds
  · obtain ⟨host, -, hacc, htemp, rfl⟩ := Provider.startSession_ok hr
    generalize hmq : (if c.makesQueue then temp_data_mq else h.provider.data_mq_) = data_mq_
    have hvalid : c.sessionType.isOffload = true ∨ data_mq_.any (·.valid) = true := by
      rcases makesQueue_cases c with ho | hm | honce
      · exact .inl ho
      · rw [← hmq, if_pos hm]
        exact .inr (htemp hm)
      · rw [← hmq, (makesQueueOnce_only honce).1]
        exact .inr (hi.queue honce)
    have ha : c.sessionType.accepts audio_config.toAudio.tag = true := accepts_of_accepts hacc
    obtain ⟨hstack, haudio, hlinks⟩ :=
      World.startSession_fields c.sessionType h.provider.world host audio_config.toAudio latency_modes data_mq_
    have hsession := World.session_startSession h.provider.world host audio_config.toAudio latency_modes hvalid
    refine ⟨fun honce => ?_, ?_, ?_, ?_⟩
    · exact hvalid.resolve_left (Bool.not_eq_true _ ▸ (makesQueueOnce_only honce).2)
    · intro a hcur
      simp only [haudio] at hcur
      cases hcur
      exact ha
    · intro _
      exact ⟨host, hstack, by simp [hlinks]⟩
    · intro hready
      have hc := ((Session.ready_iff _ _).1 hready).2.2
      simp only at hc ⊢
      rw [hsession] at hc ⊢
      rcases Session.onSessionStarted_audio h.provider.world.session host (queueDesc c.sessionType data_mq_) latency_modes
        ha with hn | hs
      · rw [hn] at hc
        cases hc
      · rw [hs]
        rfl

theorem endSession (hi : Inv c h) (updates : Bool) : Inv c (h.next c updates .endSession) := by
  simp only [Tracked.next, Provider.step, Tracked.counts, if_true, Option.none_or, Provider.endSession]
  have hstack : (h.provider.world.endSession c.sessionType).session.stack_iface_ = none := by
    unfold World.endSession
    cases hs : h.provider.world.stack_iface_ with
    | some host => rfl
    | none =>
      simp only
      by_contra hn
      obtain ⟨host, hh, -⟩ := hi.linked (Option.isSome_iff_ne_none.2 hn)
      rw [hs] at hh
      cases hh
  refine ⟨hi.queue, ?_, ?_, ?_⟩
  · intro a ha
    cases ha
  · intro hsome
    simp only [hstack] at hsome
    cases hsome
  · intro hready
    exact absurd hready (Session.not_ready_of_stack hstack)

end Inv

theorem World.updateAudioConfiguration_cases {P : Type} (t : SessionType) (w : World P) (a : AudioConfiguration P) :
    w.updateAudioConfiguration t a = (false, w) ∨
      ∃ host current, w.stack_iface_ = some host ∧ w.audio_config_ = some current ∧ a.tag = current.tag ∧
        w.updateAudioConfiguration t a =
          (true, { w with audio_config_ := some a, session := (w.session.reportAudioConfigChanged t a).1 }) := by
  unfold updateAudioConfiguration
  split
  · rename_i host current hs hc
    by_cases htag : a.tag = current.tag
    · exact .inr ⟨host, current, hs, hc, htag, if_neg (not_not.2 htag)⟩
    · exact .inl (if_pos htag)
  · exact .inl rfl

/-- A death with a link ends the session; one without leaves it. -/
theorem World.death_cases {P : Type} (t : SessionType) (w : World P) (host : Host) :
    (host ∉ w.links.map (·.binder) ∧ (w.death t host).session = w.session) ∨
      (w.death t host).session.stack_iface_ = none := by
  have hend : ∀ (ls : List Link) (s : Session P), ls ≠ [] →
      (ls.foldl (fun s _ => (s.onSessionEnded t).1) s).stack_iface_ = none := by
    intro ls
    induction ls with
    | nil =>
      intro s hne
      exact absurd rfl hne
    | cons l ls ih =>
      intro s _
      cases ls with
      | nil => rfl
      | cons l' ls => exact ih (s.onSessionEnded t).1 (List.cons_ne_nil _ _)
  by_cases hl : w.links.filter (·.binder = host) = []
  · refine .inl ⟨?_, ?_⟩
    · intro hm
      obtain ⟨l, hmem, rfl⟩ := List.mem_map.1 hm
      exact List.filter_eq_nil_iff.1 hl l hmem (decide_eq_true rfl)
    · rw [death, hl]
      rfl
  · exact .inr (hend _ _ hl)

/-- The unicast offload types accept one tag. -/
theorem tag_of_accepts {t : SessionType} {tag : Tag} (ht : t.isLeUnicastOffload = true) (h : t.accepts tag = true) :
    tag = .leAudioConfig := by
  have hcases : t = .leAudioHardwareOffloadEncodingDatapath ∨ t = .leAudioHardwareOffloadDecodingDatapath := by
    simpa [SessionType.isLeUnicastOffload] using ht
  rcases hcases with rfl | rfl
  · cases tag <;> first | rfl | cases h
  · cases tag <;> first | rfl | cases h

theorem stack_reportAudioConfigChanged {P : Type} (t : SessionType) (s : Session P) (a : AudioConfiguration P) :
    (s.reportAudioConfigChanged t a).1.stack_iface_ = s.stack_iface_ := by
  rcases Session.reportAudioConfigChanged_cases t s a with h | ⟨-, -, h⟩
  · rw [h]
  · rw [h]

namespace Inv
variable {c : ProviderClass} {h : Tracked}

theorem updateAudioConfiguration (hi : Inv c h) (audio_config : Configuration) :
    Inv c (h.next c c.sessionType.isLeUnicastOffload (.updateAudioConfiguration audio_config)) := by
  simp only [Tracked.next, Provider.step, Tracked.counts, Provider.updateAudioConfiguration]
  rcases World.updateAudioConfiguration_cases c.sessionType h.provider.world audio_config.toAudio with
    hr | ⟨host, current, hs, hc, htag, hr⟩
  · simp only [hr, Bool.false_eq_true, if_false, Option.none_or, ite_self]
    exact ⟨hi.queue, hi.accepted, hi.linked, hi.holds⟩
  · simp only [hr, if_true, Option.some_or]
    have ha : c.sessionType.accepts audio_config.toAudio.tag = true := htag ▸ hi.accepted current hc
    refine ⟨hi.queue, ?_, ?_, ?_⟩
    · rintro a ⟨⟩
      exact ha
    · simp only [stack_reportAudioConfigChanged]
      exact hi.linked
    · intro hready
      by_cases ht : c.sessionType.isLeUnicastOffload = true
      · rw [if_pos ht]
        simp only [Option.map_some, Session.reportAudioConfigChanged, ht,
          tag_of_accepts ht ha, Bool.not_true, Bool.false_eq_true, if_false, ne_eq, not_true_eq_false]
      · -- The session drops the report, and the update does not count.
        have hdrop : (h.provider.world.session.reportAudioConfigChanged c.sessionType audio_config.toAudio).1 =
            h.provider.world.session := by
          rw [Session.reportAudioConfigChanged, if_pos (by simpa using ht)]
        rw [if_neg ht]
        simp only [Provider.Ready, World.Ready, hdrop] at hready ⊢
        exact hi.holds hready

theorem death (hi : Inv c h) (updates : Bool) (host : Host) : Inv c (h.next c updates (.death host)) := by
  simp only [Tracked.next, Provider.step, Tracked.counts, if_true, Option.none_or, Provider.death]
  refine ⟨hi.queue, hi.accepted, ?_, ?_⟩
  · intro hsome
    rcases World.death_cases c.sessionType h.provider.world host with ⟨hn, hs⟩ | hs
    · simp only [hs] at hsome
      obtain ⟨host', hh, hm⟩ := hi.linked hsome
      refine ⟨host', hh, ?_⟩
      obtain ⟨l, hl, rfl⟩ := List.mem_map.1 hm
      refine List.mem_map.2 ⟨l, List.mem_filter.2 ⟨hl, ?_⟩, rfl⟩
      simp only [ne_eq, decide_not, Bool.not_eq_true', decide_eq_false_iff_not]
      intro he
      exact hn (he ▸ hm)
    · simp only [hs] at hsome
      cases hsome
  · intro hready
    rcases World.death_cases c.sessionType h.provider.world host with ⟨-, hs⟩ | hs
    · simp only [Provider.Ready, World.Ready, hs] at hready ⊢
      exact hi.holds hready
    · exact absurd hready (Session.not_ready_of_stack hs)

theorem next (hi : Inv c h) (call : ProviderCall) : Inv c (h.next c c.sessionType.isLeUnicastOffload call) := by
  cases call with
  | startSession host_if audio_config latency_modes temp_data_mq => exact hi.startSession _ _ _ _ _
  | endSession => exact hi.endSession _
  | updateAudioConfiguration audio_config => exact hi.updateAudioConfiguration _
  | death host => exact hi.death _ _

end Inv

theorem inv_new {c : ProviderClass} {data_mq_ : Option DataMQ}
    (hq : c.makesQueueOnce = true → data_mq_.any (·.valid) = true) : Inv c ⟨⟨data_mq_, .init .init⟩, none⟩ := by
  refine ⟨hq, ?_, ?_, ?_⟩
  · intro a ha
    cases ha
  · intro hsome
    cases hsome
  · intro hready
    exact absurd hready (Session.not_ready_of_stack rfl)

theorem inv_openProvider {c : ProviderClass} {data_mq : Option DataMQ} {p : Provider}
    (h : Provider.openProvider c data_mq .init = some p) : Inv c ⟨p, none⟩ := by
  unfold Provider.openProvider at h
  split at h
  · split at h
    · rename_i hv
      cases h
      exact inv_new fun _ => hv
    · cases h
  · rename_i honce
    cases h
    exact inv_new fun h => absurd h honce

/-! ## After an end or a death -/

/-- The provider after a run of calls. -/
def Provider.run (c : ProviderClass) (p : Provider) (calls : List ProviderCall) : Provider :=
  Runs.run (fun p call => (p.step c call).2) p calls

theorem run_split (c : ProviderClass) (p : Provider) (pre : List ProviderCall) (call : ProviderCall)
    (mid : List ProviderCall) : p.run c (pre ++ call :: mid) = ((p.run c pre).step c call).2.run c mid :=
  Runs.run_append _ _ _ _

theorem run_provider (c : ProviderClass) (updates : Bool) (h : Tracked) (calls : List ProviderCall) :
    (Runs.run (Tracked.next c updates) h calls).provider = h.provider.run c calls := by
  induction calls generalizing h with
  | nil => rfl
  | cons call calls ih => exact ih (h.next c updates call)

/-- Only a start gives a session a port. -/
theorem session_stack_none {c : ProviderClass} {p : Provider} {call : ProviderCall} (hn : NoStart call)
    (hs : p.world.session.stack_iface_ = none) : (p.step c call).2.world.session.stack_iface_ = none := by
  cases call with
  | startSession host_if audio_config latency_modes temp_data_mq => exact hn.elim
  | endSession =>
    simp only [Provider.step, Provider.endSession, World.endSession]
    split
    · rfl
    · exact hs
  | updateAudioConfiguration audio_config =>
    simp only [Provider.step, Provider.updateAudioConfiguration]
    rcases World.updateAudioConfiguration_cases c.sessionType p.world audio_config.toAudio with
      hr | ⟨host, current, -, -, -, hr⟩
    · simpa only [hr] using hs
    · simpa only [hr, stack_reportAudioConfigChanged] using hs
  | death host =>
    simp only [Provider.step, Provider.death]
    rcases World.death_cases c.sessionType p.world host with ⟨-, hr⟩ | hr
    · rw [hr]
      exact hs
    · exact hr

theorem provider_stack_none {c : ProviderClass} {p : Provider} {call : ProviderCall} (hn : NoStart call)
    (hs : p.world.stack_iface_ = none) : (p.step c call).2.world.stack_iface_ = none := by
  cases call with
  | startSession host_if audio_config latency_modes temp_data_mq => exact hn.elim
  | endSession => rfl
  | updateAudioConfiguration audio_config =>
    simp only [Provider.step, Provider.updateAudioConfiguration]
    rcases World.updateAudioConfiguration_cases c.sessionType p.world audio_config.toAudio with
      hr | ⟨host, current, hh, -, -, -⟩
    · simpa only [hr] using hs
    · rw [hs] at hh
      cases hh
  | death host => exact hs

/-- What calls without a start keep holds after them. -/
theorem run_noStart {c : ProviderClass} {K : Provider → Prop}
    (hK : ∀ {p call}, NoStart call → K p → K (p.step c call).2) {p : Provider} (h0 : K p) {calls : List ProviderCall}
    (hn : ∀ call ∈ calls, NoStart call) : K (p.run c calls) := by
  induction calls generalizing p with
  | nil => exact h0
  | cons call calls ih =>
    obtain ⟨hcall, hcalls⟩ := List.forall_mem_cons.1 hn
    exact ih (hK hcall h0) hcalls

/-- A provider with no session refuses an update and stays as it is. -/
def Refuses (c : ProviderClass) (p : Provider) : Prop :=
  ∀ audio_config, p.updateAudioConfiguration c audio_config = (false, p)

theorem refuses_of_stack_none {c : ProviderClass} {p : Provider} (hs : p.world.stack_iface_ = none) : Refuses c p := by
  intro audio_config
  simp only [Provider.updateAudioConfiguration, World.updateAudioConfiguration, hs]

/-- The death of the provider's host takes the session's port. -/
theorem Inv.session_stack_death {c : ProviderClass} {h : Tracked} (hi : Inv c h) {host : Host}
    (hh : h.provider.world.stack_iface_ = some host) :
    (h.provider.step c (.death host)).2.world.session.stack_iface_ = none := by
  simp only [Provider.step, Provider.death]
  rcases World.death_cases c.sessionType h.provider.world host with ⟨hn, hs⟩ | hs
  · rw [hs]
    by_contra hne
    obtain ⟨host', hh', hm⟩ := hi.linked (Option.isSome_iff_ne_none.2 hne)
    rw [hh] at hh'
    cases hh'
    exact hn hm
  · exact hs

/-- A ready session has the configuration of the latest start that returned ok,
or for LE audio unicast offload of the latest start or update. After the death of
its host no update makes it ready before the next start, and after an end
updates are refused and change nothing. -/
theorem agrees_run (c : ProviderClass) (data_mq : Option DataMQ) (p : Provider)
    (hopen : Provider.openProvider c data_mq .init = some p) (calls : List ProviderCall) :
    Runs.Always (Tracked.next c c.sessionType.isLeUnicastOffload) (Tracked.Agrees c) ⟨p, none⟩ calls ∧
      (∀ pre host mid, calls = pre ++ .death host :: mid → (p.run c pre).world.stack_iface_ = some host →
        (∀ call ∈ mid, NoStart call) → ¬ (p.run c calls).Ready c) ∧
      ∀ pre mid, calls = pre ++ .endSession :: mid → (∀ call ∈ mid, NoStart call) → Refuses c (p.run c calls) := by
  have h0 := inv_openProvider hopen
  refine ⟨?_, ?_, ?_⟩
  · apply Runs.always_of_inv (J := Inv c) _ _ h0
    · intro h call hi
      exact hi.next call
    · intro h hi
      exact hi.agrees
  · rintro pre host mid rfl hh hn
    have hi := Runs.run_inv (J := Inv c) (fun h call hi => hi.next call) h0 pre
    rw [← run_provider c c.sessionType.isLeUnicastOffload ⟨p, none⟩ pre] at hh
    have hs := hi.session_stack_death hh
    rw [run_provider] at hs
    apply Session.not_ready_of_stack
    rw [run_split]
    exact run_noStart (K := fun p => p.world.session.stack_iface_ = none) session_stack_none hs hn
  · rintro pre mid rfl hn
    apply refuses_of_stack_none
    rw [run_split]
    exact run_noStart (K := fun p => p.world.stack_iface_ = none) provider_stack_none rfl hn

/-- A broadcast provider is started with no stream and updated to one; the update
returns ok. -/
def broadcastCalls : List ProviderCall :=
  [.startSession (some 1) (.leAudioBroadcastConfig ⟨[], 0⟩) [] none,
    .updateAudioConfiguration (.leAudioBroadcastConfig ⟨[⟨1, .other 0⟩], 0⟩)]

theorem agrees_run_broadcast :
    let c := ProviderClass.leAudioOffloadBroadcast
    let p : Provider := ⟨none, .init .init⟩
    let calls := broadcastCalls ++ [ProviderCall.endSession]
    Runs.Always (Tracked.next c c.sessionType.isLeUnicastOffload) (Tracked.Agrees c) ⟨p, none⟩ calls ∧
      Refuses c (p.run c calls) := by
  intro c p calls
  obtain ⟨hagrees, -, hends⟩ := agrees_run c none p rfl calls
  refine ⟨hagrees, hends broadcastCalls [] rfl ?_⟩
  intro call hm
  cases hm

/-- With every update counted the session does not have the latest configuration. -/
theorem agrees_run_updates :
    Provider.openProvider .leAudioOffloadBroadcast none .init = some ⟨none, .init .init⟩ ∧
      ¬ Runs.Always (Tracked.next .leAudioOffloadBroadcast true) (Tracked.Agrees .leAudioOffloadBroadcast)
        ⟨⟨none, .init .init⟩, none⟩ broadcastCalls := by
  refine ⟨rfl, ?_⟩
  rintro ⟨-, -, h⟩
  exact absurd (h (by decide)) (by decide)

end PhhTreble.Audio

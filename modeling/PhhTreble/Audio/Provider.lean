import PhhTreble.Audio.Session
import PhhTreble.Lib.Runs
/-!
# BluetoothAudioProvider

One provider, the session of its type and the binder driver's death links. The
binder library removes a link only when binder, recipient and cookie are those
it was made with, and a death fires every link that is still there.
-/

namespace PhhTreble.Audio

variable {P : Type}

/-! ## The data model -/

/-- What a link carries: `this`, or a `BluetoothAudioProviderContext` that
`startSession` allocates. -/
inductive Cookie where
  | this
  | context (n : Nat)
deriving DecidableEq, Repr

/-- An `AIBinder_linkToDeath` on the provider's death recipient. -/
structure Link where
  binder : Host
  cookie : Cookie
deriving DecidableEq, Repr

/-- The provider's `data_mq_`: whether it is valid, and its descriptor. -/
structure DataMQ where
  valid : Bool
  dupeDesc : DataMQDesc
deriving DecidableEq, Repr

structure World (P : Type) where
  stack_iface_ : Option Host
  audio_config_ : Option (AudioConfiguration P)
  latency_modes_ : List LatencyMode
  /-- The contexts allocated so far. -/
  contexts : Nat
  links : List Link
  session : Session P
deriving DecidableEq, Repr

/-- A new provider beside a session. -/
def World.init (session : Session P) : World P := ⟨none, none, [], 0, [], session⟩

inductive ProviderEvent (P : Type) where
  /-- `BluetoothAudioProvider::startSession`, reached after the checks of the
  subclass, with the queue the subclass has by then. -/
  | startSession (host_if : Option Host) (audio_config : AudioConfiguration P) (latencyModes : List LatencyMode)
      (data_mq_ : Option DataMQ)
  | endSession
  | death (host : Host)
deriving DecidableEq, Repr

/-! ## The steps -/

namespace World

/-- `AIBinder_unlinkToDeath` on the provider's death recipient. -/
def unlinkToDeath (w : World P) (binder : Host) (cookie : Cookie) : World P :=
  { w with links := w.links.erase ⟨binder, cookie⟩ }

/-- `onSessionReady` of the subclass: an offload provider passes no queue, a
software one gives up without a valid queue. -/
def onSessionReady (t : SessionType) (w : World P) (data_mq_ : Option DataMQ) : World P :=
  match w.audio_config_ with
  | none => w
  | some audio_config =>
    if t.isOffload then
      { w with session := (w.session.onSessionStarted t w.stack_iface_ none audio_config w.latency_modes_).1 }
    else match data_mq_ with
      | some mq =>
        if mq.valid then
          { w with session := (w.session.onSessionStarted t w.stack_iface_ (some mq.dupeDesc) audio_config w.latency_modes_).1 }
        else w
      | none => w

def startSession (t : SessionType) (w : World P) (host_if : Option Host) (audio_config : AudioConfiguration P)
    (latencyModes : List LatencyMode) (data_mq_ : Option DataMQ) : World P :=
  match host_if with
  | none => w
  | some host =>
    let w := { w with latency_modes_ := latencyModes, audio_config_ := some audio_config, stack_iface_ := some host }
    -- The link of the host before, if any, stays.
    let cookie := Cookie.context w.contexts
    let w := { w with contexts := w.contexts + 1, links := ⟨host, cookie⟩ :: w.links }
    onSessionReady t w data_mq_

def endSession (t : SessionType) (w : World P) : World P :=
  let w := match w.stack_iface_ with
    -- The cookie is not the one the link was made with.
    | some host => unlinkToDeath { w with session := (w.session.onSessionEnded t).1 } host .this
    | none => w
  { w with stack_iface_ := none, audio_config_ := none }

/-- `binderDiedCallbackAidl`, once for each link on the host. -/
def death (t : SessionType) (w : World P) (host : Host) : World P :=
  { w with
    session := (w.links.filter (·.binder = host)).foldl (fun s _ => (s.onSessionEnded t).1) w.session
    links := w.links.filter (·.binder ≠ host) }

def step (t : SessionType) (w : World P) : ProviderEvent P → World P
  | .startSession host_if audio_config latencyModes data_mq_ => startSession t w host_if audio_config latencyModes data_mq_
  | .endSession => endSession t w
  | .death host => death t w host

/-- The session of the provider's type is ready. -/
def Ready (t : SessionType) (w : World P) : Prop := w.session.isSessionReady t = true

instance (t : SessionType) (w : World P) : Decidable (w.Ready t) := inferInstanceAs (Decidable (_ = true))

end World

/-! ## What a history says -/

/-- The host of the latest `startSession` that no `endSession` followed. -/
def currentHost : List (ProviderEvent P) → Option Host → Option Host
  | [], h => h
  | .startSession (some host) _ _ _ :: es, _ => currentHost es (some host)
  | .startSession none _ _ _ :: es, h => currentHost es h
  | .endSession :: es, _ => currentHost es none
  | .death _ :: es, h => currentHost es h

/-- The hosts passed to `startSession` since they last died. -/
def startedHosts : List (ProviderEvent P) → List Host → List Host
  | [], hs => hs
  | .startSession (some host) _ _ _ :: es, hs => startedHosts es (host :: hs)
  | .startSession none _ _ _ :: es, hs => startedHosts es hs
  | .endSession :: es, hs => startedHosts es hs
  | .death host :: es, hs => startedHosts es (hs.filter (· ≠ host))

/-! ## The links left behind -/

namespace World
variable {t : SessionType} {w : World P}

/-- Every link carries an allocated context, so unlinking with `this` finds none. -/
def ContextLinks (w : World P) : Prop := ∀ l ∈ w.links, ∃ n, l.cookie = .context n

theorem unlinkToDeath_this (h : ContextLinks w) (binder : Host) : (w.unlinkToDeath binder .this).links = w.links := by
  refine List.erase_of_not_mem fun hm => ?_
  obtain ⟨n, hn⟩ := h _ hm
  cases hn

theorem links_onSessionReady (w : World P) (data_mq_ : Option DataMQ) : (onSessionReady t w data_mq_).links = w.links := by
  unfold onSessionReady
  split
  · rfl
  · split
    · rfl
    · split
      · split <;> rfl
      · rfl

theorem links_endSession (h : ContextLinks w) : (endSession t w).links = w.links := by
  unfold endSession
  cases w.stack_iface_ with
  | none => rfl
  | some host => exact unlinkToDeath_this (w := { w with session := (w.session.onSessionEnded t).1 }) h host

theorem contextLinks_step (h : ContextLinks w) (e : ProviderEvent P) : ContextLinks (step t w e) := by
  cases e with
  | startSession host_if audio_config latencyModes data_mq_ =>
    cases host_if with
    | none => exact h
    | some host =>
      intro l hl
      simp only [step, startSession, links_onSessionReady, List.mem_cons] at hl
      rcases hl with rfl | hl
      · exact ⟨_, rfl⟩
      · exact h l hl
  | endSession => intro l hl; exact h l (by rwa [step, links_endSession h] at hl)
  | death host => intro l hl; exact h l (List.mem_filter.1 hl).1

/-- Neither an end nor a replacement of the session removes a link. -/
theorem binders_run (h : ContextLinks w) (es : List (ProviderEvent P)) :
    (Runs.run (step t) w es).links.map (·.binder) = startedHosts es (w.links.map (·.binder)) := by
  induction es generalizing w with
  | nil => rfl
  | cons e es ih =>
    rw [Runs.run_cons, ih (contextLinks_step h e)]
    cases e with
    | startSession host_if audio_config latencyModes data_mq_ =>
      cases host_if with
      | none => rfl
      | some host => simp only [step, startSession, links_onSessionReady, startedHosts, List.map_cons]
    | endSession => rw [step, links_endSession h, startedHosts]
    | death host => simp only [step, death, startedHosts, List.filter_map, Function.comp_def]

/-- A death ends the session exactly when it fires a link. -/
theorem ready_death (w : World P) (host : Host) :
    (death t w host).Ready t ↔ w.Ready t ∧ host ∉ w.links.map (·.binder) := by
  have hend : ∀ (ls : List Link) (s : Session P),
      (ls.foldl (fun s _ => (s.onSessionEnded t).1) s).isSessionReady t = true ↔ s.isSessionReady t = true ∧ ls = [] := by
    intro ls s
    induction ls generalizing s with
    | nil => simp
    | cons l ls ih => rw [List.foldl_cons, ih]; simp
  rw [Ready, death, hend, List.filter_eq_nil_iff]
  simp [Ready]

end World

/-! ## Whose death ends a session -/

/-- In this history a host's death ends the ready session only if the host is
the current one; the death of any other leaves it ready. -/
def EndedByCurrent (t : SessionType) (session : Session P) (es : List (ProviderEvent P)) : Prop :=
  ∀ pre host post, es = pre ++ .death host :: post →
    (Runs.run (World.step t) (.init session) pre).Ready t →
    ¬ (Runs.run (World.step t) (.init session) (pre ++ [.death host])).Ready t → currentHost pre none = some host

/-- Sessions are ended by the current host only, exactly in the histories where
no other host that was ever passed to `startSession` dies while the session is
ready: neither `endSession` nor a later `startSession` unlinks it. -/
theorem endedByCurrent_iff (t : SessionType) (session : Session P) (es : List (ProviderEvent P)) :
    EndedByCurrent t session es ↔
      ∀ pre host post, es = pre ++ .death host :: post →
        (Runs.run (World.step t) (.init session) pre).Ready t → host ∈ startedHosts pre [] →
        currentHost pre none = some host := by
  have hstep : ∀ pre host, (Runs.run (World.step t) (.init session) pre).Ready t →
      (¬ (Runs.run (World.step t) (.init session) (pre ++ [.death host])).Ready t ↔ host ∈ startedHosts pre []) := by
    intro pre host hr
    have hb := World.binders_run (t := t) (w := .init session) (fun l hl => nomatch hl) pre
    have hnil : (World.init session).links.map (·.binder) = [] := rfl
    rw [Runs.run_append, Runs.run_cons, Runs.run_nil, World.step, World.ready_death, hb, hnil]
    simp only [hr, true_and, not_not]
  constructor
  · intro h pre host post he hr hs
    exact h pre host post he hr ((hstep pre host hr).2 hs)
  · intro h pre host post he hr hn
    exact h pre host post he hr ((hstep pre host hr).1 hn)

/-- Host 1 starts and ends a session, host 2 starts one, host 1 dies. -/
theorem endedByCurrent_stale_link :
    ¬ EndedByCurrent (P := Unit) .a2dpHardwareOffloadEncodingDatapath .init
      [.startSession (some 1) ⟨.a2dpConfig, ()⟩ [] none, .endSession,
        .startSession (some 2) ⟨.a2dpConfig, ()⟩ [] none, .death 1] := by
  intro h
  have := h [.startSession (some 1) ⟨.a2dpConfig, ()⟩ [] none, .endSession,
    .startSession (some 2) ⟨.a2dpConfig, ()⟩ [] none] 1 [] rfl (by decide) (by decide)
  exact absurd this (by decide)

end PhhTreble.Audio

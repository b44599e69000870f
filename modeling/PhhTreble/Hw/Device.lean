import Mathlib.Data.List.Induction
import PhhTreble.Lib.Assoc
import PhhTreble.Hw.Suspension
/-!
# The audio device and its output streams

`BluetoothAudioDevice`: streams are opened and closed, and `adev_set_parameters`
hands its key-value pairs to each open one. It holds the mutex of the device
meanwhile, which opening, closing and a second such call wait for; the threads
of the streams do not.
-/

namespace PhhTreble.Hw
open Audio
open StreamOut (KeepsSuspended)

structure Device where
  /-- Each stream with its pointer. -/
  opened_stream_outs_ : List (Nat × StreamOut)
  /-- The pointers given so far. -/
  pointers : Nat
  /-- The call of `adev_set_parameters` that holds `mutex_`: its parameters and
  the streams it has still to reach. -/
  forwarding : Option (Params × List Nat)
deriving DecidableEq, Repr

inductive DeviceEvent where
  /-- The session reports `signals` before the stream is in the list. -/
  | openOutputStream (kind : PortKind) (is_a2dp : Bool) (sample_rate_ frame_size preferred_data_interval_us : Nat)
      (signals : List Signal)
  | closeOutputStream (stream : Nat)
  | setParameters (params : Params)
  /-- A turn of the loop over the streams, with what `out_set_parameters` finds. -/
  | forward (config : Option Nat) (answer : Answer)
  /-- A call or a signal of a stream. -/
  | stream (stream : Nat) (e : StreamOut.Event)
deriving DecidableEq, Repr

namespace Device

def init : Device := ⟨[], 0, none⟩

def openOutputStream (d : Device) (kind : PortKind) (is_a2dp : Bool)
    (sample_rate_ frame_size preferred_data_interval_us : Nat) (signals : List Signal) : Device :=
  let port := signals.foldl Port.signal ⟨kind, true, is_a2dp, .standby⟩
  let out := StreamOut.opened port sample_rate_ frame_size preferred_data_interval_us
  { d with opened_stream_outs_ := d.opened_stream_outs_ ++ [(d.pointers, out)], pointers := d.pointers + 1 }

def closeOutputStream (d : Device) (stream : Nat) : Device :=
  { d with opened_stream_outs_ := d.opened_stream_outs_.filter fun s => s.1 != stream }

/-- `adev_set_parameters` up to its loop. -/
def adevSetParameters (d : Device) (params : Params) : Int × Device :=
  if params.isEmpty then (0, d)
  else if (params.lookup "A2dpSuspended").isNone ∧ (params.lookup "LeAudioSuspended").isNone then (-enosys, d)
  else (0, { d with forwarding := some (params, d.opened_stream_outs_.map Prod.fst) })

/-- A step of one stream. -/
def onStream (d : Device) (stream : Nat) (e : StreamOut.Event) : Device :=
  { d with opened_stream_outs_ := Assoc.modify d.opened_stream_outs_ stream fun out => out.step e }

/-- The loop of `adev_set_parameters` reaches the next stream, or is over. -/
def forward (d : Device) (config : Option Nat) (answer : Answer) : Device :=
  match d.forwarding with
  | none => d
  | some (_, []) => { d with forwarding := none }
  | some (params, stream :: rest) =>
    { d.onStream stream (.setParameters params config answer) with forwarding := some (params, rest) }

def step (d : Device) : DeviceEvent → Device
  | .openOutputStream kind is_a2dp sample_rate_ frame_size preferred_data_interval_us signals =>
    if d.forwarding.isNone then
      d.openOutputStream kind is_a2dp sample_rate_ frame_size preferred_data_interval_us signals
    else d
  | .closeOutputStream stream => if d.forwarding.isNone then d.closeOutputStream stream else d
  | .setParameters params => if d.forwarding.isNone then (d.adevSetParameters params).2 else d
  | .forward config answer => d.forward config answer
  | .stream stream e => d.onStream stream e

/-! ## What a step does to one stream -/

/-- What an event of the device is to a stream. -/
def concerns (d : Device) (stream : Nat) : DeviceEvent → List StreamOut.Event
  | .stream i e => if stream = i then [e] else []
  | .forward config answer =>
    match d.forwarding with
    | some (params, i :: _) => if stream = i then [.setParameters params config answer] else []
    | _ => []
  | _ => []

/-- The events of a stream in a run of the device. -/
def eventsOf (stream : Nat) : Device → List DeviceEvent → List StreamOut.Event
  | _, [] => []
  | d, e :: es => d.concerns stream e ++ eventsOf stream (d.step e) es

/-- The event opens this stream. -/
def Opens (d : Device) (s : Nat × StreamOut) (e : DeviceEvent) : Prop :=
  ∃ kind is_a2dp sample_rate_ frame_size preferred_data_interval_us signals,
    e = .openOutputStream kind is_a2dp sample_rate_ frame_size preferred_data_interval_us signals ∧
      d.forwarding = none ∧ s.1 = d.pointers ∧
      s.2 = Runs.run StreamOut.step
        (StreamOut.opened ⟨kind, true, is_a2dp, .standby⟩ sample_rate_ frame_size preferred_data_interval_us)
        (signals.map .signal)

theorem mem_onStream {d : Device} {i : Nat} {e : StreamOut.Event} {s : Nat × StreamOut}
    (h : s ∈ (d.onStream i e).opened_stream_outs_) :
    ∃ out, (s.1, out) ∈ d.opened_stream_outs_ ∧
      s.2 = Runs.run StreamOut.step out (if s.1 = i then [e] else []) := by
  obtain ⟨out, hmem, hs⟩ := Assoc.mem_modify (f := fun out : StreamOut => out.step e) h
  refine ⟨out, hmem, hs.trans ?_⟩
  split <;> rfl

theorem mem_forward {d : Device} {config : Option Nat} {answer : Answer} {s : Nat × StreamOut}
    (h : s ∈ (d.forward config answer).opened_stream_outs_) :
    ∃ out, (s.1, out) ∈ d.opened_stream_outs_ ∧
      s.2 = Runs.run StreamOut.step out (d.concerns s.1 (.forward config answer)) := by
  unfold forward at h
  rw [concerns]
  cases hf : d.forwarding with
  | none =>
    rw [hf] at h
    exact ⟨s.2, h, rfl⟩
  | some f =>
    obtain ⟨params, rest⟩ := f
    rw [hf] at h
    cases rest with
    | nil => exact ⟨s.2, h, rfl⟩
    | cons i rest => exact mem_onStream h

theorem adevSetParameters_opened (d : Device) (params : Params) :
    (d.adevSetParameters params).2.opened_stream_outs_ = d.opened_stream_outs_ := by
  unfold adevSetParameters
  split
  · rfl
  · split <;> rfl

theorem opened_signals (port : Port) (sample_rate_ frame_size preferred_data_interval_us : Nat) (signals : List Signal) :
    StreamOut.opened (signals.foldl Port.signal port) sample_rate_ frame_size preferred_data_interval_us =
      Runs.run StreamOut.step (StreamOut.opened port sample_rate_ frame_size preferred_data_interval_us)
        (signals.map .signal) := by
  induction signals generalizing port with
  | nil => rfl
  | cons s signals ih => exact ih (port.signal s)

/-- A stream after a step is opened by it, or was there, and the step is what it
is to it. -/
theorem mem_step {d : Device} {e : DeviceEvent} {s : Nat × StreamOut} (h : s ∈ (d.step e).opened_stream_outs_) :
    d.Opens s e ∨
      ∃ out, (s.1, out) ∈ d.opened_stream_outs_ ∧ s.2 = Runs.run StreamOut.step out (d.concerns s.1 e) := by
  cases e with
  | openOutputStream kind is_a2dp sample_rate_ frame_size preferred_data_interval_us signals =>
    rw [step] at h
    split at h
    · rename_i hf
      rcases List.mem_append.1 h with h | h
      · exact .inr ⟨s.2, h, rfl⟩
      · obtain rfl := List.mem_singleton.1 h
        exact .inl ⟨_, _, _, _, _, _, rfl, Option.isNone_iff_eq_none.1 hf, rfl, opened_signals _ _ _ _ _⟩
    · exact .inr ⟨s.2, h, rfl⟩
  | closeOutputStream i =>
    rw [step] at h
    split at h
    · exact .inr ⟨s.2, (List.mem_filter.1 h).1, rfl⟩
    · exact .inr ⟨s.2, h, rfl⟩
  | setParameters params =>
    rw [step] at h
    split at h
    · rw [adevSetParameters_opened] at h
      exact .inr ⟨s.2, h, rfl⟩
    · exact .inr ⟨s.2, h, rfl⟩
  | forward config answer => exact .inr (mem_forward h)
  | stream i e => exact .inr (mem_onStream h)

theorem eventsOf_concat (stream : Nat) (d : Device) (es : List DeviceEvent) (e : DeviceEvent) :
    eventsOf stream d (es ++ [e]) = eventsOf stream d es ++ (Runs.run step d es).concerns stream e := by
  induction es generalizing d with
  | nil => exact List.append_nil _
  | cons a es ih => rw [List.cons_append, eventsOf, eventsOf, ih, List.append_assoc, Runs.run_cons]

/-- Each open stream of the device runs as it would by itself: from its opening
on, through its own calls and signals and the parameters forwarded to it. -/
theorem streams_run (es : List DeviceEvent) {s : Nat × StreamOut} (h : s ∈ (Runs.run step init es).opened_stream_outs_) :
    ∃ pre e post opened, es = pre ++ e :: post ∧ (Runs.run step init pre).Opens (s.1, opened) e ∧
      s.2 = Runs.run StreamOut.step opened (eventsOf s.1 ((Runs.run step init pre).step e) post) := by
  induction es using List.reverseRecOn generalizing s with
  | nil => cases h
  | append_singleton es e ih =>
    rw [Runs.run_append] at h
    rcases mem_step h with hopens | ⟨out, hmem, hs⟩
    · exact ⟨es, e, [], s.2, rfl, hopens, rfl⟩
    · obtain ⟨pre, e', post, opened, rfl, hopens, hout⟩ := ih hmem
      have hout : out = Runs.run StreamOut.step opened _ := hout
      refine ⟨pre, e', post ++ [e], opened, by simp, hopens, ?_⟩
      rw [hs, hout, eventsOf_concat, Runs.run_append, ← Runs.run_cons, ← Runs.run_append]

/-- The second of two streams gets the parameters after its own write. -/
theorem streams_run_forwarded :
    let opens : DeviceEvent := .openOutputStream .hidl true 44100 4 20000 []
    let es := [opens, opens, .setParameters [("A2dpSuspended", "true")], .forward none .refused,
      .stream 1 (.write 8 .refused), .forward none .refused]
    ∀ s ∈ (Runs.run step init es).opened_stream_outs_, ∃ pre e post opened, es = pre ++ e :: post ∧
      (Runs.run step init pre).Opens (s.1, opened) e ∧
        s.2 = Runs.run StreamOut.step opened (eventsOf s.1 ((Runs.run step init pre).step e) post) := by
  intro opens es s h
  exact streams_run es h

/-! ## Suspension -/

/-- A step that leaves A2DP suspended: parameters with no other value. -/
def KeepsSuspended : DeviceEvent → Prop
  | .setParameters params => ∀ value, params.lookup "A2dpSuspended" = some value → value = "true"
  | .stream _ e => StreamOut.KeepsSuspended e
  | _ => True

def isForward : DeviceEvent → Bool
  | .forward _ _ => true
  | _ => false

/-- The streams that the call of `adev_set_parameters` has still to reach. -/
def remaining (d : Device) : List Nat :=
  match d.forwarding with
  | some (_, rest) => rest
  | none => []

/-- The A2DP streams under the first `n` pointers are suspended, but for those
that the call under way is still to reach. -/
structure Suspends (n : Nat) (d : Device) : Prop where
  pointers : n ≤ d.pointers
  in_use : ∀ s ∈ d.opened_stream_outs_, s.2.port.in_use = true
  keeps : ∀ params rest, d.forwarding = some (params, rest) →
    ∀ value, params.lookup "A2dpSuspended" = some value → value = "true"
  disabled : ∀ s ∈ d.opened_stream_outs_, s.1 < n → s.2.port.is_a2dp = true → s.2.port.state_ = .disabled ∨
    ∃ params rest, d.forwarding = some (params, rest) ∧ s.1 ∈ rest ∧ params.lookup "A2dpSuspended" = some "true"

/-- All of them are suspended. -/
def AllDisabled (n : Nat) (d : Device) : Prop :=
  ∀ s ∈ d.opened_stream_outs_, s.1 < n → s.2.port.is_a2dp = true → s.2.port.state_ = .disabled

instance (n : Nat) (d : Device) : Decidable (d.AllDisabled n) :=
  inferInstanceAs (Decidable (∀ s ∈ d.opened_stream_outs_, _))

/-- The turns of the call under way until all of them are suspended. -/
def due (n : Nat) (d : Device) : Nat := if d.AllDisabled n then 0 else d.remaining.length

theorem run_setUpAs (out : StreamOut) (es : List StreamOut.Event) :
    (Runs.run StreamOut.step out es).port.SetUpAs out.port := by
  refine Runs.run_inv (J := fun o : StreamOut => o.port.SetUpAs out.port) ?_ ⟨rfl, rfl⟩ es
  exact fun o e h => (StreamOut.step_setUpAs o e).trans h

theorem inUse_step {d : Device} (h : ∀ s ∈ d.opened_stream_outs_, s.2.port.in_use = true) (e : DeviceEvent) :
    ∀ s ∈ (d.step e).opened_stream_outs_, s.2.port.in_use = true := by
  intro s hs
  rcases mem_step hs with ⟨_, _, _, _, _, _, -, -, -, ho⟩ | ⟨out, hmem, ho⟩
  · rw [ho, (run_setUpAs _ _).1]
    rfl
  · rw [ho, (run_setUpAs _ _).1]
    exact h _ hmem

theorem pointers_step (d : Device) (e : DeviceEvent) : d.pointers ≤ (d.step e).pointers := by
  cases e with
  | openOutputStream =>
    rw [step]
    split
    · exact Nat.le_succ _
    · exact Nat.le_refl _
  | closeOutputStream i => rw [step]; split <;> exact Nat.le_refl _
  | setParameters params =>
    rw [step]
    split
    · unfold adevSetParameters
      split
      · exact Nat.le_refl _
      · split <;> exact Nat.le_refl _
    · exact Nat.le_refl _
  | forward config answer =>
    rw [step, forward]
    split <;> exact Nat.le_refl _
  | stream i e => exact Nat.le_refl _

/-- How the call under way goes on: it begins with all open streams, it reaches
its next one, it ends, or it is not concerned. -/
theorem forwarding_step (d : Device) (e : DeviceEvent) :
    ((d.step e).forwarding = d.forwarding ∧ (isForward e = true → d.forwarding = none)) ∨
      (∃ params, e = .setParameters params ∧ d.forwarding = none ∧
        (d.step e).forwarding = some (params, d.opened_stream_outs_.map Prod.fst)) ∨
      (isForward e = true ∧ ∃ params, d.forwarding = some (params, []) ∧ (d.step e).forwarding = none) ∨
      (isForward e = true ∧ ∃ params i rest, d.forwarding = some (params, i :: rest) ∧
        (d.step e).forwarding = some (params, rest)) := by
  cases e with
  | openOutputStream => left; rw [step]; split <;> exact ⟨rfl, nofun⟩
  | closeOutputStream i => left; rw [step]; split <;> exact ⟨rfl, nofun⟩
  | setParameters params =>
    rw [step]
    split
    · rename_i hf
      unfold adevSetParameters
      split
      · exact .inl ⟨rfl, nofun⟩
      · split
        · exact .inl ⟨rfl, nofun⟩
        · exact .inr (.inl ⟨params, rfl, Option.isNone_iff_eq_none.1 hf, rfl⟩)
    · exact .inl ⟨rfl, nofun⟩
  | forward config answer =>
    rw [step, forward]
    cases hf : d.forwarding with
    | none => exact .inl ⟨hf, fun _ => rfl⟩
    | some f =>
      obtain ⟨params, rest⟩ := f
      cases rest with
      | nil => exact .inr (.inr (.inl ⟨rfl, params, rfl, rfl⟩))
      | cons i rest => exact .inr (.inr (.inr ⟨rfl, params, i, rest, rfl, rfl⟩))
  | stream i e => exact .inl ⟨rfl, nofun⟩

theorem concerns_keeps {d : Device} {n : Nat} (h : d.Suspends n) {e : DeviceEvent} (he : KeepsSuspended e) (stream : Nat) :
    ∀ ev ∈ d.concerns stream e, StreamOut.KeepsSuspended ev := by
  intro ev hev
  cases e with
  | stream i e =>
    rw [concerns] at hev
    split at hev
    · obtain rfl := List.mem_singleton.1 hev
      exact he
    · cases hev
  | forward config answer =>
    rw [concerns] at hev
    split at hev
    · rename_i params i rest hf
      split at hev
      · obtain rfl := List.mem_singleton.1 hev
        exact h.keeps params _ hf
      · cases hev
    · cases hev
  | _ => cases hev

/-- A disabled stream stays disabled. -/
theorem run_disabled {out : StreamOut} (h : out.port.state_ = .disabled) {es : List StreamOut.Event}
    (hes : ∀ e ∈ es, StreamOut.KeepsSuspended e) : (Runs.run StreamOut.step out es).port.state_ = .disabled := by
  have hkeeps : Runs.Along StreamOut.step (fun _ => StreamOut.KeepsSuspended) out es := Runs.along_forall_iff.2 hes
  have hall : Runs.Always StreamOut.step (fun o : StreamOut => o.port.state_ = .disabled) out es := by
    apply Runs.always_of_along (J := fun o : StreamOut => o.port.state_ = .disabled) _ (fun _ ho => ho) h hkeeps
    exact fun o e ho he => (StreamOut.suspended_step (w := o.writer) ⟨ho, .inr (.inl rfl)⟩ he).1
  exact Runs.always_iff.1 hall es [] (List.append_nil es).symm

theorem suspends_step {n : Nat} {d : Device} {e : DeviceEvent} (h : d.Suspends n) (he : KeepsSuspended e) :
    (d.step e).Suspends n := by
  refine ⟨h.pointers.trans (pointers_step d e), inUse_step h.in_use e, ?_, ?_⟩
  · intro params rest hf
    rcases forwarding_step d e with ⟨hsame, -⟩ | ⟨params', rfl, -, hnew⟩ | ⟨-, _, -, hnew⟩ | ⟨-, params', i, rest', hold, hnew⟩
    · exact h.keeps params rest (hsame ▸ hf)
    · obtain ⟨rfl, -⟩ := Prod.mk.inj (Option.some.inj (hnew.symm.trans hf))
      exact he
    · rw [hnew] at hf
      cases hf
    · obtain ⟨rfl, -⟩ := Prod.mk.inj (Option.some.inj (hnew.symm.trans hf))
      exact h.keeps params' _ hold
  · intro s hs hlt ha
    rcases mem_step hs with ⟨_, _, _, _, _, _, -, -, hnew, -⟩ | ⟨out, hmem, ho⟩
    · exact absurd h.pointers (by omega)
    · have hset : s.2.port.SetUpAs out.port := ho ▸ run_setUpAs out _
      rcases h.disabled _ hmem hlt (hset.2 ▸ ha) with hd | ⟨params, rest, hf, hrest, hp⟩
      · left
        rw [ho]
        exact run_disabled hd (concerns_keeps h he s.1)
      · rcases forwarding_step d e with ⟨hsame, -⟩ | ⟨_, -, hnone, -⟩ | ⟨-, _, hnil, -⟩ | ⟨hforward, params', i, rest', hold, hnew⟩
        · exact .inr ⟨params, rest, hsame.trans hf, hrest, hp⟩
        · rw [hnone] at hf
          cases hf
        · rw [hnil] at hf
          cases hf
          cases hrest
        · rw [hold] at hf
          cases hf
          by_cases hi : s.1 = i
          · left
            -- the stream is reached
            cases e with
            | forward config answer =>
              rw [ho, concerns, hold]
              simp only [hi, if_true]
              exact StreamOut.outSetParameters_suspends (h.in_use _ hmem) (hset.2 ▸ ha) hp config answer
            | _ => cases hforward
          · exact .inr ⟨params, rest', hnew, (List.mem_cons.1 hrest).resolve_left hi, hp⟩

theorem allDisabled_step {n : Nat} {d : Device} {e : DeviceEvent} (h : d.Suspends n) (he : KeepsSuspended e)
    (hd : d.AllDisabled n) : (d.step e).AllDisabled n := by
  intro s hs hlt ha
  rcases mem_step hs with ⟨_, _, _, _, _, _, -, -, hnew, -⟩ | ⟨out, hmem, ho⟩
  · exact absurd h.pointers (by omega)
  · have hset : s.2.port.SetUpAs out.port := ho ▸ run_setUpAs out _
    rw [ho]
    exact run_disabled (hd _ hmem hlt (hset.2 ▸ ha)) (concerns_keeps h he s.1)

/-- Not all of them are suspended: one is still to be reached. -/
theorem Suspends.unreached {n : Nat} {d : Device} (h : d.Suspends n) (hd : ¬ d.AllDisabled n) :
    ∃ params rest stream, d.forwarding = some (params, rest) ∧ stream ∈ rest := by
  by_contra hno
  refine hd fun s hs hlt ha => ?_
  rcases h.disabled s hs hlt ha with hdis | ⟨params, rest, hf, hrest, -⟩
  · exact hdis
  · exact absurd ⟨params, rest, s.1, hf, hrest⟩ hno

theorem due_step {n : Nat} {d : Device} {e : DeviceEvent} (h : d.Suspends n) (he : KeepsSuspended e) :
    (d.step e).due n ≤ d.due n - if isForward e then 1 else 0 := by
  have hle : (d.step e).due n ≤ (d.step e).remaining.length := by
    unfold due
    split
    · exact Nat.zero_le _
    · exact Nat.le_refl _
  by_cases hd : d.AllDisabled n
  · rw [due, if_pos (allDisabled_step h he hd)]
    exact Nat.zero_le _
  · obtain ⟨params, rest, stream, hf, hrest⟩ := h.unreached hd
    refine hle.trans ?_
    rw [due, if_neg hd, remaining, remaining]
    rcases forwarding_step d e with ⟨hsame, hno⟩ | ⟨_, -, hnone, -⟩ | ⟨-, _, hnil, -⟩ | ⟨hforward, params', i, rest', hold, hnew⟩
    · have hother : isForward e = false := by
        rw [Bool.eq_false_iff]
        intro hforward
        rw [hno hforward] at hf
        cases hf
      simp [hsame, hother]
    · rw [hnone] at hf
      cases hf
    · rw [hnil] at hf
      cases hf
      cases hrest
    · simp [hnew, hold, hforward]

/-- `adev_set_parameters` with `A2dpSuspended=true` suspends the A2DP streams
that are open: after a turn for each of them they are disabled, whatever the
threads of the streams do meanwhile, and stay so until another value comes. -/
theorem suspension_forwarded (es es' : List DeviceEvent) (params : Params)
    (hp : params.lookup "A2dpSuspended" = some "true") (hes : ∀ e ∈ es', KeepsSuspended e) :
    let d := Runs.run step init es
    d.forwarding = none → d.opened_stream_outs_.length ≤ es'.countP isForward →
      ∀ s ∈ (Runs.run step d (.setParameters params :: es')).opened_stream_outs_, s.1 < d.pointers →
        s.2.port.is_a2dp = true → s.2.port.state_ = .disabled ∧
          ∀ bytes answer, s.2.writer = .idle → s.2.outWrite bytes answer = (some bytes, s.2) := by
  intro d hf hturns
  have hin : ∀ s ∈ d.opened_stream_outs_, s.2.port.in_use = true :=
    Runs.run_inv (J := fun d : Device => ∀ s ∈ d.opened_stream_outs_, s.2.port.in_use = true)
      (fun _ e h => inUse_step h e) (fun _ h => absurd h List.not_mem_nil) es
  have hnew : d.step (.setParameters params) = { d with forwarding := some (params, d.opened_stream_outs_.map Prod.fst) } := by
    have hne : params.isEmpty = false := by
      cases params with
      | nil => cases hp
      | cons => rfl
    simp [step, adevSetParameters, hf, hne, hp]
  have hs : (d.step (.setParameters params)).Suspends d.pointers := by
    rw [hnew]
    refine ⟨Nat.le_refl _, hin, ?_, fun s hs _ _ => .inr ⟨params, _, rfl, List.mem_map_of_mem hs, hp⟩⟩
    intro params' rest hf' value hv
    obtain ⟨rfl, -⟩ := Prod.mk.inj (Option.some.inj hf')
    exact Option.some.inj (hv.symm.trans hp)
  have hdue : (d.step (.setParameters params)).due d.pointers ≤ es'.countP isForward := by
    refine le_trans ?_ hturns
    rw [hnew, due]
    split
    · exact Nat.zero_le _
    · simp [remaining]
  have hle : (Runs.run step (d.step (.setParameters params)) es').due d.pointers ≤
      (d.step (.setParameters params)).due d.pointers - es'.countP isForward := by
    refine Runs.run_measure (C := KeepsSuspended) (fun _ _ => suspends_step) ?_ ?_ hs hes
    · exact fun _ _ h he => (due_step h he).trans (Nat.sub_le _ _)
    · intro _ _ h he hforward
      simpa [hforward] using due_step h he
  have hend : (Runs.run step d (.setParameters params :: es')).Suspends d.pointers := by
    refine Runs.always_iff.1 (Runs.always_of_along (J := Suspends d.pointers) (I := Suspends d.pointers)
      (fun _ _ => suspends_step) (fun _ h => h) hs (Runs.along_forall_iff.2 hes)) es' [] (List.append_nil es').symm
  have hall : (Runs.run step d (.setParameters params :: es')).AllDisabled d.pointers := by
    by_contra hd
    obtain ⟨params', rest, stream, hf', hrest⟩ := hend.unreached hd
    have hzero : (Runs.run step d (.setParameters params :: es')).due d.pointers = 0 := by
      rw [Runs.run_cons]
      omega
    rw [due, if_neg hd, remaining, hf'] at hzero
    have hnil : rest = [] := List.length_eq_zero_iff.1 hzero
    rw [hnil] at hrest
    cases hrest
  intro s hs hlt ha
  have hdis : s.2.port.state_ = .disabled := hall s hs hlt ha
  exact ⟨hdis, fun bytes answer hw => StreamOut.outWrite_disabled hdis hw bytes answer⟩

/-- Two streams are open, and the first plays when it is reached. The stream
opened afterwards is in STANDBY. -/
theorem suspension_forwarded_opened :
    let opens : DeviceEvent := .openOutputStream .aidl true 44100 4 20000 []
    let d := Runs.run step init [opens, opens, .stream 0 (.write 8 (.accepted [.controlResult .success]))]
    let es' := [.forward none (.accepted []), .stream 1 (.write 8 (.accepted [.controlResult .success])),
      .forward none .refused, .forward none .refused, opens]
    ∀ s ∈ (Runs.run step d (.setParameters [("A2dpSuspended", "true")] :: es')).opened_stream_outs_, s.1 < d.pointers →
      s.2.port.is_a2dp = true → s.2.port.state_ = .disabled ∧
        ∀ bytes answer, s.2.writer = .idle → s.2.outWrite bytes answer = (some bytes, s.2) := by
  intro opens d es'
  refine suspension_forwarded _ es' [("A2dpSuspended", "true")] (by decide) ?_ (by decide) (by decide)
  intro e he
  simp only [es', List.mem_cons, List.not_mem_nil, or_false] at he
  rcases he with rfl | rfl | rfl | rfl | rfl <;> exact trivial

end Device

end PhhTreble.Hw

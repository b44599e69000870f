import Mathlib.Data.Fin.Basic
import Mathlib.Logic.Function.Basic
import PhhTreble.Lib.Runs
/-!
# Device ports on one session

`BluetoothAudioPortAidl` and `BluetoothAudioPortHidl` ports that share the
session's control results. A call of a port is split where another thread can
come between: the read of `state_`, its write, the call into the session and
the wait. A report is delivered to one observer after the other.
-/

namespace PhhTreble.Audio

/-! ## The data model -/

inductive BluetoothStreamState where
  | disabled | standby | starting | started | suspending | unknown
deriving DecidableEq, Repr

inductive BluetoothAudioStatus where
  | unknown | success | unsupportedCodecConfiguration | failure | reconfiguration
deriving DecidableEq, Repr

/-- The status of the HIDL interface. -/
inductive HidlStatus where
  | unknown | success | unsupportedCodecConfiguration | failure
deriving DecidableEq, Repr

inductive PortKind where
  | aidl | hidl
deriving DecidableEq, Repr

/-- Where a thread stands in `Start` or `Suspend`: after the read of `state_`,
after its write, or in `CondwaitState`. -/
inductive Call where
  | idle
  | startChecked | startWritten | startWaiting
  | suspendChecked | suspendWritten | suspendWaiting
deriving DecidableEq, Repr

structure Port where
  kind : PortKind
  state_ : BluetoothStreamState
  call : Call
  /-- What the last `Start` or `Suspend` returned. -/
  retval : Bool
deriving DecidableEq, Repr

structure Report where
  start_resp : Bool
  status : BluetoothAudioStatus
deriving DecidableEq, Repr

/-- The ports of a session, and the report it is delivering with the observers
still to call. `observers_` is the order of the map. -/
structure Ports (n : Nat) where
  ports : Fin n → Port
  observers_ : List (Fin n)
  delivering : Option (Report × List (Fin n))

/-! ## ControlResultHandler -/

def toHidlStatus : BluetoothAudioStatus → HidlStatus
  | .success => .success
  | .unsupportedCodecConfiguration => .unsupportedCodecConfiguration
  | _ => .failure

/-- `BluetoothAudioPortAidl::ControlResultHandler`. -/
def controlResultHandlerAidl (previous_state : BluetoothStreamState) (status : BluetoothAudioStatus) :
    BluetoothStreamState :=
  match previous_state with
  | .started => if status = .reconfiguration ∨ status = .success then .standby else previous_state
  | .starting => if status = .success then .started else .standby
  | .suspending => if status = .success then .standby else .disabled
  | _ => previous_state

/-- `BluetoothAudioPortHidl::ControlResultHandler`. -/
def controlResultHandlerHidl (previous_state : BluetoothStreamState) (status : HidlStatus) : BluetoothStreamState :=
  match previous_state with
  | .started => if status = .success then .standby else previous_state
  | .starting => if status = .success then .started else .standby
  | .suspending => if status = .success then .standby else .disabled
  | _ => previous_state

/-- `control_result_cb_`: the flag `start_resp` does not reach the handler. -/
def Port.controlResult (p : Port) (r : Report) : Port :=
  match p.kind with
  | .aidl => { p with state_ := controlResultHandlerAidl p.state_ r.status }
  | .hidl => { p with state_ := controlResultHandlerHidl p.state_ (toHidlStatus r.status) }

/-! ## The steps -/

/-- `Start` up to its first read of `state_`. -/
def Port.start (p : Port) : Port :=
  if p.call ≠ .idle then p
  else if p.state_ = .standby then { p with call := .startChecked } else { p with retval := false }

/-- `Suspend` up to its first read of `state_`. -/
def Port.suspend (p : Port) : Port :=
  if p.call ≠ .idle then p
  else if p.state_ = .started then { p with call := .suspendChecked } else { p with retval := false }

/-- The next step of the call: `ok` is the result of the session's stream call
and, in the wait, that the time is not up. -/
def Port.advance (p : Port) (ok : Bool) : Port :=
  match p.call with
  | .idle => p
  | .startChecked => { p with state_ := .starting, call := .startWritten }
  | .startWritten => if ok then { p with call := .startWaiting } else { p with call := .idle, retval := false }
  | .startWaiting =>
    if p.state_ = .starting ∧ ok then p else { p with call := .idle, retval := p.state_ == .started }
  | .suspendChecked => { p with state_ := .suspending, call := .suspendWritten }
  | .suspendWritten => if ok then { p with call := .suspendWaiting } else { p with call := .idle, retval := false }
  | .suspendWaiting =>
    if p.state_ = .suspending ∧ ok then p else { p with call := .idle, retval := p.state_ == .standby }

def Port.stop (p : Port) : Port := { p with state_ := .disabled }

inductive PortEvent (n : Nat) where
  | start (i : Fin n)
  | suspend (i : Fin n)
  | advance (i : Fin n) (ok : Bool)
  | stop (i : Fin n)
  /-- `ReportControlStatus`, called by `streamStarted` or `streamSuspended`. -/
  | report (r : Report)
  /-- The next turn of its loop over the observers. -/
  | deliver
deriving DecidableEq, Repr

namespace Ports
variable {n : Nat}

def modify (w : Ports n) (i : Fin n) (f : Port → Port) : Ports n :=
  { w with ports := Function.update w.ports i (f (w.ports i)) }

/-- A report waits for the mutex while another is being delivered. -/
def report (w : Ports n) (r : Report) : Ports n :=
  match w.delivering with
  | none => { w with delivering := some (r, w.observers_) }
  | some _ => w

def deliver (w : Ports n) : Ports n :=
  match w.delivering with
  | none => w
  | some (_, []) => { w with delivering := none }
  | some (r, i :: rest) => { w.modify i (·.controlResult r) with delivering := some (r, rest) }

def step (w : Ports n) : PortEvent n → Ports n
  | .start i => w.modify i (·.start)
  | .suspend i => w.modify i (·.suspend)
  | .advance i ok => w.modify i (·.advance ok)
  | .stop i => w.modify i (·.stop)
  | .report r => w.report r
  | .deliver => w.deliver

/-- `n` ports after `SetUp`. -/
def setUp (kinds : Fin n → PortKind) : Ports n :=
  ⟨fun i => ⟨kinds i, .standby, .idle, false⟩, List.finRange n, none⟩

/-- The event hands the report to the port. -/
def Delivers (w : Ports n) (e : PortEvent n) (i : Fin n) (r : Report) : Prop :=
  e = .deliver ∧ ∃ rest, w.delivering = some (r, i :: rest)

/-! ## The protocol -/

/-- What the step may do to the state of one port. -/
structure AllowedAt (w : Ports n) (e : PortEvent n) (i : Fin n) (before after : BluetoothStreamState) : Prop where
  starts : before = .starting → after = .started →
    ∃ r, Delivers w e i r ∧ r.start_resp = true ∧ r.status = .success
  stands : before = .started ∨ before = .suspending → after = .standby →
    ∃ r, Delivers w e i r ∧ (r.start_resp = false ∨ r.status = .reconfiguration)
  stays : before = .started → after ≠ .started → ∀ r, Delivers w e i r → r.start_resp = true →
    r.status = .reconfiguration

/-- The step follows the stream protocol at every port. -/
def Allowed (w : Ports n) (e : PortEvent n) : Prop :=
  ∀ i, AllowedAt w e i (w.ports i).state_ ((w.step e).ports i).state_

/-- No successful start is reported to a port that is past its start, and no
successful suspend to a port that is starting. -/
def Matched (w : Ports n) (e : PortEvent n) : Prop :=
  ∀ i r, Delivers w e i r → r.status = .success →
    (r.start_resp = true → (w.ports i).state_ ≠ .started ∧ (w.ports i).state_ ≠ .suspending) ∧
      (r.start_resp = false → (w.ports i).state_ ≠ .starting)

end Ports

/-! ## One step -/

/-- A report starts a stream exactly when the port is starting and the status
is a success. -/
theorem Port.controlResult_starts (p : Port) (r : Report) (h : p.state_ = .starting) :
    (p.controlResult r).state_ = .started ↔ r.status = .success := by
  obtain ⟨start_resp, status⟩ := r
  unfold Port.controlResult
  cases hk : p.kind <;> rw [h] <;> cases status <;>
    simp [controlResultHandlerAidl, controlResultHandlerHidl, toHidlStatus]

/-- A report ends a stream on a success, and on an AIDL port that has started
also on a reconfiguration. -/
theorem Port.controlResult_stands (p : Port) (r : Report) (h : p.state_ = .started ∨ p.state_ = .suspending) :
    (p.controlResult r).state_ = .standby ↔
      r.status = .success ∨ (r.status = .reconfiguration ∧ p.state_ = .started ∧ p.kind = .aidl) := by
  obtain ⟨start_resp, status⟩ := r
  unfold Port.controlResult
  rcases h with h | h <;> cases hk : p.kind <;> rw [h] <;> cases status <;>
    simp [controlResultHandlerAidl, controlResultHandlerHidl, toHidlStatus]

/-- From STARTED a report leads nowhere but to STANDBY. -/
theorem Port.controlResult_started (p : Port) (r : Report) (h : p.state_ = .started)
    (hne : (p.controlResult r).state_ ≠ .started) : (p.controlResult r).state_ = .standby := by
  obtain ⟨start_resp, status⟩ := r
  unfold Port.controlResult at hne ⊢
  cases hk : p.kind <;> rw [hk, h] at hne <;> cases status <;>
    simp_all [controlResultHandlerAidl, controlResultHandlerHidl, toHidlStatus]

/-- The port's own calls neither start a stream nor stand it by. -/
theorem Port.advance_state (p : Port) (ok : Bool) :
    (p.advance ok).state_ = p.state_ ∨ (p.advance ok).state_ = .starting ∨ (p.advance ok).state_ = .suspending := by
  unfold Port.advance
  cases p.call with
  | idle => exact .inl rfl
  | startChecked => exact .inr (.inl rfl)
  | startWritten => dsimp only; split <;> exact .inl rfl
  | startWaiting => dsimp only; split <;> exact .inl rfl
  | suspendChecked => exact .inr (.inr rfl)
  | suspendWritten => dsimp only; split <;> exact .inl rfl
  | suspendWaiting => dsimp only; split <;> exact .inl rfl

theorem Port.start_state (p : Port) : p.start.state_ = p.state_ := by
  unfold Port.start
  split
  · rfl
  · split <;> rfl

theorem Port.suspend_state (p : Port) : p.suspend.state_ = p.state_ := by
  unfold Port.suspend
  split
  · rfl
  · split <;> rfl

namespace Ports
variable {n : Nat}

theorem modify_self (w : Ports n) (i : Fin n) (f : Port → Port) : (w.modify i f).ports i = f (w.ports i) := by
  simp [modify]

theorem modify_ne (w : Ports n) {i j : Fin n} (h : j ≠ i) (f : Port → Port) : (w.modify i f).ports j = w.ports j := by
  simp [modify, h]

/-- What a step does to a port: it hands it a report, or it changes its state to
STARTING, SUSPENDING or DISABLED, or not at all. -/
theorem step_cases (w : Ports n) (e : PortEvent n) (i : Fin n) :
    (∃ r, Delivers w e i r ∧ ((w.step e).ports i) = (w.ports i).controlResult r) ∨
      (¬ ∃ r, Delivers w e i r) ∧ (((w.step e).ports i).state_ = (w.ports i).state_ ∨
        ((w.step e).ports i).state_ = .starting ∨ ((w.step e).ports i).state_ = .suspending ∨
        ((w.step e).ports i).state_ = .disabled) := by
  -- Every event but a delivery changes one port, by a function of the port.
  have hone : ∀ (j : Fin n) (f : Port → Port), (∀ p : Port, (f p).state_ = p.state_ ∨ (f p).state_ = .starting ∨
      (f p).state_ = .suspending ∨ (f p).state_ = .disabled) → ((w.modify j f).ports i).state_ = (w.ports i).state_ ∨
        ((w.modify j f).ports i).state_ = .starting ∨ ((w.modify j f).ports i).state_ = .suspending ∨
        ((w.modify j f).ports i).state_ = .disabled := by
    intro j f hf
    by_cases hij : i = j
    · subst hij
      rw [modify_self]
      exact hf _
    · rw [modify_ne w hij]
      exact .inl rfl
  cases e with
  | start j => exact .inr ⟨fun ⟨_, h, _⟩ => (nomatch h), hone j _ fun p => .inl p.start_state⟩
  | suspend j => exact .inr ⟨fun ⟨_, h, _⟩ => (nomatch h), hone j _ fun p => .inl p.suspend_state⟩
  | advance j ok =>
    exact .inr ⟨fun ⟨_, h, _⟩ => (nomatch h), hone j _ fun p => (p.advance_state ok).imp_right (·.imp_right .inl)⟩
  | stop j => exact .inr ⟨fun ⟨_, h, _⟩ => (nomatch h), hone j _ fun p => .inr (.inr (.inr rfl))⟩
  | report r =>
    refine .inr ⟨fun ⟨_, h, _⟩ => (nomatch h), .inl ?_⟩
    unfold step report
    dsimp only
    split <;> rfl
  | deliver =>
    cases hd : w.delivering with
    | none => exact .inr ⟨fun ⟨_, _, _, h⟩ => (by rw [hd] at h; cases h), .inl (by simp [step, deliver, hd])⟩
    | some d =>
      obtain ⟨r, pending⟩ := d
      cases pending with
      | nil => exact .inr ⟨fun ⟨_, _, _, h⟩ => (by rw [hd] at h; cases h), .inl (by simp [step, deliver, hd])⟩
      | cons j rest =>
        by_cases hij : i = j
        · subst hij
          refine .inl ⟨r, ⟨rfl, rest, hd⟩, ?_⟩
          simp only [step, deliver, hd]
          exact modify_self w i _
        · refine .inr ⟨fun ⟨_, _, _, h⟩ => ?_, .inl ?_⟩
          · rw [hd] at h
            cases h
            exact hij rfl
          · simp only [step, deliver, hd]
            exact congrArg Port.state_ (modify_ne w hij _)

theorem Delivers.unique {w : Ports n} {e : PortEvent n} {i : Fin n} {r r' : Report} (h : Delivers w e i r)
    (h' : Delivers w e i r') : r = r' := by
  obtain ⟨-, rest, hd⟩ := h
  obtain ⟨-, rest', hd'⟩ := h'
  rw [hd] at hd'
  cases hd'
  rfl

/-- One step follows the protocol exactly when the report it hands out, if any,
matches the port's state. -/
theorem allowed_iff (w : Ports n) (e : PortEvent n) : Allowed w e ↔ Matched w e := by
  constructor
  · intro h i r hd hs
    obtain ⟨r', hd', hstep⟩ | ⟨hno, -⟩ := step_cases w e i
    · obtain rfl := hd.unique hd'
      refine ⟨fun hstart => ⟨fun hx => ?_, fun hx => ?_⟩, fun hsusp hx => ?_⟩
      · have hy := (Port.controlResult_stands (w.ports i) r (.inl hx)).2 (.inl hs)
        obtain ⟨r', hd', hc⟩ := (h i).stands (.inl hx) (by rw [hstep, hy])
        obtain rfl := hd.unique hd'
        simp [hstart, hs] at hc
      · have hy := (Port.controlResult_stands (w.ports i) r (.inr hx)).2 (.inl hs)
        obtain ⟨r', hd', hc⟩ := (h i).stands (.inr hx) (by rw [hstep, hy])
        obtain rfl := hd.unique hd'
        simp [hstart, hs] at hc
      · have hy := (Port.controlResult_starts (w.ports i) r hx).2 hs
        obtain ⟨r', hd', hc, -⟩ := (h i).starts hx (by rw [hstep, hy])
        obtain rfl := hd.unique hd'
        rw [hsusp] at hc
        cases hc
    · exact absurd ⟨r, hd⟩ hno
  · intro h i
    obtain ⟨r, hd, hstep⟩ | ⟨hno, hst⟩ := step_cases w e i
    · rw [hstep]
      refine ⟨fun hx hy => ⟨r, hd, ?_⟩, fun hx hy => ⟨r, hd, ?_⟩, fun hx hy r' hd' hr => ?_⟩
      · have hs := (Port.controlResult_starts (w.ports i) r hx).1 hy
        refine ⟨?_, hs⟩
        by_contra hf
        exact (h i r hd hs).2 (by simpa using hf) hx
      · rcases (Port.controlResult_stands (w.ports i) r hx).1 hy with hs | hs
        · left
          by_contra ht
          have := (h i r hd hs).1 (by simpa using ht)
          exact hx.elim this.1 this.2
        · exact .inr hs.1
      · obtain rfl := hd.unique hd'
        have hstand := Port.controlResult_started (w.ports i) r hx hy
        rcases (Port.controlResult_stands (w.ports i) r (.inl hx)).1 hstand with hs | hs
        · exact absurd hx ((h i r hd hs).1 hr).1
        · exact hs.1
    · refine ⟨fun hx hy => ?_, fun hx hy => ?_, fun _ _ r hd => absurd ⟨r, hd⟩ hno⟩
      · rw [hy, hx] at hst
        simp at hst
      · rw [hy] at hst
        rcases hx with hx | hx <;> rw [hx] at hst <;> simp at hst

/-! ## Runs -/

/-- A run follows the stream protocol exactly when every report reaches only
ports whose own request it can answer. -/
theorem protocol_iff (w : Ports n) (es : List (PortEvent n)) :
    Runs.Along step Allowed w es ↔ Runs.Along step Matched w es :=
  Runs.along_congr (J := fun _ => True) (fun _ _ _ => trivial) (fun w e _ => allowed_iff w e) trivial es

/-- Port 0 is started and port 1 starts: the acknowledgement of port 1's start
stands port 0 by. -/
theorem protocol_foreign_ack :
    ¬ Runs.Along step Allowed (setUp (n := 2) fun _ => .aidl)
      [.start 0, .advance 0 true, .advance 0 true, .report ⟨true, .success⟩, .deliver, .deliver, .deliver,
        .start 1, .advance 1 true, .advance 1 true, .report ⟨true, .success⟩, .deliver] := by
  intro h
  simp only [Runs.Along] at h
  obtain ⟨-, -, -, -, -, -, -, -, -, -, -, h, -⟩ := h
  -- The last delivery is the first of the second report, and goes to port 0.
  obtain ⟨r, ⟨-, rest, hd⟩, hr⟩ := (h 0).stands (.inl (by decide)) (by decide)
  cases hd
  simp at hr

end Ports

end PhhTreble.Audio

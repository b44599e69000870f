import PhhTreble.Audio.Port
/-!
# The port of a stream

`BluetoothAudioPortAidl` and `BluetoothAudioPortHidl` as the stream that owns
the port sees them: a call is one step, and the signals that arrive from its
write of `state_` to the end of its `CondwaitState` are part of the session's
answer. Those that arrive before a refusal do what they do right after the call.
-/

namespace PhhTreble.Hw
open Audio

/-- `control_result_cb_` and `session_changed_cb_`. -/
inductive Signal where
  | controlResult (status : BluetoothAudioStatus)
  | sessionChanged
deriving DecidableEq, Repr

/-- The answer to `StartStream` or `SuspendStream`: false, or true with the
signals that arrive until the wait ends. There are none when its time is up.
The signals before a false one come after the call. -/
inductive Answer where
  | refused
  | accepted (signals : List Signal)
deriving DecidableEq, Repr

structure Port where
  kind : PortKind
  /-- `cookie_ ≠ kObserversCookieUndefined`. -/
  in_use : Bool
  is_a2dp : Bool
  state_ : BluetoothStreamState
deriving DecidableEq, Repr

namespace Port

def controlResultHandler (p : Port) (status : BluetoothAudioStatus) : BluetoothStreamState :=
  match p.kind with
  | .aidl => controlResultHandlerAidl p.state_ status
  | .hidl => controlResultHandlerHidl p.state_ (toHidlStatus status)

def signal (p : Port) (s : Signal) : Port :=
  if p.in_use then
    match s with
    | .controlResult status => { p with state_ := p.controlResultHandler status }
    | .sessionChanged => { p with state_ := .disabled }
  else p

/-- `Start` and `Suspend`: with the port in state `required`, it asks the
session and waits in `waiting` for `reached`. -/
def request (required waiting reached : BluetoothStreamState) (p : Port) (answer : Answer) : Bool × Port :=
  if p.in_use ∧ p.state_ = required then
    match answer with
    | .refused => (false, { p with state_ := waiting })
    | .accepted signals =>
      let p := signals.foldl signal { p with state_ := waiting }
      (p.state_ == reached, p)
  else (false, p)

def start (p : Port) (answer : Answer) : Bool × Port := p.request .standby .starting .started answer

def suspend (p : Port) (answer : Answer) : Bool × Port := p.request .started .suspending .standby answer

def stop (p : Port) : Port := if p.in_use then { p with state_ := .disabled } else p

def setState (p : Port) (state : BluetoothStreamState) : Port := { p with state_ := state }

/-- STARTING or SUSPENDING: the stream answers -EBUSY. -/
def Busy (p : Port) : Prop := p.state_ = .starting ∨ p.state_ = .suspending

instance (p : Port) : Decidable p.Busy := inferInstanceAs (Decidable (_ ∨ _))

/-! ## What a call leaves as it was -/

@[simp] theorem signal_in_use (p : Port) (s : Signal) : (p.signal s).in_use = p.in_use := by
  unfold signal
  split
  · cases s <;> rfl
  · rfl

@[simp] theorem signals_in_use (p : Port) (ss : List Signal) : (ss.foldl signal p).in_use = p.in_use := by
  induction ss generalizing p with
  | nil => rfl
  | cons s ss ih => rw [List.foldl_cons, ih, signal_in_use]

@[simp] theorem request_in_use (r w d : BluetoothStreamState) (p : Port) (answer : Answer) :
    (p.request r w d answer).2.in_use = p.in_use := by
  unfold request
  split
  · cases answer with
    | refused => rfl
    | accepted ss => exact signals_in_use _ ss
  · rfl

/-- A call that makes no request is false and changes nothing. -/
theorem request_idle {r : BluetoothStreamState} {p : Port} (h : ¬ (p.in_use = true ∧ p.state_ = r))
    (w d : BluetoothStreamState) (answer : Answer) : p.request r w d answer = (false, p) := if_neg h

/-- A refused request is false, and leaves the port waiting for it. -/
theorem request_refused {r : BluetoothStreamState} {p : Port} (h : p.in_use = true ∧ p.state_ = r)
    (w d : BluetoothStreamState) : p.request r w d .refused = (false, { p with state_ := w }) := if_pos h

theorem request_accepted {r : BluetoothStreamState} {p : Port} (h : p.in_use = true ∧ p.state_ = r)
    (w d : BluetoothStreamState) (ss : List Signal) :
    (p.request r w d (.accepted ss)).2 = ss.foldl signal { p with state_ := w } := by
  rw [request, if_pos h]

/-! ## Signals -/

/-- No signal leaves the port waiting. -/
theorem signal_not_busy {p : Port} (h : p.in_use = true) (s : Signal) : ¬ (p.signal s).Busy := by
  obtain ⟨kind, in_use, is_a2dp, state_⟩ := p
  obtain rfl : in_use = true := h
  cases s with
  | sessionChanged => simp [signal, Busy]
  | controlResult status =>
    cases kind <;> cases state_ <;> cases status <;>
      simp [signal, Busy, controlResultHandler, controlResultHandlerAidl, controlResultHandlerHidl, toHidlStatus]

/-- After the first signal the port waits no more. -/
theorem signals_not_busy {p : Port} (h : p.in_use = true) {ss : List Signal} (hne : ss ≠ []) :
    ¬ (ss.foldl signal p).Busy := by
  rw [← List.dropLast_concat_getLast hne, List.foldl_append]
  exact signal_not_busy (by rw [signals_in_use, h]) _

/-! ## The threads of `PhhTreble.Audio.Port` -/

/-- The port in the model of the ports that share a session. -/
def shared (p : Port) (call : Call) (retval : Bool) : Audio.Port := ⟨p.kind, p.state_, call, retval⟩

/-- A signal there: a report, or the DISABLED of a changed session. -/
def Signal.deliver : Audio.Port → Signal → Audio.Port
  | q, .controlResult status => q.controlResult ⟨true, status⟩
  | q, .sessionChanged => q.stop

theorem shared_signals {p : Port} (h : p.in_use = true) (ss : List Signal) (call : Call) (retval : Bool) :
    ss.foldl Signal.deliver (p.shared call retval) = (ss.foldl signal p).shared call retval := by
  induction ss generalizing p with
  | nil => rfl
  | cons s ss ih =>
    have hs : Signal.deliver (p.shared call retval) s = (p.signal s).shared call retval := by
      obtain ⟨kind, in_use, is_a2dp, state_⟩ := p
      obtain rfl : in_use = true := h
      cases s with
      | sessionChanged => rfl
      | controlResult status => cases kind <;> rfl
    rw [List.foldl_cons, List.foldl_cons, hs]
    exact ih (by rw [signal_in_use, h])

/-- A request is the steps of a thread there: from its write of `state_`, in the
call `u`, to the answer, and with that to the wait, in the call `v`,
which the signals end. Signals that come before a refusal do what they do after
the call. -/
theorem request_shared {p : Port} {r w d : BluetoothStreamState} {u v : Call} (h : p.in_use = true)
    (hs : p.state_ = r) (retval : Bool)
    (hrefused : ∀ q : Port, (q.shared u retval).advance false = q.shared .idle false)
    (haccepted : ∀ q : Port, (q.shared u retval).advance true = q.shared v retval)
    (hend : ∀ q : Port, (q.shared v retval).advance false = q.shared .idle (q.state_ == d)) (ss ss' : List Signal) :
    ((ss.foldl Signal.deliver ({ p with state_ := w }.shared u retval)).advance false =
      ss.foldl Signal.deliver ((p.request r w d .refused).2.shared .idle (p.request r w d .refused).1)) ∧
    ((ss'.foldl Signal.deliver ((ss.foldl Signal.deliver ({ p with state_ := w }.shared u retval)).advance true)).advance
        false =
      (p.request r w d (.accepted (ss ++ ss'))).2.shared .idle (p.request r w d (.accepted (ss ++ ss'))).1) := by
  have hw : ({ p with state_ := w } : Port).in_use = true := h
  have hss : (ss.foldl signal ({ p with state_ := w } : Port)).in_use = true := by rw [signals_in_use, hw]
  constructor
  · rw [shared_signals hw, hrefused, request_refused ⟨h, hs⟩, shared_signals hw]
  · rw [shared_signals hw, haccepted, shared_signals hss, hend, request, if_pos ⟨h, hs⟩]
    simp only [List.foldl_append]

/-- `Start` is the steps of its thread there: the read and the write of
`state_`, the request, the signals up to the answer and in the wait, and its end. -/
theorem start_shared {p : Port} (h : p.in_use = true) (hs : p.state_ = .standby) (retval : Bool) (ss ss' : List Signal) :
    ((ss.foldl Signal.deliver ((p.shared .idle retval).start.advance true)).advance false =
      ss.foldl Signal.deliver ((p.start .refused).2.shared .idle (p.start .refused).1)) ∧
    ((ss'.foldl Signal.deliver ((ss.foldl Signal.deliver ((p.shared .idle retval).start.advance true)).advance true)).advance
        false =
      (p.start (.accepted (ss ++ ss'))).2.shared .idle (p.start (.accepted (ss ++ ss'))).1) := by
  have hw : (p.shared .idle retval).start.advance true =
      { p with state_ := .starting }.shared .startWritten retval := by
    simp [Audio.Port.start, Audio.Port.advance, shared, hs]
  rw [hw]
  apply request_shared (v := .startWaiting) h hs retval
  · exact fun q => rfl
  · exact fun q => rfl
  · intro q
    simp [Audio.Port.advance, shared]

theorem suspend_shared {p : Port} (h : p.in_use = true) (hs : p.state_ = .started) (retval : Bool) (ss ss' : List Signal) :
    ((ss.foldl Signal.deliver ((p.shared .idle retval).suspend.advance true)).advance false =
      ss.foldl Signal.deliver ((p.suspend .refused).2.shared .idle (p.suspend .refused).1)) ∧
    ((ss'.foldl Signal.deliver
        ((ss.foldl Signal.deliver ((p.shared .idle retval).suspend.advance true)).advance true)).advance false =
      (p.suspend (.accepted (ss ++ ss'))).2.shared .idle (p.suspend (.accepted (ss ++ ss'))).1) := by
  have hw : (p.shared .idle retval).suspend.advance true =
      { p with state_ := .suspending }.shared .suspendWritten retval := by
    simp [Audio.Port.suspend, Audio.Port.advance, shared, hs]
  rw [hw]
  apply request_shared (v := .suspendWaiting) h hs retval
  · exact fun q => rfl
  · exact fun q => rfl
  · intro q
    simp [Audio.Port.advance, shared]

end Port

end PhhTreble.Hw

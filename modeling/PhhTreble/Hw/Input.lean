import Mathlib.Algebra.GroupWithZero.Nat
import Mathlib.Logic.Function.Basic
import PhhTreble.Hw.Stream
/-!
# An input stream

`BluetoothStreamIn`: the threads in `in_standby` and `in_read`, which let go of
its mutex in each `usleep` of a wait and in `ReadData`. The mutex keeps the
threads from one another, not the signals of the port, so each turn of a thread
looks at the state of the port once. `uint16_t` timeouts and the `uint64_t`
counter wrap.
-/

namespace PhhTreble.Hw
open Audio

def kBluetoothDefaultInputStateTimeoutMs : Nat := 20

/-- Where a thread is. Without the mutex: out of its calls, in the `usleep` of a
wait for the end of STARTING or SUSPENDING, past its last look on the way through
`ReadData`, or behind it. With the mutex: before a look at the state of the port,
or before `Suspend` or `Start`. -/
inductive Caller where
  | idle
  | standbyStarting (timeout_ms : Nat)
  /-- Before `GetState() == STARTED`. -/
  | standbyStarted
  | suspend
  /-- Before `GetState() != SUSPENDING`. -/
  | standbyNotSuspending
  /-- Before the first look of the second wait. -/
  | suspended (retval : Int)
  | standbySuspending (timeout_ms : Nat) (retval : Int)
  | readStarting (bytes timeout_ms : Nat)
  /-- Before `GetState() != STARTED`. -/
  | readStarted (bytes : Nat)
  /-- Before `GetState() == STANDBY`. -/
  | readStandby (bytes : Nat)
  | start (bytes : Nat)
  /-- Before `GetState() == SUSPENDING`. -/
  | readSuspending (bytes : Nat)
  /-- Before `GetState() == DISABLED`. -/
  | readDisabled (bytes : Nat)
  | reading (bytes : Nat)
  | read (totalRead : Nat)
deriving DecidableEq, Repr

namespace Caller

/-- With the mutex. -/
def inside : Caller → Bool
  | standbyStarted | suspend | standbyNotSuspending | suspended _ => true
  | readStarted _ | readStandby _ | start _ | readSuspending _ | readDisabled _ => true
  | _ => false

/-- Past the look for STANDBY, which did not find it. -/
def pastStandby : Caller → Bool
  | readSuspending _ | readDisabled _ => true
  | _ => false

end Caller

/-- What a call returned. -/
inductive Returned where
  | standby (retval : Int)
  | read (retval : Int)
deriving DecidableEq, Repr

/-- How a wait goes on, at each look at the state of the port. -/
inductive Wait where
  | asleep (timeout_ms : Nat)
  | left
  | timedOut
deriving DecidableEq, Repr

namespace Wait

/-- The `while` of `in_state_transition_timeout`. -/
def look (p : Port) (state : BluetoothStreamState) (timeout_ms : Nat) : Wait :=
  if p.state_ = state then .asleep timeout_ms else .left

/-- The same behind the `usleep`. -/
def wake (p : Port) (state : BluetoothStreamState) (timeout_ms : Nat) : Wait :=
  let timeout_ms := (timeout_ms + 65535) % 65536
  if timeout_ms = 0 then .timedOut else look p state timeout_ms

end Wait

structure StreamIn where
  /-- `bluetooth_input_`. -/
  port : Port
  sample_rate_ : Nat
  /-- `audio_stream_in_frame_size`. -/
  frame_size : Nat
  frames_presented_ : Nat
  /-- The thread that has it. -/
  mutex_ : Option Nat
  /-- Each thread. -/
  caller : Nat → Caller
  /-- What the calls returned so far, with their threads. -/
  returned : List (Nat × Returned)

inductive InputEvent where
  | standby (thread : Nat)
  | read (thread bytes : Nat)
  /-- The thread goes on: `answer` is the session's if it asks it, `totalRead`
  what `ReadData` returns. -/
  | turn (thread : Nat) (answer : Answer) (totalRead : Nat)
  /-- A signal outside a call of the port. -/
  | signal (s : Signal)
deriving DecidableEq, Repr

namespace StreamIn

/-- The fields `adev_open_input_stream` sets. -/
def opened (port : Port) (sample_rate_ frame_size : Nat) : StreamIn :=
  ⟨port, sample_rate_, frame_size, 0, none, fun _ => .idle, []⟩

/-- A thread with the mutex goes to `c`. -/
def goes (input : StreamIn) (thread : Nat) (c : Caller) : StreamIn :=
  { input with
    mutex_ := if c.inside then some thread else none
    caller := Function.update input.caller thread c }

def returns (input : StreamIn) (thread : Nat) (r : Returned) : StreamIn :=
  { input.goes thread .idle with returned := input.returned ++ [(thread, r)] }

/-- A thread that waits for the mutex. -/
def locks (input next : StreamIn) : StreamIn := if input.mutex_ = none then next else input

@[simp] theorem goes_caller (input : StreamIn) (thread : Nat) (c : Caller) : (input.goes thread c).caller thread = c :=
  Function.update_self ..

@[simp] theorem returns_caller (input : StreamIn) (thread : Nat) (r : Returned) :
    (input.returns thread r).caller thread = .idle := Function.update_self ..

/-! ## The waits -/

/-- `in_standby` in its first wait. -/
def standbyWait (input : StreamIn) (thread : Nat) : Wait → StreamIn
  | .asleep timeout_ms => input.goes thread (.standbyStarting timeout_ms)
  | .timedOut => input.returns thread (.standby 0)
  | .left => input.goes thread .standbyStarted

/-- `in_standby` in its second wait. -/
def suspendWait (input : StreamIn) (thread : Nat) (retval : Int) : Wait → StreamIn
  | .asleep timeout_ms => input.goes thread (.standbySuspending timeout_ms retval)
  | .timedOut => input.returns thread (.standby 0)
  | .left => input.returns thread (.standby retval)

/-- `in_read` in its wait. -/
def readWait (input : StreamIn) (thread bytes : Nat) : Wait → StreamIn
  | .asleep timeout_ms => input.goes thread (.readStarting bytes timeout_ms)
  | .timedOut => input.returns thread (.read (-ebusy))
  | .left => input.goes thread (.readStarted bytes)

/-! ## The steps -/

def inStandby (input : StreamIn) (thread : Nat) : StreamIn :=
  input.standbyWait thread (.look input.port .starting kBluetoothDefaultInputStateTimeoutMs)

def inRead (input : StreamIn) (thread bytes : Nat) : StreamIn :=
  input.readWait thread bytes (.look input.port .starting kBluetoothDefaultInputStateTimeoutMs)

/-- `in_read` behind `ReadData`, with the mutex again. -/
def readEnd (input : StreamIn) (thread totalRead : Nat) : StreamIn :=
  let frames := totalRead / input.frame_size
  { input.returns thread (.read totalRead) with frames_presented_ := (input.frames_presented_ + frames) % 2 ^ 64 }

@[simp] theorem readEnd_caller (input : StreamIn) (thread totalRead : Nat) :
    (input.readEnd thread totalRead).caller thread = .idle := returns_caller input thread (.read totalRead)

def turn (input : StreamIn) (thread : Nat) (answer : Answer) (totalRead : Nat) : StreamIn :=
  match input.caller thread with
  | .idle => input
  | .standbyStarting timeout_ms => input.locks (input.standbyWait thread (.wake input.port .starting timeout_ms))
  | .standbyStarted => input.goes thread (if input.port.state_ = .started then .suspend else .standbyNotSuspending)
  | .suspend =>
    let (ok, port) := input.port.suspend answer
    { input with port := port }.goes thread (.suspended (if ok then 0 else -eio))
  | .standbyNotSuspending =>
    if input.port.state_ ≠ .suspending then input.returns thread (.standby 0) else input.goes thread (.suspended 0)
  | .suspended retval =>
    input.suspendWait thread retval (.look input.port .suspending kBluetoothDefaultInputStateTimeoutMs)
  | .standbySuspending timeout_ms retval =>
    input.locks (input.suspendWait thread retval (.wake input.port .suspending timeout_ms))
  | .readStarting bytes timeout_ms => input.locks (input.readWait thread bytes (.wake input.port .starting timeout_ms))
  | .readStarted bytes => input.goes thread (if input.port.state_ ≠ .started then .readStandby bytes else .reading bytes)
  | .readStandby bytes => input.goes thread (if input.port.state_ = .standby then .start bytes else .readSuspending bytes)
  | .start bytes =>
    let (ok, port) := input.port.start answer
    let input := { input with port := port }
    if ok then input.goes thread (.reading bytes) else input.returns thread (.read (-eio))
  | .readSuspending bytes =>
    if input.port.state_ = .suspending then input.returns thread (.read (-ebusy)) else input.goes thread (.readDisabled bytes)
  | .readDisabled bytes =>
    if input.port.state_ = .disabled then input.returns thread (.read (-einval)) else input.goes thread (.reading bytes)
  -- `ReadData` needs no mutex.
  | .reading _ => { input with caller := Function.update input.caller thread (.read totalRead) }
  | .read totalRead => input.locks (input.readEnd thread totalRead)

/-- A call begins with the mutex. -/
def step (input : StreamIn) : InputEvent → StreamIn
  | .standby thread => if input.caller thread = .idle then input.locks (input.inStandby thread) else input
  | .read thread bytes => if input.caller thread = .idle then input.locks (input.inRead thread bytes) else input
  | .turn thread answer totalRead => input.turn thread answer totalRead
  | .signal s => { input with port := input.port.signal s }

end StreamIn

/-! ## What a thread does next -/

namespace Port

/-- A state that the port can be in. -/
def Known (p : Port) : Prop := p.state_ ≠ .unknown

/-- Where a signal can take the port. -/
theorem signal_state (p : Port) (s : Signal) :
    (p.signal s).state_ = p.state_ ∨ (p.signal s).state_ = .standby ∨ (p.signal s).state_ = .disabled ∨
      (p.signal s).state_ = .started ∧ p.state_ = .starting := by
  obtain ⟨kind, in_use, is_a2dp, state_⟩ := p
  cases in_use with
  | false => exact .inl rfl
  | true =>
    cases s with
    | sessionChanged => exact .inr (.inr (.inl rfl))
    | controlResult status =>
      cases kind <;> cases state_ <;> cases status <;>
        simp [Port.signal, controlResultHandler, controlResultHandlerAidl, controlResultHandlerHidl, toHidlStatus]

theorem disabled_of_signal {p : Port} (h : p.state_ = .disabled) (s : Signal) : (p.signal s).state_ = .disabled := by
  unfold Port.signal
  split
  · cases s with
    | sessionChanged => rfl
    | controlResult status =>
      change p.controlResultHandler status = .disabled
      unfold controlResultHandler
      rw [h]
      cases p.kind <;> rfl
  · exact h

theorem Known.signal {p : Port} (h : p.Known) (s : Signal) : (p.signal s).Known := by
  unfold Known
  rcases signal_state p s with hs | hs | hs | ⟨hs, -⟩ <;> rw [hs]
  · exact h
  all_goals nofun

theorem Known.signals {p : Port} (h : p.Known) (ss : List Signal) : (ss.foldl Port.signal p).Known := by
  induction ss generalizing p with
  | nil => exact h
  | cons s ss ih => exact ih (h.signal s)

theorem Known.request {p : Port} (h : p.Known) (r : BluetoothStreamState) {w : BluetoothStreamState}
    (hw : w ≠ .unknown) (d : BluetoothStreamState) (answer : Answer) : (p.request r w d answer).2.Known := by
  unfold Port.request
  split
  · cases answer with
    | refused => exact hw
    | accepted ss => exact Known.signals (p := { p with state_ := w }) hw ss
  · exact h

theorem signal_not_starting {p : Port} (h : p.state_ ≠ .starting) (s : Signal) : (p.signal s).state_ ≠ .starting := by
  rcases signal_state p s with hs | hs | hs | ⟨hs, -⟩ <;> rw [hs]
  · exact h
  all_goals nofun

/-- A suspend does not start the port. -/
theorem suspend_not_starting {p : Port} (h : p.state_ ≠ .starting) (answer : Answer) :
    (p.suspend answer).2.state_ ≠ .starting := by
  have hsignals : ∀ (ss : List Signal) (q : Port), q.state_ ≠ .starting → (ss.foldl Port.signal q).state_ ≠ .starting := by
    intro ss
    induction ss with
    | nil => exact fun q hq => hq
    | cons s ss ih => exact fun q hq => ih _ (signal_not_starting hq s)
  unfold Port.suspend Port.request
  split
  · cases answer with
    | refused => nofun
    | accepted ss => exact hsignals ss { p with state_ := .suspending } nofun
  · exact h

/-- A call that is true leaves the port in the state it asked for. -/
theorem request_true {r w d : BluetoothStreamState} {p : Port} {answer : Answer}
    (h : (p.request r w d answer).1 = true) : (p.request r w d answer).2.state_ = d := by
  unfold request at h ⊢
  split at h
  · rename_i hp
    rw [if_pos hp]
    cases answer with
    | refused => cases h
    | accepted ss => exact eq_of_beq h
  · cases h

end Port

namespace Caller

/-- The turns of its thread until it returns, at most. -/
def turnsLeft : Caller → Nat
  | idle => 0
  | standbyStarting timeout_ms => timeout_ms + 23
  | standbyStarted => 23
  | suspend => 22
  | standbyNotSuspending => 22
  | suspended _ => 21
  | standbySuspending timeout_ms _ => timeout_ms
  | readStarting _ timeout_ms => timeout_ms + 6
  | readStarted _ => 6
  | readStandby _ => 5
  | start _ => 3
  | readSuspending _ => 4
  | readDisabled _ => 3
  | reading _ => 2
  | read _ => 1

/-- Those until it lets go of the mutex. -/
def insideLeft : Caller → Nat
  | standbyStarted => 3
  | suspend | standbyNotSuspending => 2
  | readStarted _ => 4
  | readStandby _ => 3
  | readSuspending _ => 2
  | suspended _ | start _ | readDisabled _ => 1
  | _ => 0

/-- The timeouts of a wait, and what `in_standby` is to return. -/
def WellFormed : Caller → Prop
  | standbyStarting timeout_ms | readStarting _ timeout_ms => 1 ≤ timeout_ms ∧ timeout_ms ≤ 20
  | standbySuspending timeout_ms retval => (1 ≤ timeout_ms ∧ timeout_ms ≤ 20) ∧ (retval = 0 ∨ retval = -eio)
  | suspended retval => retval = 0 ∨ retval = -eio
  | _ => True

/-- The states of the port that the looks so far leave, whatever signals come. -/
def Seen : Caller → BluetoothStreamState → Prop
  | standbyStarted, state | suspend, state | standbyNotSuspending, state | suspended _, state => state ≠ .starting
  | readStarted _, state => state ≠ .starting
  | readStandby _, state | readSuspending _, state => state ≠ .starting ∧ state ≠ .started
  | start _, state | readDisabled _, state => state = .standby ∨ state = .disabled
  | _, _ => True

theorem seen_outside {c : Caller} (h : c.inside = false) (state : BluetoothStreamState) : c.Seen state := by
  cases c <;> simp [inside, Seen] at h ⊢

theorem Seen.not_starting {c : Caller} {state : BluetoothStreamState} (hc : c.inside = true) (h : c.Seen state) :
    state ≠ .starting := by
  cases c with
  | standbyStarted => exact h
  | suspend => exact h
  | standbyNotSuspending => exact h
  | suspended retval => exact h
  | readStarted bytes => exact h
  | readStandby bytes => exact h.1
  | readSuspending bytes => exact h.1
  | start bytes => rcases h with h | h <;> rw [h] <;> nofun
  | readDisabled bytes => rcases h with h | h <;> rw [h] <;> nofun
  | _ => cases hc

/-- A signal does not undo a look. -/
theorem Seen.signal {c : Caller} {p : Port} (h : c.Seen p.state_) (s : Signal) : c.Seen (p.signal s).state_ := by
  cases hc : c.inside with
  | false => exact seen_outside hc _
  | true =>
    have hnot := h.not_starting hc
    rcases Port.signal_state p s with hs | hs | hs | ⟨-, hs⟩
    · rw [hs]
      exact h
    · rw [hs]
      cases c <;> simp [Seen]
    · rw [hs]
      cases c <;> simp [Seen]
    · exact absurd hs hnot

end Caller

namespace Returned

/-- The results of the calls; an error is negative. -/
def WellFormed : Returned → Prop
  | standby retval => retval = 0 ∨ retval = -eio
  | read retval => 0 ≤ retval ∨ retval = -ebusy ∨ retval = -eio ∨ retval = -einval

/-- The frames of the bytes that `in_read` returned. -/
def frames (frame_size : Nat) : Returned → Nat
  | standby _ => 0
  | read retval => retval.toNat / frame_size

theorem frames_error {retval : Int} (h : retval ≤ 0) (frame_size : Nat) : (read retval).frames frame_size = 0 := by
  rw [frames, Int.toNat_of_nonpos h, Nat.zero_div]

end Returned

namespace Wait

/-- A wait that goes on has at most `n` looks left. -/
def Within (w : Wait) (n : Nat) : Prop := ∀ timeout_ms, w = .asleep timeout_ms → 1 ≤ timeout_ms ∧ timeout_ms ≤ n

theorem look_within (p : Port) (state : BluetoothStreamState) {timeout_ms : Nat} (h : 1 ≤ timeout_ms) :
    (look p state timeout_ms).Within timeout_ms := by
  intro t ht
  unfold look at ht
  split at ht
  · obtain rfl := Wait.asleep.inj ht
    exact ⟨h, Nat.le_refl _⟩
  · cases ht

theorem wake_eq (p : Port) (state : BluetoothStreamState) {timeout_ms : Nat} (h : 1 ≤ timeout_ms ∧ timeout_ms ≤ 20) :
    wake p state timeout_ms = if timeout_ms = 1 then .timedOut else look p state (timeout_ms - 1) := by
  have hmod : (timeout_ms + 65535) % 65536 = timeout_ms - 1 := by omega
  unfold wake
  rw [hmod]
  by_cases h1 : timeout_ms = 1
  · simp [h1]
  · have hne : timeout_ms - 1 ≠ 0 := by omega
    simp [h1, hne]

theorem wake_within (p : Port) (state : BluetoothStreamState) {timeout_ms : Nat} (h : 1 ≤ timeout_ms ∧ timeout_ms ≤ 20) :
    (wake p state timeout_ms).Within (timeout_ms - 1) := by
  rw [wake_eq p state h]
  split
  · exact nofun
  · exact look_within p state (by omega)

theorem look_left {p : Port} {state : BluetoothStreamState} {timeout_ms : Nat} (h : look p state timeout_ms = .left) :
    p.state_ ≠ state := by
  unfold look at h
  split at h
  · cases h
  · assumption

theorem wake_left {p : Port} {state : BluetoothStreamState} {timeout_ms : Nat} (ht : 1 ≤ timeout_ms ∧ timeout_ms ≤ 20)
    (h : wake p state timeout_ms = .left) : p.state_ ≠ state := by
  rw [wake_eq p state ht] at h
  split at h
  · cases h
  · exact look_left h

end Wait

namespace StreamIn

/-- The thread has a turn with the mutex, or begins; it has `n` turns left afterwards. -/
def Allows (input : StreamIn) (thread n : Nat) : Prop :=
  (input.caller thread = .idle ∧ n ≤ 43) ∨ n < (input.caller thread).turnsLeft

/-- The port after a step of a thread with the mutex, in one of its states. -/
structure KeepsPort (input : StreamIn) (thread : Nat) (p : Port) : Prop where
  known : p.Known
  in_use : p.in_use = input.port.in_use
  mutex : input.mutex_ = none ∨ input.mutex_ = some thread

/-- A step of one thread, with all it can come to. -/
inductive Act (thread : Nat) (input : StreamIn) : StreamIn → Prop
  | goes {p : Port} {c : Caller} (hp : input.KeepsPort thread p) (hc : c.WellFormed) (hs : c.Seen p.state_)
      (hn : input.Allows thread c.turnsLeft)
      (hl : (input.caller thread).inside = true → c.inside = true → c.insideLeft < (input.caller thread).insideLeft)
      (hr : ∀ bytes, c = .reading bytes →
        p.state_ = .started ∨ input.caller thread = .readDisabled bytes ∧ p.state_ = .standby) :
    Act thread input ({ input with port := p }.goes thread c)
  | returns {p : Port} {r : Returned} (hp : input.KeepsPort thread p) (hr : r.WellFormed)
      (hf : ∀ frame_size, r.frames frame_size = 0) : Act thread input ({ input with port := p }.returns thread r)
  | enters {bytes totalRead : Nat} (hc : input.caller thread = .reading bytes) :
    Act thread input { input with caller := Function.update input.caller thread (.read totalRead) }
  | ends {totalRead : Nat} (hm : input.mutex_ = none) (hc : input.caller thread = .read totalRead) :
    Act thread input (input.readEnd thread totalRead)

variable {input : StreamIn} {thread : Nat}

theorem Allows.mono {m n : Nat} (h : input.Allows thread n) (hm : m ≤ n) : input.Allows thread m := by
  rcases h with ⟨hi, hn⟩ | hn
  · exact .inl ⟨hi, hm.trans hn⟩
  · exact .inr (Nat.lt_of_le_of_lt hm hn)

/-! ### Behind a look at a wait -/

section Waits

variable {w : Wait} {n : Nat} (hp : input.KeepsPort thread input.port) (hw : w.Within n) (hle : n ≤ 20)
include hp hw hle

theorem act_standbyWait (hout : (input.caller thread).inside = false) (hleft : w = .left → input.port.state_ ≠ .starting)
    (hn : input.Allows thread (n + 23)) : Act thread input (input.standbyWait thread w) := by
  cases w with
  | asleep timeout_ms =>
    obtain ⟨h1, h2⟩ := hw timeout_ms rfl
    exact .goes hp ⟨h1, h2.trans hle⟩ trivial (hn.mono (Nat.add_le_add_right h2 23)) (fun _ => nofun) nofun
  | timedOut => exact .returns hp (.inl rfl) fun _ => rfl
  | left =>
    exact .goes (c := .standbyStarted) hp trivial (hleft rfl) (hn.mono (Nat.le_add_left _ _))
      (fun hin => absurd hin (by rw [hout]; decide)) nofun

theorem act_suspendWait {retval : Int} (hr : retval = 0 ∨ retval = -eio) (hn : input.Allows thread n) :
    Act thread input (input.suspendWait thread retval w) := by
  cases w with
  | asleep timeout_ms =>
    obtain ⟨h1, h2⟩ := hw timeout_ms rfl
    exact .goes hp ⟨⟨h1, h2.trans hle⟩, hr⟩ trivial (hn.mono h2) (fun _ => nofun) nofun
  | timedOut => exact .returns hp (.inl rfl) fun _ => rfl
  | left => exact .returns hp hr fun _ => rfl

theorem act_readWait (hout : (input.caller thread).inside = false) (hleft : w = .left → input.port.state_ ≠ .starting)
    (hn : input.Allows thread (n + 6)) (bytes : Nat) : Act thread input (input.readWait thread bytes w) := by
  cases w with
  | asleep timeout_ms =>
    obtain ⟨h1, h2⟩ := hw timeout_ms rfl
    exact .goes hp ⟨h1, h2.trans hle⟩ trivial (hn.mono (Nat.add_le_add_right h2 6)) (fun _ => nofun) nofun
  | timedOut => exact .returns hp (.inr (.inl rfl)) (Returned.frames_error (by decide))
  | left =>
    exact .goes (c := .readStarted bytes) hp trivial (hleft rfl) (hn.mono (Nat.le_add_left _ _))
      (fun hin => absurd hin (by rw [hout]; decide)) nofun

end Waits

/-! ## Every step -/

/-- What holds of the stream whatever its threads do. -/
structure Inv (input : StreamIn) : Prop where
  known : input.port.Known
  callers : ∀ thread, (input.caller thread).WellFormed
  inside : ∀ thread, (input.caller thread).inside = true ↔ input.mutex_ = some thread
  seen : ∀ thread, (input.caller thread).Seen input.port.state_
  returned : ∀ r ∈ input.returned, r.2.WellFormed
  counted : input.frames_presented_ = (input.returned.map fun r => r.2.frames input.frame_size).sum % 2 ^ 64

def threadOf : InputEvent → Option Nat
  | .standby thread | .read thread _ | .turn thread _ _ => some thread
  | .signal _ => none

/-- A call begins. -/
def begins (thread : Nat) : InputEvent → Bool
  | .standby i | .read i _ => i == thread
  | _ => false

/-- A thread has a turn. -/
def isTurn (thread : Nat) : InputEvent → Bool
  | .turn i _ _ => i == thread
  | _ => false

/-- It has a turn and no other thread has the mutex. -/
def goesOn (thread : Nat) (input : StreamIn) (e : InputEvent) : Bool :=
  isTurn thread e && (input.mutex_ == none || input.mutex_ == some thread)

theorem Inv.keepsPort (h : input.Inv) (hmutex : input.mutex_ = none ∨ input.mutex_ = some thread) :
    input.KeepsPort thread input.port :=
  ⟨h.known, rfl, hmutex⟩

theorem retval_cases (ok : Bool) : (if ok then (0 : Int) else -eio) = 0 ∨ (if ok then (0 : Int) else -eio) = -eio := by
  cases ok
  · exact .inr rfl
  · exact .inl rfl

/-- A thread goes on to `c'` on its turn. -/
theorem act_next {c : Caller} (hc : input.caller thread = c) (c' : Caller) {p : Port} (hp : input.KeepsPort thread p)
    (hwf : c'.WellFormed) (hs : c'.Seen p.state_) (hn : c'.turnsLeft < c.turnsLeft ∧ c'.insideLeft < c.insideLeft)
    (hr : ∀ bytes, c' = .reading bytes → p.state_ = .started ∨ c = .readDisabled bytes ∧ p.state_ = .standby) :
    Act thread input ({ input with port := p }.goes thread c') := by
  subst hc
  exact .goes hp hwf hs (.inr hn.1) (fun _ _ => hn.2) hr

/-- A thread with the mutex on its turn. -/
theorem act_inside (h : input.Inv) (hin : (input.caller thread).inside = true) (answer : Answer) (totalRead : Nat) :
    Act thread input (input.turn thread answer totalRead) := by
  have hp : input.KeepsPort thread input.port := h.keepsPort (.inr ((h.inside thread).1 hin))
  have hwf := h.callers thread
  have hseen := h.seen thread
  unfold turn
  cases hc : input.caller thread with
  | standbyStarted =>
    rw [hc] at hseen
    dsimp only
    split
    · exact act_next hc .suspend hp trivial hseen (by simp [Caller.turnsLeft, Caller.insideLeft]) nofun
    · exact act_next hc .standbyNotSuspending hp trivial hseen (by simp [Caller.turnsLeft, Caller.insideLeft]) nofun
  | suspend =>
    rw [hc] at hseen
    have hkeeps : input.KeepsPort thread (input.port.suspend answer).2 :=
      ⟨h.known.request .started (by nofun) .standby answer, Port.request_in_use _ _ _ _ _, hp.mutex⟩
    exact act_next hc (.suspended (if (input.port.suspend answer).1 then 0 else -eio)) hkeeps (retval_cases _)
      (Port.suspend_not_starting hseen answer) (by simp [Caller.turnsLeft, Caller.insideLeft]) nofun
  | standbyNotSuspending =>
    rw [hc] at hseen
    dsimp only
    split
    · exact .returns hp (.inl rfl) fun _ => rfl
    · exact act_next hc (.suspended 0) hp (.inl rfl) hseen (by simp [Caller.turnsLeft, Caller.insideLeft]) nofun
  | suspended retval =>
    rw [hc] at hwf
    exact act_suspendWait hp (Wait.look_within _ _ (by decide)) (Nat.le_refl _) hwf (.inr (hc ▸ Nat.lt_succ_self 20))
  | readStarted bytes =>
    rw [hc] at hseen
    dsimp only
    split
    · rename_i hstarted
      exact act_next hc (.readStandby bytes) hp trivial ⟨hseen, hstarted⟩ (by simp [Caller.turnsLeft, Caller.insideLeft]) nofun
    · rename_i hstarted
      exact act_next hc (.reading bytes) hp trivial trivial (by simp [Caller.turnsLeft, Caller.insideLeft])
        fun _ _ => .inl (not_not.1 hstarted)
  | readStandby bytes =>
    rw [hc] at hseen
    dsimp only
    split
    · rename_i hstandby
      exact act_next hc (.start bytes) hp trivial (.inl hstandby) (by simp [Caller.turnsLeft, Caller.insideLeft]) nofun
    · exact act_next hc (.readSuspending bytes) hp trivial hseen (by simp [Caller.turnsLeft, Caller.insideLeft]) nofun
  | start bytes =>
    have hkeeps : input.KeepsPort thread (input.port.start answer).2 :=
      ⟨h.known.request .standby (by nofun) .started answer, Port.request_in_use _ _ _ _ _, hp.mutex⟩
    have hstarted : (input.port.start answer).1 = true → (input.port.start answer).2.state_ = .started := Port.request_true
    dsimp only
    generalize input.port.start answer = r at hkeeps hstarted
    obtain ⟨ok, port⟩ := r
    cases ok with
    | false => exact .returns hkeeps (.inr (.inr (.inl rfl))) (Returned.frames_error (by decide))
    | true =>
      exact act_next hc (.reading bytes) hkeeps trivial trivial (by simp [Caller.turnsLeft, Caller.insideLeft])
        fun _ _ => .inl (hstarted rfl)
  | readSuspending bytes =>
    rw [hc] at hseen
    dsimp only
    split
    · exact .returns hp (.inr (.inl rfl)) (Returned.frames_error (by decide))
    · rename_i hsuspending
      have hstate : input.port.state_ = .standby ∨ input.port.state_ = .disabled := by
        have hknown := h.known
        unfold Port.Known at hknown
        obtain ⟨hstarting, hstarted⟩ := hseen
        cases hs : input.port.state_ <;> simp_all
      exact act_next hc (.readDisabled bytes) hp trivial hstate (by simp [Caller.turnsLeft, Caller.insideLeft]) nofun
  | readDisabled bytes =>
    rw [hc] at hseen
    dsimp only
    split
    · exact .returns hp (.inr (.inr (.inr rfl))) (Returned.frames_error (by decide))
    · rename_i hdisabled
      refine act_next hc (.reading bytes) hp trivial trivial (by simp [Caller.turnsLeft, Caller.insideLeft]) ?_
      rintro _ ⟨⟩
      exact .inr ⟨rfl, hseen.resolve_right hdisabled⟩
  | _ => rw [hc] at hin; cases hin

theorem locks_of_free (h : input.mutex_ = none) (next : StreamIn) : input.locks next = next := if_pos h

theorem locks_of_held (h : input.mutex_ ≠ none) (next : StreamIn) : input.locks next = input := if_neg h

/-- A thread in a call on its turn: it waits for the mutex, or makes a step. -/
theorem act_turn (h : input.Inv) (hi : input.caller thread ≠ .idle) (answer : Answer) (totalRead : Nat) :
    Act thread input (input.turn thread answer totalRead) ∨
      input.turn thread answer totalRead = input ∧ input.mutex_ ≠ none ∧ input.mutex_ ≠ some thread := by
  by_cases hin : (input.caller thread).inside = true
  · exact .inl (act_inside h hin answer totalRead)
  have hout : (input.caller thread).inside = false := Bool.not_eq_true _ ▸ hin
  have hother : input.mutex_ ≠ some thread := fun hm => hin ((h.inside thread).2 hm)
  have hwf := h.callers thread
  by_cases hfree : input.mutex_ = none
  · left
    have hp : input.KeepsPort thread input.port := h.keepsPort (.inl hfree)
    unfold turn
    cases hc : input.caller thread with
    | idle => exact absurd hc hi
    | standbyStarting timeout_ms =>
      rw [hc] at hwf
      dsimp only
      rw [locks_of_free hfree]
      refine act_standbyWait hp (Wait.wake_within _ _ hwf) ((Nat.sub_le _ _).trans hwf.2) hout (Wait.wake_left hwf) (.inr ?_)
      rw [hc, Caller.turnsLeft]
      exact Nat.add_lt_add_right (Nat.sub_lt hwf.1 Nat.one_pos) 23
    | standbySuspending timeout_ms retval =>
      rw [hc] at hwf
      dsimp only
      rw [locks_of_free hfree]
      refine act_suspendWait hp (Wait.wake_within _ _ hwf.1) ((Nat.sub_le _ _).trans hwf.1.2) hwf.2 (.inr ?_)
      rw [hc, Caller.turnsLeft]
      exact Nat.sub_lt hwf.1.1 Nat.one_pos
    | readStarting bytes timeout_ms =>
      rw [hc] at hwf
      dsimp only
      rw [locks_of_free hfree]
      refine act_readWait hp (Wait.wake_within _ _ hwf) ((Nat.sub_le _ _).trans hwf.2) hout (Wait.wake_left hwf) (.inr ?_) bytes
      rw [hc, Caller.turnsLeft]
      exact Nat.add_lt_add_right (Nat.sub_lt hwf.1 Nat.one_pos) 6
    | reading bytes => exact .enters hc
    | read totalRead =>
      dsimp only
      rw [locks_of_free hfree]
      exact .ends hfree hc
    | _ => rw [hc] at hout; cases hout
  · unfold turn
    cases hc : input.caller thread with
    | idle => exact absurd hc hi
    | reading bytes => exact .inl (.enters hc)
    | standbyStarting timeout_ms => exact .inr ⟨locks_of_held hfree _, hfree, hother⟩
    | standbySuspending timeout_ms retval => exact .inr ⟨locks_of_held hfree _, hfree, hother⟩
    | readStarting bytes timeout_ms => exact .inr ⟨locks_of_held hfree _, hfree, hother⟩
    | read totalRead => exact .inr ⟨locks_of_held hfree _, hfree, hother⟩
    | _ => rw [hc] at hout; cases hout

/-- A step changes nothing, delivers a signal, or is one of its thread, which is
not idle on its turn, and is when it begins. -/
theorem step_act (h : input.Inv) (e : InputEvent) :
    (input.step e = input ∧ ∀ thread, goesOn thread input e = true → input.caller thread = .idle) ∨
      (∃ s, e = .signal s) ∨
      ∃ thread, Act thread input (input.step e) ∧ threadOf e = some thread ∧
        (begins thread e = false → input.caller thread ≠ .idle) := by
  cases e with
  | standby thread =>
    rw [step]
    by_cases hi : input.caller thread = .idle
    · rw [if_pos hi]
      by_cases hfree : input.mutex_ = none
      · rw [locks_of_free hfree]
        refine .inr (.inr ⟨thread, ?_, rfl, by simp [begins]⟩)
        exact act_standbyWait (h.keepsPort (.inl hfree)) (Wait.look_within _ _ (by decide)) (Nat.le_refl _) (by rw [hi]; rfl)
          Wait.look_left (.inl ⟨hi, by decide⟩)
      · rw [locks_of_held hfree]
        exact .inl ⟨rfl, nofun⟩
    · rw [if_neg hi]
      exact .inl ⟨rfl, nofun⟩
  | read thread bytes =>
    rw [step]
    by_cases hi : input.caller thread = .idle
    · rw [if_pos hi]
      by_cases hfree : input.mutex_ = none
      · rw [locks_of_free hfree]
        refine .inr (.inr ⟨thread, ?_, rfl, by simp [begins]⟩)
        exact act_readWait (h.keepsPort (.inl hfree)) (Wait.look_within _ _ (by decide)) (Nat.le_refl _) (by rw [hi]; rfl)
          Wait.look_left (.inl ⟨hi, by decide⟩) bytes
      · rw [locks_of_held hfree]
        exact .inl ⟨rfl, nofun⟩
    · rw [if_neg hi]
      exact .inl ⟨rfl, nofun⟩
  | turn thread answer totalRead =>
    by_cases hi : input.caller thread = .idle
    · left
      refine ⟨by rw [step, turn, hi], fun i hturn => ?_⟩
      obtain rfl : thread = i := by simpa [isTurn] using (Bool.and_eq_true_iff.1 hturn).1
      exact hi
    · rcases act_turn h hi answer totalRead with ha | ⟨hsame, hheld, hother⟩
      · exact .inr (.inr ⟨thread, ha, rfl, fun _ => hi⟩)
      · left
        refine ⟨hsame, fun i hturn => ?_⟩
        obtain ⟨hthread, hmutex⟩ := Bool.and_eq_true_iff.1 hturn
        obtain rfl : thread = i := by simpa [isTurn] using hthread
        simp [hheld, hother] at hmutex
  | signal s => exact .inr (.inl ⟨s, rfl⟩)

theorem inv_opened {port : Port} (hp : port.Known) (sample_rate_ frame_size : Nat) :
    (opened port sample_rate_ frame_size).Inv := by
  refine ⟨hp, fun _ => trivial, fun _ => ?_, fun _ => trivial, nofun, rfl⟩
  exact iff_of_false nofun nofun

/-- With the mutex in the hands of a thread or free, the others are outside. -/
theorem Inv.others (h : input.Inv) (hmutex : input.mutex_ = none ∨ input.mutex_ = some thread) {i : Nat} (hne : i ≠ thread) :
    (input.caller i).inside = false := by
  rw [← Bool.not_eq_true, h.inside i]
  rcases hmutex with hm | hm <;> rw [hm]
  · nofun
  · exact fun he => hne (Option.some.inj he).symm

theorem inv_goes (h : input.Inv) {p : Port} (hp : input.KeepsPort thread p) {c : Caller} (hc : c.WellFormed)
    (hs : c.Seen p.state_) : ({ input with port := p }.goes thread c).Inv := by
  refine ⟨hp.known, fun i => ?_, fun i => ?_, fun i => ?_, h.returned, h.counted⟩
  · simp only [goes, Function.update_apply]
    split
    · exact hc
    · exact h.callers i
  · simp only [goes, Function.update_apply]
    by_cases hi : i = thread
    · subst hi
      cases hci : c.inside <;> simp [hci]
    · rw [if_neg hi, h.others hp.mutex hi]
      cases c.inside <;> simp [Ne.symm hi]
  · simp only [goes, Function.update_apply]
    by_cases hi : i = thread
    · rw [if_pos hi]
      exact hs
    · rw [if_neg hi]
      exact Caller.seen_outside (h.others hp.mutex hi) _

theorem inv_act {input' : StreamIn} (h : input.Inv) (ha : Act thread input input') : input'.Inv := by
  have happend : ∀ {r : Returned}, r.WellFormed → ∀ r' ∈ input.returned ++ [(thread, r)], r'.2.WellFormed := by
    intro r hr r' hr'
    rcases List.mem_append.1 hr' with hold | hnew
    · exact h.returned r' hold
    · rw [List.mem_singleton.1 hnew]
      exact hr
  cases ha with
  | goes hp hc hs hn hl hr => exact inv_goes h hp hc hs
  | @returns p r hp hr hf =>
    have hgoes := inv_goes h (c := .idle) hp trivial trivial
    refine ⟨hgoes.known, hgoes.callers, hgoes.inside, hgoes.seen, happend hr, ?_⟩
    change input.frames_presented_ = _
    rw [h.counted, returns, List.map_append, List.sum_append]
    simp [goes, hf]
  | @enters bytes totalRead hc =>
    refine ⟨h.known, fun i => ?_, fun i => ?_, fun i => ?_, h.returned, h.counted⟩
    · simp only [Function.update_apply]
      split
      · trivial
      · exact h.callers i
    · rw [← h.inside i]
      simp only [Function.update_apply]
      split
      · rename_i hi
        rw [hi, hc]
        rfl
      · rfl
    · simp only [Function.update_apply]
      split
      · trivial
      · exact h.seen i
  | @ends totalRead hm hc =>
    have hp : input.KeepsPort thread input.port := h.keepsPort (.inl hm)
    have hgoes := inv_goes h (c := .idle) hp trivial trivial
    refine ⟨hgoes.known, hgoes.callers, hgoes.inside, hgoes.seen, happend (.inl (Int.natCast_nonneg _)), ?_⟩
    change (input.frames_presented_ + totalRead / input.frame_size) % 2 ^ 64 = _
    rw [h.counted, Nat.mod_add_mod, readEnd, returns, List.map_append, List.sum_append]
    simp [goes, Returned.frames]

theorem inv_step (input : StreamIn) (e : InputEvent) (h : input.Inv) : (input.step e).Inv := by
  rcases step_act h e with ⟨hsame, -⟩ | ⟨s, rfl⟩ | ⟨thread, ha, -, -⟩
  · rw [hsame]
    exact h
  · exact ⟨h.known.signal s, h.callers, h.inside, fun i => (h.seen i).signal s, h.returned, h.counted⟩
  · exact inv_act h ha

/-! ## Runs -/

/-- A thread lets go of the mutex for `ReadData` with the port STARTED, or, where
its last look is the one for DISABLED, in STANDBY. -/
def ReadsStarted (input : StreamIn) (e : InputEvent) : Prop :=
  ∀ thread bytes, (input.step e).caller thread = .reading bytes →
    input.caller thread = .reading bytes ∨ (input.step e).port.state_ = .started ∨
      input.caller thread = .readDisabled bytes ∧ (input.step e).port.state_ = .standby

theorem act_other {input' : StreamIn} {i : Nat} (ha : Act thread input input') (hne : i ≠ thread) :
    input'.caller i = input.caller i := by
  cases ha <;> exact Function.update_of_ne hne _ _

theorem reads_started (e : InputEvent) (h : input.Inv) : input.ReadsStarted e := by
  intro i bytes hr
  rcases step_act h e with ⟨hsame, -⟩ | ⟨s, rfl⟩ | ⟨thread, ha, -, -⟩
  · rw [hsame] at hr
    exact .inl hr
  · exact .inl hr
  · by_cases hi : i = thread
    · subst hi
      generalize input.step e = input' at ha hr ⊢
      cases ha with
      | goes hp hc hs hn hl hread => exact .inr (hread bytes (by simpa using hr))
      | returns => simp at hr
      | enters => simp at hr
      | ends => simp at hr
    · rw [act_other ha hi] at hr
      exact .inl hr

/-- Past a look for STANDBY the port gets there only as a suspension ends. -/
def SuspensionEnds (input : StreamIn) (e : InputEvent) : Prop :=
  ∀ thread, (input.caller thread).pastStandby = true → (input.step e).port.state_ = .standby →
    input.port.state_ = .standby ∨ input.port.state_ = .suspending

/-- The looks of a thread leave the port as it is. -/
theorem port_pastStandby (hpast : (input.caller thread).pastStandby = true) {e : InputEvent}
    (he : threadOf e = some thread) : (input.step e).port = input.port := by
  have hbusy : input.caller thread ≠ .idle := fun hi => by rw [hi] at hpast; cases hpast
  cases e with
  | standby i =>
    obtain rfl : i = thread := Option.some.inj he
    rw [step, if_neg hbusy]
  | read i bytes =>
    obtain rfl : i = thread := Option.some.inj he
    rw [step, if_neg hbusy]
  | turn i answer totalRead =>
    obtain rfl : i = thread := Option.some.inj he
    rw [step, turn]
    cases hc : input.caller i with
    | readSuspending bytes => dsimp only; split <;> rfl
    | readDisabled bytes => dsimp only; split <;> rfl
    | _ => simp [hc, Caller.pastStandby] at hpast
  | signal s => cases he

/-- A thread leaves the port as it is while another has the mutex. -/
theorem act_port {input' : StreamIn} {i : Nat} (ha : Act thread input input') (hm : input.mutex_ = some i) (hne : i ≠ thread) :
    input'.port = input.port := by
  have hother : ¬ (input.mutex_ = none ∨ input.mutex_ = some thread) := by
    rw [hm]
    rintro (h | h)
    · cases h
    · exact hne (Option.some.inj h)
  cases ha with
  | goes hp => exact absurd hp.mutex hother
  | returns hp => exact absurd hp.mutex hother
  | enters => rfl
  | ends hfree => exact absurd (.inl hfree) hother

theorem suspension_ends (e : InputEvent) (h : input.Inv) : input.SuspensionEnds e := by
  intro i hpast hstandby
  have hin : (input.caller i).inside = true := by
    cases hc : input.caller i with
    | readSuspending bytes => rfl
    | readDisabled bytes => rfl
    | _ => rw [hc] at hpast; cases hpast
  have hstate : input.port.state_ ≠ .starting ∧ input.port.state_ ≠ .started := by
    have hseen := h.seen i
    cases hc : input.caller i with
    | readSuspending bytes => rwa [hc] at hseen
    | readDisabled bytes =>
      rw [hc] at hseen
      rcases hseen with hs | hs <;> simp [hs]
    | _ => rw [hc] at hpast; cases hpast
  rcases step_act h e with ⟨hsame, -⟩ | ⟨s, rfl⟩ | ⟨thread, ha, hthread, -⟩
  · exact .inl (hsame ▸ hstandby)
  · have hknown := h.known
    unfold Port.Known at hknown
    have hdisabled : input.port.state_ ≠ .disabled := by
      intro hd
      rw [step, Port.disabled_of_signal hd s] at hstandby
      cases hstandby
    cases hs : input.port.state_ <;> simp_all
  · left
    by_cases hi : i = thread
    · subst hi
      rwa [port_pastStandby hpast hthread] at hstandby
    · rwa [act_port ha ((h.inside i).1 hin) hi] at hstandby

/-- Between its own turns a thread stays where it is. -/
theorem caller_step (h : input.Inv) {e : InputEvent} (hturn : isTurn thread e = false)
    (hi : input.caller thread ≠ .idle ∨ begins thread e = false) :
    (input.step e).caller thread = input.caller thread := by
  rcases step_act h e with ⟨hsame, -⟩ | ⟨s, rfl⟩ | ⟨i, ha, hthread, -⟩
  · rw [hsame]
  · rfl
  · by_cases hne : thread = i
    · subst hne
      cases e with
      | turn j answer totalRead =>
        obtain rfl : j = thread := Option.some.inj hthread
        simp [isTurn] at hturn
      | signal s => cases hthread
      | standby j =>
        obtain rfl : j = thread := Option.some.inj hthread
        have hbusy : input.caller j ≠ .idle := hi.resolve_right (by simp [begins])
        rw [step, if_neg hbusy]
      | read j bytes =>
        obtain rfl : j = thread := Option.some.inj hthread
        have hbusy : input.caller j ≠ .idle := hi.resolve_right (by simp [begins])
        rw [step, if_neg hbusy]
    · exact act_other ha hne

/-- A turn leaves its thread fewer turns, or the thread waits for the mutex. -/
theorem turnsLeft_turn (h : input.Inv) {e : InputEvent} (hturn : isTurn thread e = true) :
    ((input.step e).caller thread).turnsLeft ≤ (input.caller thread).turnsLeft - 1 ∨
      input.step e = input ∧ goesOn thread input e = false := by
  cases e with
  | turn i answer totalRead =>
    obtain rfl : i = thread := by simpa [isTurn] using hturn
    by_cases hi : input.caller i = .idle
    · left
      rw [step, turn, hi]
      simp only [hi, Caller.turnsLeft]
      exact Nat.le_refl _
    · rcases act_turn h hi answer totalRead with ha | ⟨hsame, hheld, hother⟩
      · left
        rw [step]
        generalize input.turn i answer totalRead = input' at ha ⊢
        cases ha with
        | goes hp hc hs hn hl hr =>
          have hlt := hn.resolve_left fun hidle => hi hidle.1
          rw [goes_caller]
          omega
        | returns => simp [Caller.turnsLeft]
        | enters hc =>
          rw [hc]
          simp [Caller.turnsLeft]
        | ends => simp [Caller.turnsLeft]
      · exact .inr ⟨hsame, by simp [goesOn, hother, Option.isSome_iff_ne_none, hheld]⟩
  | _ => cases hturn

theorem turnsLeft_le (h : input.Inv) (thread : Nat) : (input.caller thread).turnsLeft ≤ 43 := by
  have hwf := h.callers thread
  cases hc : input.caller thread with
  | standbyStarting timeout_ms => rw [hc] at hwf; exact Nat.add_le_add_right hwf.2 23
  | standbySuspending timeout_ms retval => rw [hc] at hwf; exact hwf.1.2.trans (by decide)
  | readStarting bytes timeout_ms => rw [hc] at hwf; exact (Nat.add_le_add_right hwf.2 6).trans (by decide)
  | _ => simp [Caller.turnsLeft]

/-- A thread that goes on is out of its call after forty-three turns. -/
theorem ends_run (h : input.Inv) {es : List InputEvent} (hb : ∀ e ∈ es, begins thread e = false)
    (hturns : 43 ≤ Runs.count step (goesOn thread) input es) : (Runs.run step input es).caller thread = .idle := by
  have hle : ((Runs.run step input es).caller thread).turnsLeft ≤
      (input.caller thread).turnsLeft - Runs.count step (goesOn thread) input es := by
    refine Runs.run_measure_count (m := fun input : StreamIn => (input.caller thread).turnsLeft)
      (C := fun e => begins thread e = false) (fun input e h _ => inv_step input e h) ?_ ?_ h hb
    · intro input e h hb
      cases hturn : isTurn thread e with
      | false => rw [caller_step h hturn (.inr hb)]
      | true =>
        rcases turnsLeft_turn h hturn with hlt | ⟨hsame, -⟩
        · exact hlt.trans (Nat.sub_le _ _)
        · rw [hsame]
    · intro input e h hb hgoes
      rcases turnsLeft_turn h (Bool.and_eq_true_iff.1 hgoes).1 with hlt | ⟨-, hwaits⟩
      · exact hlt
      · rw [hgoes] at hwaits
        cases hwaits
  have hmax := turnsLeft_le h thread
  have hend : Inv (Runs.run step input es) := Runs.run_inv inv_step h es
  have hwf := hend.callers thread
  generalize (Runs.run step input es).caller thread = c at hle hwf ⊢
  have hzero : c.turnsLeft = 0 := by omega
  cases c with
  | idle => rfl
  | standbySuspending timeout_ms retval => exact absurd hwf.1.1 (by rw [show timeout_ms = 0 from hzero]; decide)
  | _ => simp [Caller.turnsLeft] at hzero

/-! ## The mutex -/

/-- The thread with the mutex lets go of it on its turn, or has fewer to go. -/
theorem insideLeft_turn (h : input.Inv) (hm : input.mutex_ = some thread) {e : InputEvent} (hturn : isTurn thread e = true) :
    (input.step e).mutex_ = none ∨
      (input.step e).mutex_ = some thread ∧
        ((input.step e).caller thread).insideLeft < (input.caller thread).insideLeft := by
  cases e with
  | turn i answer totalRead =>
    obtain rfl : i = thread := by simpa [isTurn] using hturn
    have hin : (input.caller i).inside = true := (h.inside i).2 hm
    have ha := act_inside h hin answer totalRead
    rw [step]
    generalize input.turn i answer totalRead = input' at ha ⊢
    cases ha with
    | @goes p c hp hc hs hn hl hr =>
      cases hci : c.inside with
      | false => exact .inl (by simp [goes, hci])
      | true =>
        refine .inr ⟨by simp [goes, hci], ?_⟩
        rw [goes_caller]
        exact hl hin hci
    | returns => exact .inl rfl
    | enters hc => rw [hc] at hin; cases hin
    | ends => exact .inl rfl
  | _ => cases hturn

/-- Whoever has the mutex keeps it between its own turns. -/
theorem mutex_step (h : input.Inv) (hm : input.mutex_ = some thread) {e : InputEvent} (hturn : isTurn thread e = false) :
    (input.step e).mutex_ = some thread := by
  have hin : (input.caller thread).inside = true := (h.inside thread).2 hm
  have hi : input.caller thread ≠ .idle := by
    intro he
    rw [he] at hin
    cases hin
  rw [← (inv_step input e h).inside thread, caller_step h hturn (.inl hi)]
  exact hin

theorem insideLeft_le (c : Caller) : c.insideLeft ≤ 4 := by cases c <;> simp [Caller.insideLeft]

theorem insideLeft_pos {c : Caller} (h : c.inside = true) : 0 < c.insideLeft := by
  cases c <;> first | exact Nat.succ_pos _ | cases h

/-- It lets go of it within its next turns. -/
theorem unlocks_run (h : input.Inv) (hm : input.mutex_ = some thread) {es : List InputEvent}
    (hturns : (input.caller thread).insideLeft ≤ es.countP (isTurn thread)) :
    ∃ pre post, es = pre ++ post ∧ (Runs.run step input pre).mutex_ = none := by
  induction es generalizing input with
  | nil => exact absurd hturns (Nat.not_le_of_lt (insideLeft_pos ((h.inside thread).2 hm)))
  | cons e es ih =>
    have hnext := inv_step input e h
    have hlater : (input.step e).mutex_ = some thread →
        ((input.step e).caller thread).insideLeft ≤ es.countP (isTurn thread) →
        ∃ pre post, e :: es = pre ++ post ∧ (Runs.run step input pre).mutex_ = none := by
      intro hm' hle
      obtain ⟨pre, post, rfl, hfree⟩ := ih hnext hm' hle
      exact ⟨e :: pre, post, rfl, hfree⟩
    cases hturn : isTurn thread e with
    | false =>
      have hin : (input.caller thread).inside = true := (h.inside thread).2 hm
      have hi : input.caller thread ≠ .idle := by
        intro he
        rw [he] at hin
        cases hin
      rw [List.countP_cons_of_neg (by simp [hturn])] at hturns
      exact hlater (mutex_step h hm hturn) (by rwa [caller_step h hturn (.inl hi)])
    | true =>
      rw [List.countP_cons_of_pos hturn] at hturns
      rcases insideLeft_turn h hm hturn with hfree | ⟨hm', hlt⟩
      · exact ⟨[e], es, rfl, hfree⟩
      · exact hlater hm' (by omega)

/-- Whatever the threads and the session do: a thread lets go of the mutex for
`ReadData` with the port STARTED, or in STANDBY where its last look is the one for
DISABLED and a suspension has ended behind the one for STANDBY; the calls return
the results of their contract; `frames_presented_` counts the frames of all reads
that returned; a thread in a call is out of it after forty-three turns that do not
find the mutex with another; and within four of its own whoever has the mutex lets
go of it. -/
theorem calls_run (kind : PortKind) (is_a2dp : Bool) (sample_rate_ frame_size : Nat) (es es' : List InputEvent)
    (thread : Nat) :
    let opened := opened ⟨kind, true, is_a2dp, .standby⟩ sample_rate_ frame_size
    let input := Runs.run step opened es
    Runs.Along step ReadsStarted opened es ∧ Runs.Along step SuspensionEnds opened es ∧
      (∀ r ∈ input.returned, r.2.WellFormed) ∧
      input.frames_presented_ = (input.returned.map fun r => r.2.frames input.frame_size).sum % 2 ^ 64 ∧
      ((∀ e ∈ es', begins thread e = false) → 43 ≤ Runs.count step (goesOn thread) input es' →
        (Runs.run step input es').caller thread = .idle) ∧
      (input.mutex_ = some thread → 4 ≤ es'.countP (isTurn thread) →
        ∃ pre post, es' = pre ++ post ∧ (Runs.run step input pre).mutex_ = none) := by
  intro opened input
  have h0 : opened.Inv := inv_opened (by nofun) sample_rate_ frame_size
  have h : input.Inv := Runs.run_inv inv_step h0 es
  refine ⟨Runs.along_of_inv inv_step (fun _ => reads_started) h0 es,
    Runs.along_of_inv inv_step (fun _ => suspension_ends) h0 es, h.returned, h.counted, ends_run h, ?_⟩
  intro hm hturns
  exact unlocks_run h hm ((insideLeft_le _).trans hturns)

/-- A thread reads, another calls standby, and the suspend is refused. -/
theorem calls_run_standby :
    let es : List InputEvent := [.read 0 8, .turn 0 .refused 0, .turn 0 .refused 0,
      .turn 0 (.accepted [.controlResult .success]) 0, .turn 0 .refused 8, .standby 1, .turn 0 .refused 0]
    let es' : List InputEvent := List.replicate 43 (.turn 1 .refused 0)
    let input := Runs.run step (opened ⟨.aidl, true, false, .standby⟩ 16000 2) es
    Runs.Along step ReadsStarted (opened ⟨.aidl, true, false, .standby⟩ 16000 2) es ∧
      (Runs.run step input es').caller 1 = .idle ∧
      ∃ pre post, es' = pre ++ post ∧ (Runs.run step input pre).mutex_ = none := by
  intro es es' input
  have hb : ∀ e ∈ es', begins 1 e = false := by
    intro e he
    rw [List.eq_of_mem_replicate he]
    rfl
  have hgoes : 43 ≤ Runs.count step (goesOn 1) input es' := by decide +kernel
  have hturns : 4 ≤ es'.countP (isTurn 1) := by
    rw [List.countP_replicate]
    decide
  have hmutex : input.mutex_ = some 1 := by decide
  obtain ⟨hreads, -, -, -, hends, hunlocks⟩ := calls_run .aidl false 16000 2 es es' 1
  clear_value es'
  exact ⟨hreads, hends hb hgoes, hunlocks hmutex hturns⟩

/-- A suspension ends between the looks of a thread that reads. -/
example :
    let es : List InputEvent := [.read 0 8, .turn 0 .refused 0, .turn 0 .refused 0,
      .turn 0 (.accepted [.controlResult .success]) 0, .standby 1, .turn 1 .refused 0, .turn 1 (.accepted []) 0,
      .turn 1 .refused 0, .read 2 8, .turn 2 .refused 0, .turn 2 .refused 0, .signal (.controlResult .success),
      .turn 2 .refused 0, .turn 2 .refused 0]
    let input := Runs.run step (opened ⟨.aidl, true, false, .standby⟩ 16000 2) es
    input.caller 2 = .reading 8 ∧ input.port.state_ = .standby := by
  decide

/-! ## A start that standby waits for -/

/-- The thread finds the port STARTING on its turn. -/
def FindsStarting (thread : Nat) (input : StreamIn) (e : InputEvent) : Prop :=
  isTurn thread e = true → input.port.state_ = .starting

instance (thread : Nat) (input : StreamIn) (e : InputEvent) : Decidable (FindsStarting thread input e) :=
  inferInstanceAs (Decidable (_ → _))

/-- No thread has the mutex while the port is STARTING. -/
theorem Inv.free_of_starting (h : input.Inv) (hs : input.port.state_ = .starting) : input.mutex_ = none := by
  by_contra hm
  obtain ⟨i, hi⟩ := Option.ne_none_iff_exists'.1 hm
  exact (h.seen i).not_starting ((h.inside i).2 hi) hs

/-- As long as the port is STARTING, the thread stays in the first wait. -/
theorem standbyStarting_run (h : input.Inv) {timeout_ms : Nat} (hc : input.caller thread = .standbyStarting timeout_ms)
    {es : List InputEvent} (hes : Runs.Along step (FindsStarting thread) input es)
    (hk : es.countP (isTurn thread) < timeout_ms) :
    (Runs.run step input es).caller thread = .standbyStarting (timeout_ms - es.countP (isTurn thread)) := by
  induction es generalizing input timeout_ms with
  | nil => exact hc
  | cons e es ih =>
    obtain ⟨hfinds, hrest⟩ := hes
    cases hturn : isTurn thread e with
    | false =>
      rw [List.countP_cons_of_neg (by simp [hturn])] at hk ⊢
      have hsame := caller_step h hturn (.inl (by rw [hc]; nofun))
      exact ih (inv_step input e h) (hsame.trans hc) hrest hk
    | true =>
      rw [List.countP_cons_of_pos hturn] at hk ⊢
      have hwf : (Caller.standbyStarting timeout_ms).WellFormed := hc ▸ h.callers thread
      have hnext : (input.step e).caller thread = .standbyStarting (timeout_ms - 1) := by
        cases e with
        | turn i answer totalRead =>
          obtain rfl : i = thread := by simpa [isTurn] using hturn
          have hne : timeout_ms ≠ 1 := by omega
          rw [step, turn, hc]
          dsimp only
          rw [locks_of_free (h.free_of_starting (hfinds hturn)), Wait.wake_eq _ _ hwf, if_neg hne, Wait.look,
            if_pos (hfinds hturn), standbyWait, goes_caller]
        | _ => cases hturn
      rw [Runs.run_cons, ih (inv_step input e h) hnext hrest (by omega), Nat.sub_sub, Nat.add_comm 1]

/-- A thread in a call stays where it is while the others have their turns. -/
theorem caller_run (h : input.Inv) (hi : input.caller thread ≠ .idle) {es : List InputEvent}
    (hes : ∀ e ∈ es, isTurn thread e = false) : (Runs.run step input es).caller thread = input.caller thread := by
  induction es generalizing input with
  | nil => rfl
  | cons e es ih =>
    rw [List.forall_mem_cons] at hes
    have hsame := caller_step h hes.1 (.inl hi)
    rw [Runs.run_cons, ih (inv_step input e h) (by rwa [hsame]) hes.2, hsame]

/-- A thread out of the first wait calls `Suspend` if it finds the port STARTED,
and leaves the port as it is if it does not. -/
theorem standbyStarted_run (h : input.Inv) (hc : input.caller thread = .standbyStarted) {es₁ es₂ : List InputEvent}
    (h₁ : ∀ e ∈ es₁, isTurn thread e = false) (h₂ : ∀ e ∈ es₂, isTurn thread e = false) (answer : Answer)
    (totalRead : Nat) :
    let turn : InputEvent := .turn thread answer totalRead
    let looks := Runs.run step input es₁
    let calls := Runs.run step (looks.step turn) es₂
    (looks.port.state_ = .started → (calls.step turn).port = (calls.port.suspend answer).2) ∧
      (looks.port.state_ ≠ .started → (calls.step turn).port = calls.port) := by
  intro turn looks calls
  have hlooks : looks.caller thread = .standbyStarted := (caller_run h (by rw [hc]; nofun) h₁).trans hc
  have hlooked : (looks.step turn).caller thread =
      if looks.port.state_ = .started then .suspend else .standbyNotSuspending := by
    simp only [turn, step, StreamIn.turn, hlooks, goes_caller]
  have hbusy : (looks.step turn).caller thread ≠ .idle := by
    rw [hlooked]
    split <;> nofun
  have hcalls : calls.caller thread = if looks.port.state_ = .started then .suspend else .standbyNotSuspending :=
    (caller_run (inv_step _ _ (Runs.run_inv inv_step h es₁)) hbusy h₂).trans hlooked
  constructor
  · intro hstarted
    rw [if_pos hstarted] at hcalls
    simp only [turn, step, StreamIn.turn, hcalls, goes]
  · intro hstarted
    rw [if_neg hstarted] at hcalls
    simp only [turn, step, StreamIn.turn, hcalls]
    split <;> rfl

/-- In a stream that is starting, `in_standby` that finds it out of STARTING
within its first nineteen milliseconds calls `Suspend` exactly if its next look
finds it STARTED, whatever comes between its looks; after the twentieth it
returns 0 without another look, and the stream goes on. -/
theorem standby_run (kind : PortKind) (is_a2dp : Bool) (sample_rate_ frame_size : Nat)
    (es es' es₁ es₂ : List InputEvent) (thread : Nat) (answer : Answer) (totalRead : Nat) :
    let turn : InputEvent := .turn thread answer totalRead
    let input := Runs.run step (opened ⟨kind, true, is_a2dp, .standby⟩ sample_rate_ frame_size) es
    let waiting := input.step (.standby thread)
    let input' := Runs.run step waiting es'
    let looks := Runs.run step (input'.step turn) es₁
    let calls := Runs.run step (looks.step turn) es₂
    input.caller thread = .idle → input.port.state_ = .starting → Runs.Along step (FindsStarting thread) waiting es' →
      (∀ e ∈ es₁ ++ es₂, isTurn thread e = false) → input'.mutex_ = none →
      (es'.countP (isTurn thread) < 19 → input'.port.state_ ≠ .starting →
          (looks.port.state_ = .started → (calls.step turn).port = (calls.port.suspend answer).2) ∧
            (looks.port.state_ ≠ .started → (calls.step turn).port = calls.port)) ∧
        (es'.countP (isTurn thread) = 19 → input'.step turn = input'.returns thread (.standby 0)) := by
  intro turn input waiting input' looks calls hidle hstarting hes hothers hfree
  have h0 : Inv (opened ⟨kind, true, is_a2dp, .standby⟩ sample_rate_ frame_size) :=
    inv_opened (by nofun) sample_rate_ frame_size
  have hinput : input.Inv := Runs.run_inv inv_step h0 es
  have h : waiting.Inv := inv_step _ _ hinput
  have h' : input'.Inv := Runs.run_inv inv_step h es'
  have hw : waiting.caller thread = .standbyStarting 20 := by
    simp only [waiting, step]
    rw [if_pos hidle, locks_of_free (hinput.free_of_starting hstarting), inStandby, Wait.look, if_pos hstarting,
      standbyWait, goes_caller]
    rfl
  have hwaits : es'.countP (isTurn thread) < 20 → input'.caller thread = .standbyStarting (20 - es'.countP (isTurn thread)) :=
    standbyStarting_run h hw hes
  rw [List.forall_mem_append] at hothers
  constructor
  · intro hk hleft
    have hc := hwaits (by omega)
    have hout : input'.step turn = input'.goes thread .standbyStarted := by
      have hne : 20 - es'.countP (isTurn thread) ≠ 1 := by omega
      simp only [turn, step, StreamIn.turn, hc]
      rw [locks_of_free hfree, Wait.wake_eq _ _ (by omega), if_neg hne, Wait.look, if_neg hleft, standbyWait]
    exact standbyStarted_run (inv_step _ _ h') (by rw [hout, goes_caller]) hothers.1 hothers.2 answer totalRead
  · intro hk
    have hc := hwaits (by omega)
    rw [hk] at hc
    simp only [turn, step, StreamIn.turn, hc]
    rw [locks_of_free hfree]
    rfl

/-- The start succeeds after two milliseconds; a thread that would read waits for the mutex. -/
theorem standby_run_started :
    let es : List InputEvent := [.read 0 8, .turn 0 .refused 0, .turn 0 .refused 0, .turn 0 (.accepted []) 0]
    let es' : List InputEvent := [.turn 1 .refused 0, .turn 1 .refused 0, .signal (.controlResult .success)]
    let turn : InputEvent := .turn 1 (.accepted [.controlResult .success]) 0
    let waiting := (Runs.run step (opened ⟨.hidl, true, false, .standby⟩ 8000 2) es).step (.standby 1)
    let looks := Runs.run step ((Runs.run step waiting es').step turn) [.read 2 8]
    let calls := Runs.run step (looks.step turn) []
    (calls.step turn).port = (calls.port.suspend (.accepted [.controlResult .success])).2 := by
  intro es es' turn waiting looks calls
  have h := standby_run .hidl false 8000 2 es es' [.read 2 8] [] 1 (.accepted [.controlResult .success]) 0 (by decide)
    (by decide) (by decide) (by decide) (by decide)
  exact (h.1 (by decide) (by decide)).1 (by decide)

end StreamIn

end PhhTreble.Hw

import Mathlib.Algebra.Group.Nat.Defs
import PhhTreble.Hw.Port
/-!
# An output stream

`BluetoothStreamOut` and the functions of `stream_apis.cc` that change its port
or its frame counters. They hold its mutex, but for the `WriteData` of
`out_write`: what other threads do meanwhile comes between the parts of a write.
Times are left out, with the sleeps that depend on them.
-/

namespace PhhTreble.Hw
open Audio

/-- A frame counter, with the bytes that `WriteData` has reported as accepted
since the counter was last reset. -/
structure FrameCounter where
  frames : Nat
  accepted : Nat
deriving DecidableEq, Repr

namespace FrameCounter

def reset (_ : FrameCounter) : FrameCounter := ⟨0, 0⟩

/-- An addition to the `uint64_t`. -/
def add (c : FrameCounter) (frames : Nat) : FrameCounter := { c with frames := (c.frames + frames) % 2 ^ 64 }

def accept (c : FrameCounter) (bytes : Nat) : FrameCounter := { c with accepted := c.accepted + bytes }

end FrameCounter

/-- Where the writing thread stands in `out_write`: outside, in `WriteData`, or
behind it with its result, before it locks the mutex again. -/
inductive Writer where
  | idle
  | writing (bytes : Nat)
  | written (bytes totalWritten : Nat)
deriving DecidableEq, Repr

structure StreamOut where
  /-- `bluetooth_output_`. -/
  port : Port
  sample_rate_ : Nat
  /-- `audio_stream_out_frame_size`, for one configuration of the session. -/
  frame_size : Nat
  frames_count_ : Nat
  frames_rendered_ : FrameCounter
  frames_presented_ : FrameCounter
  writer : Writer
deriving DecidableEq, Repr

/-- The map that `ParseAudioParams` makes of the key-value pairs. -/
abbrev Params := List (String × String)

def eio : Int := 5 -- EIO
def ebusy : Int := 16 -- EBUSY
def einval : Int := 22 -- EINVAL
def enosys : Int := 38 -- ENOSYS

namespace StreamOut

/-- The fields `adev_open_output_stream` sets. -/
def opened (port : Port) (sample_rate_ frame_size preferred_data_interval_us : Nat) : StreamOut :=
  let frames_count_ := preferred_data_interval_us * sample_rate_ % 2 ^ 64 / 1000000
  ⟨port, sample_rate_, frame_size, frames_count_, ⟨0, 0⟩, ⟨0, 0⟩, .idle⟩

/-! ## Standby, pause, resume -/

/-- The body that `out_standby` and `out_pause` share. -/
def suspendOutput (out : StreamOut) (answer : Answer) : Int × StreamOut :=
  match out.port.state_ with
  | .started =>
    let (ok, port) := out.port.suspend answer
    (if ok then 0 else -eio, { out with frames_rendered_ := out.frames_rendered_.reset, port := port })
  | .starting | .suspending => (-ebusy, out)
  | _ => (0, out)

def outStandby (out : StreamOut) (answer : Answer) : Int × StreamOut := out.suspendOutput answer

def outPause (out : StreamOut) (answer : Answer) : Int × StreamOut := out.suspendOutput answer

def outResume (out : StreamOut) (answer : Answer) : Int × StreamOut :=
  match out.port.state_ with
  | .standby =>
    let (ok, port) := out.port.start answer
    (if ok then 0 else -eio, { out with port := port })
  | .starting | .suspending => (-ebusy, out)
  | .disabled => (-einval, out)
  | _ => (0, out)

/-! ## Writing -/

/-- `out_write` up to `WriteData`; a stream that cannot resume returns. Only a
DISABLED one drops the data. -/
def outWrite (out : StreamOut) (bytes : Nat) (answer : Answer) : Option Nat × StreamOut :=
  match out.writer with
  | .idle =>
    let (retval, out) := if out.port.state_ ≠ .started then out.outResume answer else (0, out)
    if retval ≠ 0 then (some (if out.port.state_ = .disabled then bytes else 0), out)
    else (none, { out with writer := .writing bytes })
  | _ => (none, out)

/-- `WriteData` returns `totalWritten`. -/
def writeData (out : StreamOut) (totalWritten : Nat) : StreamOut :=
  match out.writer with
  | .writing bytes =>
    { out with
      frames_rendered_ := out.frames_rendered_.accept totalWritten
      frames_presented_ := out.frames_presented_.accept totalWritten
      writer := .written bytes totalWritten }
  | _ => out

/-- `out_write` from there to its end. -/
def outWritten (out : StreamOut) : Option Nat × StreamOut :=
  match out.writer with
  | .written bytes totalWritten =>
    if totalWritten ≠ 0 then
      let frames := bytes / out.frame_size
      (some totalWritten,
        { out with
          frames_rendered_ := out.frames_rendered_.add frames
          frames_presented_ := out.frames_presented_.add frames
          writer := .idle })
    else (some totalWritten, { out with writer := .idle })
  | _ => (none, out)

/-! ## Parameters -/

/-- The `sup_*` keys; `config` is the sample rate that `LoadAudioConfig` finds. -/
def configParam (out : StreamOut) (params : Params) (config : Option Nat) : StreamOut :=
  if (params.lookup "sup_sampling_rates").isSome ∨ (params.lookup "sup_channels").isSome ∨
      (params.lookup "sup_formats").isSome then
    match config with
    | some sample_rate => { out with sample_rate_ := sample_rate }
    | none => out
  else out

def a2dpSuspendedParam (out : StreamOut) (params : Params) (answer : Answer) : StreamOut :=
  match params.lookup "A2dpSuspended" with
  | none => out
  | some value =>
    if out.port.is_a2dp then
      if value = "true" then
        let out := { out with frames_rendered_ := out.frames_rendered_.reset }
        if out.port.state_ = .started then { out with port := (out.port.suspend answer).2.setState .disabled }
        else if out.port.state_ ≠ .disabled then { out with port := out.port.stop }
        else out
      else if out.port.state_ = .disabled then { out with port := out.port.setState .standby }
      else out
    else out

/-- `closing` and `exiting`. -/
def stopParam (out : StreamOut) (params : Params) (key value : String) : StreamOut :=
  if params.lookup key = some value ∧ out.port.state_ ≠ .disabled then
    { out with
      frames_rendered_ := out.frames_rendered_.reset
      frames_presented_ := out.frames_presented_.reset
      port := out.port.stop }
  else out

/-- `out_set_parameters`; the `routing` and `LeAudioSuspended` keys are only logged. -/
def outSetParameters (out : StreamOut) (params : Params) (config : Option Nat) (answer : Answer) : StreamOut :=
  (((out.configParam params config).a2dpSuspendedParam params answer).stopParam params "closing" "true").stopParam
    params "exiting" "1"

/-! ## The steps -/

inductive Event where
  | write (bytes : Nat) (answer : Answer)
  | writeData (totalWritten : Nat)
  | written
  | standby (answer : Answer)
  | pause (answer : Answer)
  | resume (answer : Answer)
  | setParameters (params : Params) (config : Option Nat) (answer : Answer)
  /-- A signal outside a wait. -/
  | signal (s : Signal)
deriving DecidableEq, Repr

def step (out : StreamOut) : Event → StreamOut
  | .write bytes answer => (out.outWrite bytes answer).2
  | .writeData totalWritten => out.writeData totalWritten
  | .written => out.outWritten.2
  | .standby answer => (out.outStandby answer).2
  | .pause answer => (out.outPause answer).2
  | .resume answer => (out.outResume answer).2
  | .setParameters params config answer => out.outSetParameters params config answer
  | .signal s => { out with port := out.port.signal s }

/-! ## What a call does -/

/-- Standby and pause reset the rendered frames exactly when the port is STARTED. -/
theorem suspendOutput_eq (out : StreamOut) (answer : Answer) :
    (out.suspendOutput answer).2 =
      if out.port.state_ = .started then
        { out with frames_rendered_ := out.frames_rendered_.reset, port := (out.port.suspend answer).2 }
      else out := by
  unfold suspendOutput
  cases h : out.port.state_ <;> rfl

theorem suspendOutput_port (out : StreamOut) (answer : Answer) :
    (out.suspendOutput answer).2.port = (out.port.suspend answer).2 := by
  rw [suspendOutput_eq]
  split
  · rfl
  · rename_i h
    rw [Port.suspend, Port.request_idle (fun ⟨_, hs⟩ => h hs)]

/-- A resume changes the port, by a `Start`. -/
theorem outResume_eq (out : StreamOut) (answer : Answer) :
    (out.outResume answer).2 = { out with port := (out.port.start answer).2 } := by
  have hidle : out.port.state_ ≠ .standby → (out.port.start answer).2 = out.port := by
    intro h
    rw [Port.start, Port.request_idle (fun ⟨_, hs⟩ => h hs)]
  unfold outResume
  cases h : out.port.state_ with
  | standby => rfl
  | _ => rw [hidle (by rw [h]; nofun)]

/-- A write changes the port as a resume does, and goes on to `WriteData` or not. -/
theorem outWrite_cases (out : StreamOut) (bytes : Nat) (answer : Answer) :
    (out.outWrite bytes answer).2 = out ∧ out.writer ≠ .idle ∨
      out.writer = .idle ∧ ((out.outWrite bytes answer).2 = { out with port := (out.port.start answer).2 } ∨
        (out.outWrite bytes answer).2 = { out with port := (out.port.start answer).2, writer := .writing bytes }) := by
  unfold outWrite
  cases hw : out.writer with
  | writing _ => exact .inl ⟨rfl, nofun⟩
  | written _ _ => exact .inl ⟨rfl, nofun⟩
  | idle =>
    refine .inr ⟨rfl, ?_⟩
    by_cases hs : out.port.state_ = .started
    · have hidle : (out.port.start answer).2 = out.port := by
        rw [Port.start, Port.request_idle (by rw [hs]; nofun)]
      right
      simp [hs, hidle]
    · dsimp only
      rw [if_pos hs, outResume_eq]
      split
      · exact .inl (by rw [← hw])
      · exact .inr rfl

end StreamOut

end PhhTreble.Hw

import PhhTreble.Hw.Input
import PhhTreble.Hw.Position
/-!
# The capture position

`in_get_capture_position`, of what the port fetches from the session. It takes
the position also where the port returns false, as it does over AIDL.
-/

namespace PhhTreble.Hw

variable {P : Type}

structure CapturePosition where
  frames : Nat
  time : Int
deriving DecidableEq, Repr

/-- A time stamp in microseconds. -/
def TimeSpec.micros (t : TimeSpec) : Int := (t.tv_sec * 1000000000 + t.tv_nsec).tdiv 1000

namespace StreamIn

def latencyFrames (input : StreamIn) (position : PresentationPosition) : Nat :=
  position.remoteDeviceAudioDelayNanos / 1000000 * input.sample_rate_ % 2 ^ 64 / 1000

def inCalculateStarvingDelayMs (input : StreamIn) (fetched : Bool × PresentationPosition) : CapturePosition :=
  { frames := Id.run (presentedFrames (fun a b => pure (sub64 a b)) input.frames_presented_
      (fetched.2.transmittedOctets / input.frame_size) (input.latencyFrames fetched.2))
    time := fetched.2.transmittedOctetsTimestamp.micros }

/-- The position is left as it was where there is none. -/
def inGetCapturePosition (input : StreamIn) (fetched : Bool × PresentationPosition) : Int × Option CapturePosition :=
  if input.port.state_ = .standby then (-enosys, none) else (0, some (input.inCalculateStarvingDelayMs fetched))

/-- Over either interface the stream takes the position of a ready session. -/
theorem inGetCapturePosition_reports {input : StreamIn} {session : PortSession P} {position : PresentationPosition}
    (hu : input.port.in_use = true) (hs : input.port.state_ ≠ .standby) (h : session.Reports position)
    (hcovers : input.frames_presented_ ≤ position.transmittedOctets / input.frame_size) :
    input.inGetCapturePosition (input.port.getPresentationPosition session) =
      (0, some ⟨input.frames_presented_ - input.latencyFrames position, position.transmittedOctetsTimestamp.micros⟩) := by
  have hport : (StreamOut.opened input.port 0 0 0).port.in_use = true := hu
  have hfetched : (input.port.getPresentationPosition session).2 = position :=
    congrArg Prod.snd (StreamOut.fetched_eq hport h)
  rw [inGetCapturePosition, if_neg hs, inCalculateStarvingDelayMs, hfetched, presentedFrames_eq]
  congr 3
  split
  · rfl
  · rename_i hno
    rw [not_or] at hno
    rw [Nat.le_antisymm hcovers (Nat.le_of_not_lt hno.1)]

/-! ## Runs -/

/-- What no step changes. -/
structure Configured (a b : StreamIn) : Prop where
  sample_rate_ : b.sample_rate_ = a.sample_rate_
  frame_size : b.frame_size = a.frame_size
  in_use : b.port.in_use = a.port.in_use
  returned : a.returned <+: b.returned

theorem Configured.trans {a b c : StreamIn} (h : Configured a b) (h' : Configured b c) : Configured a c :=
  ⟨h'.sample_rate_.trans h.sample_rate_, h'.frame_size.trans h.frame_size, h'.in_use.trans h.in_use,
    h.returned.trans h'.returned⟩

theorem configured_step {input : StreamIn} (h : input.Inv) (e : InputEvent) : Configured input (input.step e) := by
  rcases step_act h e with ⟨hsame, -⟩ | ⟨s, rfl⟩ | ⟨thread, ha, -, -⟩
  · rw [hsame]
    exact ⟨rfl, rfl, rfl, List.prefix_refl _⟩
  · exact ⟨rfl, rfl, Port.signal_in_use _ _, List.prefix_refl _⟩
  · generalize input.step e = input' at ha ⊢
    cases ha with
    | goes hp hc hs hn hl hr => exact ⟨rfl, rfl, hp.in_use, List.prefix_refl _⟩
    | returns hp hr hf => exact ⟨rfl, rfl, hp.in_use, List.prefix_append _ _⟩
    | enters hc => exact ⟨rfl, rfl, rfl, List.prefix_refl _⟩
    | ends hm hc => exact ⟨rfl, rfl, rfl, List.prefix_append _ _⟩

theorem configured_run {input : StreamIn} (h : input.Inv) (es : List InputEvent) :
    Configured input (Runs.run step input es) := by
  refine (Runs.run_inv (J := fun b : StreamIn => b.Inv ∧ Configured input b) ?_ ⟨h, ?_⟩ es).2
  · rintro b e ⟨hb, hc⟩
    exact ⟨inv_step b e hb, hc.trans (configured_step hb e)⟩
  · exact ⟨rfl, rfl, rfl, List.prefix_refl _⟩

/-- The frames of all reads that have returned. -/
def framesRead (input : StreamIn) : Nat := (input.returned.map fun r => r.2.frames input.frame_size).sum

theorem Configured.framesRead_le {a b : StreamIn} (h : Configured a b) : a.framesRead ≤ b.framesRead := by
  obtain ⟨rest, hrest⟩ := h.returned
  rw [framesRead, framesRead, ← hrest, h.frame_size, List.map_append, List.sum_append]
  exact Nat.le_add_right _ _

/-- The call gets the position of a ready session, which has received no fewer
frames than the stream has counted. -/
structure Asks (input : StreamIn) (session : PortSession P) (position : PresentationPosition) : Prop where
  reports : session.Reports position
  running : input.port.state_ ≠ .standby
  covers : input.frames_presented_ ≤ position.transmittedOctets / input.frame_size

/-- Over either interface, and whatever the threads do in between: a capture
position is what has been read less the latency, and while the delay does not
grow no later position is behind an earlier one. -/
theorem capture_run (kind : Audio.PortKind) (is_a2dp : Bool) (sample_rate_ frame_size : Nat) (es es' : List InputEvent)
    (session session' : PortSession P) (position position' : PresentationPosition) :
    let input := Runs.run step (opened ⟨kind, true, is_a2dp, .standby⟩ sample_rate_ frame_size) es
    let input' := Runs.run step input es'
    input.Asks session position → input'.Asks session' position' → input'.framesRead < 2 ^ 64 →
      position'.remoteDeviceAudioDelayNanos ≤ position.remoteDeviceAudioDelayNanos →
      position.remoteDeviceAudioDelayNanos / 1000000 * sample_rate_ < 2 ^ 64 →
      let frames := input.framesRead - input.latencyFrames position
      let frames' := input'.framesRead - input'.latencyFrames position'
      input.inGetCapturePosition (input.port.getPresentationPosition session) =
          (0, some ⟨frames, position.transmittedOctetsTimestamp.micros⟩) ∧
        input'.inGetCapturePosition (input'.port.getPresentationPosition session') =
          (0, some ⟨frames', position'.transmittedOctetsTimestamp.micros⟩) ∧
        frames ≤ frames' := by
  intro input input' h h' hwrap hdelay hrate frames frames'
  have h0 : Inv (opened ⟨kind, true, is_a2dp, .standby⟩ sample_rate_ frame_size) :=
    inv_opened (by nofun) sample_rate_ frame_size
  have hinv : input.Inv := Runs.run_inv inv_step h0 es
  have hinv' : input'.Inv := Runs.run_inv inv_step hinv es'
  have hconf : Configured (opened ⟨kind, true, is_a2dp, .standby⟩ sample_rate_ frame_size) input := configured_run h0 es
  have hconf' : Configured input input' := configured_run hinv es'
  have hu : input.port.in_use = true := hconf.in_use
  have hcall := inGetCapturePosition_reports hu h.running h.reports h.covers
  have hcall' := inGetCapturePosition_reports (hconf'.in_use.trans hu) h'.running h'.reports h'.covers
  have hread : input.framesRead ≤ input'.framesRead := hconf'.framesRead_le
  have hcount : input.frames_presented_ = input.framesRead :=
    hinv.counted.trans (Nat.mod_eq_of_lt (Nat.lt_of_le_of_lt hread hwrap))
  have hcount' : input'.frames_presented_ = input'.framesRead := hinv'.counted.trans (Nat.mod_eq_of_lt hwrap)
  have hlatency : input'.latencyFrames position' ≤ input.latencyFrames position := by
    have hms : position'.remoteDeviceAudioDelayNanos / 1000000 ≤ position.remoteDeviceAudioDelayNanos / 1000000 :=
      Nat.div_le_div_right hdelay
    have hmul := Nat.mul_le_mul_right sample_rate_ hms
    rw [latencyFrames, latencyFrames, hconf'.sample_rate_, hconf.sample_rate_]
    change position'.remoteDeviceAudioDelayNanos / 1000000 * sample_rate_ % 2 ^ 64 / 1000 ≤
      position.remoteDeviceAudioDelayNanos / 1000000 * sample_rate_ % 2 ^ 64 / 1000
    rw [Nat.mod_eq_of_lt hrate, Nat.mod_eq_of_lt (Nat.lt_of_le_of_lt hmul hrate)]
    exact Nat.div_le_div_right hmul
  rw [hcount] at hcall
  rw [hcount'] at hcall'
  exact ⟨hcall, hcall', (Nat.sub_le_sub_right hread _).trans (Nat.sub_le_sub_left hlatency _)⟩

/-- Eight bytes are read, then four: over AIDL, at a delay of 1 ms. -/
theorem capture_run_aidl :
    let session (octets : Nat) : PortSession Unit := .aidl .a2dpSoftwareDecodingDatapath
      ⟨some 1, some ⟨true⟩, some ⟨.pcmConfig, ()⟩, [], true, []⟩ (some ⟨1000000, octets, ⟨1, 5000⟩⟩)
    let input := Runs.run step (opened ⟨.aidl, true, true, .standby⟩ 1000 2)
      [.read 0 8, .turn 0 .refused 0, .turn 0 .refused 0, .turn 0 (.accepted [.controlResult .success]) 0,
        .turn 0 .refused 8, .turn 0 .refused 0]
    let input' := Runs.run step input [.read 0 4, .turn 0 .refused 0, .turn 0 .refused 4, .turn 0 .refused 0]
    input.inGetCapturePosition (input.port.getPresentationPosition (session 9)) =
        (0, some ⟨input.framesRead - input.latencyFrames ⟨1000000, 9, ⟨1, 5000⟩⟩, 1000005⟩) ∧
      input'.inGetCapturePosition (input'.port.getPresentationPosition (session 20)) =
        (0, some ⟨input'.framesRead - input'.latencyFrames ⟨1000000, 20, ⟨1, 5000⟩⟩, 1000005⟩) ∧
      input.framesRead - input.latencyFrames ⟨1000000, 9, ⟨1, 5000⟩⟩ ≤
        input'.framesRead - input'.latencyFrames ⟨1000000, 20, ⟨1, 5000⟩⟩ := by
  intro session input input'
  exact capture_run .aidl true 1000 2 _ _ (session 9) (session 20) ⟨1000000, 9, ⟨1, 5000⟩⟩ ⟨1000000, 20, ⟨1, 5000⟩⟩
    ⟨⟨rfl, rfl⟩, by decide, by decide⟩ ⟨⟨rfl, rfl⟩, by decide, by decide⟩ (by decide) (by decide) (by decide)

end StreamIn

end PhhTreble.Hw

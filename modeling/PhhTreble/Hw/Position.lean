import PhhTreble.Audio.Session
import PhhTreble.Hidl.Sessions
import PhhTreble.Hw.Accounting
/-!
# The presentation position

The delay and the position of a stream, from the stack's report through the
session and the port to `out_get_latency_ms` and
`out_get_presentation_position`. `uint64_t` and `int64_t` values of one pattern
are one `Nat`.
-/

namespace PhhTreble

namespace Hw

structure TimeSpec where
  tv_sec : Int
  tv_nsec : Int
deriving DecidableEq, Repr

structure PresentationPosition where
  remoteDeviceAudioDelayNanos : Nat
  transmittedOctets : Nat
  transmittedOctetsTimestamp : TimeSpec
deriving DecidableEq, Repr

def PresentationPosition.zero : PresentationPosition := ⟨0, 0, ⟨0, 0⟩⟩

end Hw

open Hw (TimeSpec PresentationPosition StreamOut Port)

variable {P : Type}

/-! ## The sessions -/

/-- `reply` is the stack's position, none where the call fails. -/
def Audio.Session.getPresentationPosition (t : Audio.SessionType) (s : Audio.Session P)
    (reply : Option PresentationPosition) : Bool × PresentationPosition :=
  if s.isSessionReady t then
    let retval := false
    match reply with
    | none => (false, .zero)
    | some presentation_position => (retval, presentation_position)
  else (false, .zero)

/-- `reply` is what the stack passes to the callback, none where the call fails. -/
def Hidl.Session.getPresentationPosition (t : Hidl.SessionType) (s : Hidl.Session)
    (reply : Option (Audio.HidlStatus × PresentationPosition)) : Bool × PresentationPosition :=
  if s.isSessionReady t then
    match reply with
    | some (.success, position) => (true, position)
    | _ => (false, .zero)
  else (false, .zero)

namespace Hw

/-- The session behind a port, with the reply of the stack. There is no AIDL
service behind a HIDL port. -/
inductive PortSession (P : Type) where
  | aidl (t : Audio.SessionType) (s : Audio.Session P) (reply : Option PresentationPosition)
  | hidl (t : Hidl.SessionType) (s : Hidl.Session) (reply : Option (Audio.HidlStatus × PresentationPosition))

/-- The stack reports the position to a ready session. -/
def PortSession.Reports (session : PortSession P) (position : PresentationPosition) : Prop :=
  match session with
  | .aidl t s reply => s.isSessionReady t = true ∧ reply = some position
  | .hidl t s reply => s.isSessionReady t = true ∧ reply = some (.success, position)

/-- `GetPresentationPosition` of the ports, with the zeros of the caller. -/
def Port.getPresentationPosition (p : Port) (session : PortSession P) : Bool × PresentationPosition :=
  if p.in_use then
    match session with
    | .aidl t s reply => s.getPresentationPosition t reply
    | .hidl t s reply => s.getPresentationPosition t reply
  else (false, .zero)

/-! ## The stream -/

def kMinimumDelayMs : Nat := 50
def kMaximumDelayMs : Nat := 1000
def kExtraAudioSyncMs : Nat := 200

/-- The subtraction of two `uint64_t`. -/
def sub64 (a b : Nat) : Nat := if b ≤ a then a - b else a + 2 ^ 64 - b

/-- The same, undefined where it wraps. -/
def subChecked (a b : Nat) : Option Nat := if b ≤ a then some (a - b) else none

/-- The presented frames of a position, over the subtraction. -/
def presentedFrames {m : Type → Type} [Monad m] (sub : Nat → Nat → m Nat)
    (frames_presented_ frames latency_frames : Nat) : m Nat := do
  let frames ← (
    -- The stack's counter is obsolete after a reset of the HAL,
    if frames_presented_ < frames then pure frames_presented_
    -- and too far behind after a reset of the output.
    else sub frames_presented_ frames >>= fun lag => pure (if lag > latency_frames then frames_presented_ else frames))
  if frames > latency_frames then sub frames latency_frames else pure 0

structure FeedingDelay where
  latency_ms : Nat
  frames : Nat
  timestamp : TimeSpec
deriving DecidableEq, Repr

namespace StreamOut

def timestampFetched (fetched : Bool × PresentationPosition) : Bool :=
  let delay_report_ms := fetched.2.remoteDeviceAudioDelayNanos / 1000000
  fetched.1 && kMinimumDelayMs < delay_report_ms && delay_report_ms < kMaximumDelayMs

/-- The delay of audio_a2dp_hw. -/
def legacyDelayMs (out : StreamOut) : Nat :=
  (out.frames_count_ * 1000 % 2 ^ 64 / out.sample_rate_ + kExtraAudioSyncMs) % 2 ^ 64

def delayReportMs (out : StreamOut) (fetched : Bool × PresentationPosition) : Nat :=
  if timestampFetched fetched then fetched.2.remoteDeviceAudioDelayNanos / 1000000 else out.legacyDelayMs

def latencyFrames (out : StreamOut) (delay_report_ms : Nat) : Nat :=
  delay_report_ms * out.sample_rate_ % 2 ^ 64 / 1000

/-- `out_calculate_feeding_delay_ms`, of what the port has fetched and the
monotonic clock. -/
def outCalculateFeedingDelayMs (out : StreamOut) (fetched : Bool × PresentationPosition) (clock : TimeSpec) :
    FeedingDelay :=
  let delay_report_ms := out.delayReportMs fetched
  let absorbed_bytes := fetched.2.transmittedOctets
  { latency_ms := delay_report_ms % 2 ^ 32
    frames := Id.run (presentedFrames (fun a b => pure (sub64 a b)) out.frames_presented_.frames
      (absorbed_bytes / out.frame_size) (out.latencyFrames delay_report_ms))
    timestamp := if timestampFetched fetched then fetched.2.transmittedOctetsTimestamp else clock }

def outGetLatencyMs (out : StreamOut) (fetched : Bool × PresentationPosition) (clock : TimeSpec) : Nat :=
  (out.outCalculateFeedingDelayMs fetched clock).latency_ms

def outGetPresentationPosition (out : StreamOut) (fetched : Bool × PresentationPosition) (clock : TimeSpec) :
    Nat × TimeSpec :=
  let d := out.outCalculateFeedingDelayMs fetched clock
  (d.frames, d.timestamp)

/-- The frames of a position with this delay. -/
def framesAt (out : StreamOut) (position : PresentationPosition) (delay_report_ms : Nat) : Nat :=
  Id.run (presentedFrames (fun a b => pure (sub64 a b)) out.frames_presented_.frames
    (position.transmittedOctets / out.frame_size) (out.latencyFrames delay_report_ms))

end StreamOut

/-! ## One position -/

/-- With any subtraction that is right where it does not wrap, the presented
frames have this closed form: they never wrap. -/
theorem presentedFrames_of_sub {m : Type → Type} [Monad m] [LawfulMonad m] {sub : Nat → Nat → m Nat}
    (hsub : ∀ a b, b ≤ a → sub a b = pure (a - b)) (frames_presented_ frames latency_frames : Nat) :
    presentedFrames sub frames_presented_ frames latency_frames =
      pure ((if frames_presented_ < frames ∨ latency_frames < frames_presented_ - frames then frames_presented_
        else frames) - latency_frames) := by
  have hlast : ∀ x, (if x > latency_frames then sub x latency_frames else pure 0) = pure (x - latency_frames) := by
    intro x
    split
    · rename_i h
      exact hsub x latency_frames h.le
    · rename_i h
      rw [Nat.sub_eq_zero_of_le (Nat.le_of_not_lt h)]
  unfold presentedFrames
  by_cases h : frames_presented_ < frames
  · rw [if_pos h, if_pos (Or.inl h), pure_bind, hlast]
  · rw [if_neg h, hsub _ _ (Nat.le_of_not_lt h), pure_bind, pure_bind, hlast]
    simp only [h, false_or, gt_iff_lt]

theorem presentedFrames_eq (frames_presented_ frames latency_frames : Nat) :
    Id.run (presentedFrames (fun a b => pure (sub64 a b)) frames_presented_ frames latency_frames) =
      (if frames_presented_ < frames ∨ latency_frames < frames_presented_ - frames then frames_presented_ else frames) -
        latency_frames := by
  rw [presentedFrames_of_sub (fun a b h => by rw [sub64, if_pos h])]
  rfl

/-- No subtraction wraps. -/
theorem presentedFrames_checked (frames_presented_ frames latency_frames : Nat) :
    presentedFrames subChecked frames_presented_ frames latency_frames =
      some (Id.run (presentedFrames (fun a b => pure (sub64 a b)) frames_presented_ frames latency_frames)) := by
  have hsub : ∀ a b, b ≤ a → subChecked a b = pure (a - b) := fun a b h => if_pos h
  rw [presentedFrames_eq, presentedFrames_of_sub hsub]
  rfl

/-- The presented frames stay within those the stream has counted. -/
theorem presentedFrames_le (frames_presented_ frames latency_frames : Nat) :
    Id.run (presentedFrames (fun a b => pure (sub64 a b)) frames_presented_ frames latency_frames) ≤
      frames_presented_ := by
  rw [presentedFrames_eq]
  split
  · exact Nat.sub_le _ _
  · rename_i h
    rw [not_or] at h
    exact (Nat.sub_le _ _).trans (Nat.le_of_not_lt h.1)

/-! ## AIDL and HIDL -/

namespace StreamOut

/-- The stream reports the delay of the position, its time stamp, and the
frames that belong to its bytes and its delay. -/
def ReportsPosition (out : StreamOut) (session : PortSession P) (clock : TimeSpec) (position : PresentationPosition) :
    Prop :=
  let fetched := out.port.getPresentationPosition session
  let delay_ms := position.remoteDeviceAudioDelayNanos / 1000000
  out.outGetLatencyMs fetched clock = delay_ms ∧
    out.outGetPresentationPosition fetched clock =
      (out.framesAt position delay_ms, position.transmittedOctetsTimestamp)

/-- The legacy delay and the clock agree with the position. -/
def LegacyAgrees (out : StreamOut) (clock : TimeSpec) (position : PresentationPosition) : Prop :=
  let delay_ms := position.remoteDeviceAudioDelayNanos / 1000000
  out.legacyDelayMs % 2 ^ 32 = delay_ms ∧ out.framesAt position out.legacyDelayMs = out.framesAt position delay_ms ∧
    clock = position.transmittedOctetsTimestamp

/-- What a ready session's report comes to at the port: over AIDL it fails, with
the position. -/
theorem fetched_eq {out : StreamOut} {session : PortSession P} {position : PresentationPosition}
    (hu : out.port.in_use = true) (h : session.Reports position) :
    out.port.getPresentationPosition session = (session matches .hidl .., position) := by
  unfold Port.getPresentationPosition
  rw [if_pos hu]
  cases session with
  | aidl t s reply =>
    obtain ⟨hr, rfl⟩ := h
    exact if_pos hr
  | hidl t s reply =>
    obtain ⟨hr, rfl⟩ := h
    exact if_pos hr

/-- A stream reports the stack's delay and position exactly when its port is
HIDL, or the legacy delay and the clock happen to agree with them. -/
theorem delay_reporting_iff (out : StreamOut) (session : PortSession P) (clock : TimeSpec)
    (position : PresentationPosition) (hu : out.port.in_use = true) (h : session.Reports position)
    (hmin : 50 < position.remoteDeviceAudioDelayNanos / 1000000)
    (hmax : position.remoteDeviceAudioDelayNanos / 1000000 < 1000) :
    out.ReportsPosition session clock position ↔
      (session matches .hidl ..) = true ∨ out.LegacyAgrees clock position := by
  unfold ReportsPosition
  rw [fetched_eq hu h]
  have hrange : (decide (kMinimumDelayMs < position.remoteDeviceAudioDelayNanos / 1000000) &&
      decide (position.remoteDeviceAudioDelayNanos / 1000000 < kMaximumDelayMs)) = true := by
    simp [kMinimumDelayMs, kMaximumDelayMs, hmin, hmax]
  cases session with
  | aidl t s reply =>
    have hfetched : timestampFetched (false, position) = false := rfl
    simp only [outGetLatencyMs, outGetPresentationPosition, outCalculateFeedingDelayMs, delayReportMs, hfetched,
      Bool.false_eq_true, if_false, false_or, Prod.mk.injEq]
    exact Iff.rfl
  | hidl t s reply =>
    have hfetched : timestampFetched (true, position) = true := hrange
    have hmod : position.remoteDeviceAudioDelayNanos / 1000000 % 2 ^ 32 =
        position.remoteDeviceAudioDelayNanos / 1000000 := Nat.mod_eq_of_lt (by omega)
    simp only [outGetLatencyMs, outGetPresentationPosition, outCalculateFeedingDelayMs, delayReportMs, hfetched,
      if_true, hmod, true_or, iff_true, true_and]
    rfl

/-- A started stream of 44.1 kHz stereo with 20 ms buffers. -/
def stream44100 (kind : Audio.PortKind) : StreamOut := opened ⟨kind, true, true, .started⟩ 44100 4 20000

/-- Over HIDL, a delay of 200 ms. -/
theorem delay_reporting_hidl :
    (stream44100 .hidl).ReportsPosition
      (PortSession.hidl (P := Unit) .a2dpSoftwareEncodingDatapath
        ⟨some 1, some ⟨true⟩, Hidl.kInvalidSoftwareAudioConfiguration, []⟩
        (some (.success, ⟨200000000, 4000, ⟨7, 0⟩⟩))) ⟨9, 0⟩ ⟨200000000, 4000, ⟨7, 0⟩⟩ := by
  apply (delay_reporting_iff (stream44100 .hidl) _ ⟨9, 0⟩ ⟨200000000, 4000, ⟨7, 0⟩⟩ rfl _ (by decide) (by decide)).2
  · exact .inl rfl
  · exact ⟨rfl, rfl⟩

/-- The same over AIDL: the stream reports the legacy delay and the clock. -/
theorem delay_reporting_aidl :
    ¬ (stream44100 .aidl).ReportsPosition
      (PortSession.aidl .a2dpSoftwareEncodingDatapath ⟨some 1, some ⟨true⟩, some ⟨.pcmConfig, ()⟩, [], true, []⟩
        (some ⟨200000000, 4000, ⟨7, 0⟩⟩)) ⟨9, 0⟩ ⟨200000000, 4000, ⟨7, 0⟩⟩ := by
  rintro ⟨h, -⟩
  exact absurd h (by decide)

/-! ## Runs with position calls -/

inductive PositionEvent where
  | stream (e : Event)
  /-- `out_get_presentation_position`, with what the port fetches and the clock. -/
  | position (fetched : Bool × PresentationPosition) (clock : TimeSpec)

/-- A call of `out_get_presentation_position` in its state. -/
structure Reading where
  out : StreamOut
  fetched : Bool × PresentationPosition
  clock : TimeSpec

def next (out : StreamOut) : PositionEvent → StreamOut
  | .stream e => out.step e
  | .position _ _ => out

/-- The calls of a run, in their order. -/
def readings : StreamOut → List PositionEvent → List Reading
  | _, [] => []
  | out, .stream e :: es => readings (out.step e) es
  | out, .position fetched clock :: es => ⟨out, fetched, clock⟩ :: readings out es

namespace Reading

def presented (r : Reading) : Nat := r.out.frames_presented_.frames

def transmitted (r : Reading) : Nat := r.fetched.2.transmittedOctets

def delay (r : Reading) : Nat := r.out.delayReportMs r.fetched

def latency (r : Reading) : Nat := r.out.latencyFrames r.delay

/-- The frames written that the stack has not sent yet. -/
def lag (r : Reading) : Nat := r.presented - r.transmitted / r.out.frame_size

/-- The frames the call returns. -/
def frames (r : Reading) : Nat := (r.out.outGetPresentationPosition r.fetched r.clock).1

/-- The same computed with subtractions that must not wrap. -/
def framesChecked (r : Reading) : Option Nat :=
  presentedFrames subChecked r.presented (r.transmitted / r.out.frame_size) r.latency

end Reading

/-- The counters of the stream and of the stack never decrease, the stack sends
no more than was written, and the delay and the rate stay as they are. -/
structure Steady (out : StreamOut) (es : List PositionEvent) : Prop where
  counted : Runs.Along next (fun out e => out.frames_presented_.frames ≤ (next out e).frames_presented_.frames ∧
    (next out e).sample_rate_ = out.sample_rate_) out es
  transmitted : (readings out es).Pairwise fun a b => a.transmitted ≤ b.transmitted
  delay : (readings out es).Pairwise fun a b => a.delay = b.delay
  sent : ∀ r ∈ readings out es, r.transmitted ≤ r.presented * r.out.frame_size

/-- The later call returns no fewer frames; or the earlier took the stack's
counter for a reset one and the later did not, and the frames fall by at most
the latency. -/
def Follows (a b : Reading) : Prop :=
  a.frames ≤ b.frames ∨ (a.latency < a.lag ∧ b.lag ≤ b.latency ∧ a.frames ≤ b.frames + b.latency)

/-! ## Two calls -/

theorem Reading.frames_eq (r : Reading) (h : r.transmitted ≤ r.presented * r.out.frame_size) :
    r.transmitted / r.out.frame_size ≤ r.presented ∧
      r.frames = (if r.latency < r.lag then r.presented else r.transmitted / r.out.frame_size) - r.latency := by
  have hle : r.transmitted / r.out.frame_size ≤ r.presented := Nat.div_le_of_le_mul (by rwa [Nat.mul_comm] at h)
  refine ⟨hle, (presentedFrames_eq _ _ _).trans ?_⟩
  have hor : (r.presented < r.transmitted / r.out.frame_size ∨ r.latency < r.lag) ↔ r.latency < r.lag :=
    or_iff_right hle.not_gt
  change (if r.presented < r.transmitted / r.out.frame_size ∨ r.latency < r.lag then r.presented
    else r.transmitted / r.out.frame_size) - r.latency = _
  simp only [hor]

theorem follows_of_le {a b : Reading} (hp : a.presented ≤ b.presented) (ht : a.transmitted ≤ b.transmitted)
    (hl : a.latency = b.latency) (hf : a.out.frame_size = b.out.frame_size)
    (ha : a.transmitted ≤ a.presented * a.out.frame_size) (hb : b.transmitted ≤ b.presented * b.out.frame_size) :
    Follows a b := by
  obtain ⟨hal, hae⟩ := a.frames_eq ha
  obtain ⟨hbl, hbe⟩ := b.frames_eq hb
  have hdiv : a.transmitted / a.out.frame_size ≤ b.transmitted / b.out.frame_size := by
    rw [hf]
    exact Nat.div_le_div_right ht
  unfold Follows
  rw [hae, hbe, hl]
  by_cases hla : b.latency < a.lag
  · rw [if_pos hla]
    by_cases hlb : b.latency < b.lag
    · left
      rw [if_pos hlb]
      exact Nat.sub_le_sub_right hp _
    · -- The stack's counter is used again: it is at most the latency behind.
      right
      rw [if_neg hlb]
      unfold Reading.lag at hlb
      exact ⟨hla, Nat.le_of_not_lt hlb, by omega⟩
  · left
    rw [if_neg hla]
    split <;> omega

/-! ## Runs -/

theorem step_frame_size (out : StreamOut) (e : Event) : (out.step e).frame_size = out.frame_size := by
  cases e with
  | write bytes answer =>
    change (out.outWrite bytes answer).2.frame_size = _
    rcases outWrite_cases out bytes answer with ⟨h, -⟩ | ⟨-, h | h⟩ <;> rw [h]
  | writeData n =>
    change (out.writeData n).frame_size = _
    unfold writeData
    split <;> rfl
  | written =>
    change out.outWritten.2.frame_size = _
    unfold outWritten
    split
    · split <;> rfl
    · rfl
  | standby answer => exact (suspendOutput_resets out answer).frame_size
  | pause answer => exact (suspendOutput_resets out answer).frame_size
  | resume answer =>
    change (out.outResume answer).2.frame_size = _
    rw [outResume_eq]
  | setParameters params config answer => exact (outSetParameters_resets out params config answer).frame_size
  | signal s => rfl

theorem next_frame_size (out : StreamOut) (e : PositionEvent) : (next out e).frame_size = out.frame_size := by
  cases e with
  | stream e => exact step_frame_size out e
  | position fetched clock => rfl

/-- The calls of a run find the counter at least where it started. -/
theorem readings_later {out : StreamOut} {es : List PositionEvent}
    (h : Runs.Along next (fun out e => out.frames_presented_.frames ≤ (next out e).frames_presented_.frames ∧
      (next out e).sample_rate_ = out.sample_rate_) out es) {r : Reading} (hr : r ∈ readings out es) :
    out.frames_presented_.frames ≤ r.presented ∧ r.out.sample_rate_ = out.sample_rate_ ∧
      r.out.frame_size = out.frame_size := by
  induction es generalizing out with
  | nil => cases hr
  | cons e es ih =>
    obtain ⟨⟨hle, hrate⟩, hrest⟩ := h
    have hlater : r ∈ readings (next out e) es → out.frames_presented_.frames ≤ r.presented ∧
        r.out.sample_rate_ = out.sample_rate_ ∧ r.out.frame_size = out.frame_size := by
      intro hmem
      obtain ⟨h1, h2, h3⟩ := ih hrest hmem
      exact ⟨hle.trans h1, h2.trans hrate, h3.trans (next_frame_size out e)⟩
    cases e with
    | stream e => exact hlater hr
    | position fetched clock =>
      rcases List.mem_cons.1 hr with rfl | hmem
      · exact ⟨Nat.le_refl _, rfl, rfl⟩
      · exact hlater hmem

theorem readings_pairwise {out : StreamOut} {es : List PositionEvent}
    (h : Runs.Along next (fun out e => out.frames_presented_.frames ≤ (next out e).frames_presented_.frames ∧
      (next out e).sample_rate_ = out.sample_rate_) out es) :
    (readings out es).Pairwise fun a b => a.presented ≤ b.presented ∧ b.out.sample_rate_ = a.out.sample_rate_ ∧
      b.out.frame_size = a.out.frame_size := by
  induction es generalizing out with
  | nil => exact List.Pairwise.nil
  | cons e es ih =>
    cases e with
    | stream e => exact ih h.2
    | position fetched clock => exact List.Pairwise.cons (fun r hr => readings_later h.2 hr) (ih h.2)

/-- In a steady run the positions follow each other, stay within the frames
counted, and come out of subtractions that do not wrap. -/
theorem position_run (out : StreamOut) (es : List PositionEvent) (h : Steady out es) :
    (readings out es).Pairwise Follows ∧
      ∀ r ∈ readings out es, r.frames ≤ r.presented ∧ r.framesChecked = some r.frames := by
  constructor
  · have hall := ((readings_pairwise h.counted).and h.transmitted).and h.delay
    refine hall.imp_of_mem fun {a b} ha hb ⟨⟨⟨hp, hrate, hsize⟩, ht⟩, hd⟩ => ?_
    have hl : a.latency = b.latency := by rw [Reading.latency, Reading.latency, hd, latencyFrames, latencyFrames, hrate]
    exact follows_of_le hp ht hl hsize.symm (h.sent a ha) (h.sent b hb)
  · intro r _
    exact ⟨presentedFrames_le _ _ _, presentedFrames_checked _ _ _⟩

/-- A second of audio is written. At a delay of 200 ms the stack is 14100
frames behind, then 4100. -/
def resumedCounter : List PositionEvent :=
  [.stream (.write 176400 (.accepted [])), .stream (.writeData 176400), .stream .written,
    .position (true, ⟨200000000, 120000, ⟨1, 0⟩⟩) ⟨1, 0⟩, .position (true, ⟨200000000, 160000, ⟨2, 0⟩⟩) ⟨2, 0⟩]

theorem resumedCounter_steady : Steady (stream44100 .hidl) resumedCounter :=
  ⟨by decide, by decide, by decide, by decide⟩

theorem position_run_resumed :
    (readings (stream44100 .hidl) resumedCounter).Pairwise Follows ∧
      ∀ r ∈ readings (stream44100 .hidl) resumedCounter, r.frames ≤ r.presented ∧ r.framesChecked = some r.frames :=
  position_run _ _ resumedCounter_steady

/-- The position falls from 35280 to 31180 frames. -/
theorem position_falls :
    Steady (stream44100 .hidl) resumedCounter ∧
      ¬ (readings (stream44100 .hidl) resumedCounter).Pairwise fun a b => a.frames ≤ b.frames :=
  ⟨resumedCounter_steady, by decide⟩

end StreamOut

end Hw

end PhhTreble

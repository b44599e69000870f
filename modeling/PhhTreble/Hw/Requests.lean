import PhhTreble.Hw.Stream
/-!
# Refused requests

What a stream does when the session refuses its `StartStream` or
`SuspendStream`, and whether a port that waits has something to wait for.
-/

namespace PhhTreble.Hw
open Audio

/-- A call of the port that reaches the session, with the session's answer. -/
inductive Request where
  | start (answer : Answer)
  | suspend (answer : Answer)
deriving DecidableEq, Repr

namespace Request

def answer : Request → Answer
  | .start answer => answer
  | .suspend answer => answer

/-- The call on the port. -/
def call (p : Port) : Request → Bool × Port
  | .start answer => p.start answer
  | .suspend answer => p.suspend answer

end Request

namespace StreamOut

/-- The request that a step makes of the session, if any. -/
def requests (out : StreamOut) (e : Event) : Option Request :=
  let canStart := out.port.in_use ∧ out.port.state_ = .standby
  let canSuspend := out.port.in_use ∧ out.port.state_ = .started
  match e with
  | .write _ answer => if out.writer = .idle ∧ canStart then some (.start answer) else none
  | .resume answer => if canStart then some (.start answer) else none
  | .standby answer | .pause answer => if canSuspend then some (.suspend answer) else none
  | .setParameters params _ answer =>
    if params.lookup "A2dpSuspended" = some "true" ∧ out.port.is_a2dp ∧ canSuspend then some (.suspend answer)
    else none
  | .writeData _ | .written | .signal _ => none

/-- A refused request returns false and leaves the port as it was. -/
def Restores (out : StreamOut) (e : Event) : Prop :=
  ∀ r, out.requests e = some r → r.answer = .refused → r.call out.port = (false, out.port)

/-- No request of the step is refused. -/
def NotRefused (out : StreamOut) (e : Event) : Prop :=
  ∀ r, out.requests e = some r → r.answer ≠ .refused

/-- A step requests a start of a port in STANDBY, and a suspend of a STARTED one. -/
theorem requests_cases {out : StreamOut} {e : Event} {r : Request} (h : out.requests e = some r) :
    (∃ answer, r = .start answer ∧ out.port.in_use = true ∧ out.port.state_ = .standby) ∨
      ∃ answer, r = .suspend answer ∧ out.port.in_use = true ∧ out.port.state_ = .started := by
  cases e with
  | write bytes answer =>
    obtain ⟨⟨-, hs⟩, hr⟩ := Option.ite_none_right_eq_some.1 h
    exact .inl ⟨answer, (Option.some.inj hr).symm, hs⟩
  | resume answer =>
    obtain ⟨hs, hr⟩ := Option.ite_none_right_eq_some.1 h
    exact .inl ⟨answer, (Option.some.inj hr).symm, hs⟩
  | standby answer =>
    obtain ⟨hs, hr⟩ := Option.ite_none_right_eq_some.1 h
    exact .inr ⟨answer, (Option.some.inj hr).symm, hs⟩
  | pause answer =>
    obtain ⟨hs, hr⟩ := Option.ite_none_right_eq_some.1 h
    exact .inr ⟨answer, (Option.some.inj hr).symm, hs⟩
  | setParameters params config answer =>
    obtain ⟨⟨-, -, hs⟩, hr⟩ := Option.ite_none_right_eq_some.1 h
    exact .inr ⟨answer, (Option.some.inj hr).symm, hs⟩
  | writeData _ => cases h
  | written => cases h
  | signal _ => cases h

/-- A refusal leaves a port waiting that did not wait before. -/
theorem requests_refused {out : StreamOut} {e : Event} {r : Request} (h : out.requests e = some r)
    (hr : r.answer = .refused) : (r.call out.port).2.Busy ∧ ¬ out.port.Busy := by
  rcases requests_cases h with ⟨answer, rfl, hs⟩ | ⟨answer, rfl, hs⟩
  · obtain rfl : answer = .refused := hr
    rw [Request.call, Port.start, Port.request_refused hs]
    exact ⟨.inl rfl, by simp [Port.Busy, hs.2]⟩
  · obtain rfl : answer = .refused := hr
    rw [Request.call, Port.suspend, Port.request_refused hs]
    exact ⟨.inr rfl, by simp [Port.Busy, hs.2]⟩

/-- No refusal restores the port. -/
theorem restores_iff (out : StreamOut) (e : Event) : out.Restores e ↔ out.NotRefused e := by
  constructor
  · intro h r hr hrefused
    obtain ⟨hbusy, hidle⟩ := requests_refused hr hrefused
    rw [h r hr hrefused] at hbusy
    exact hidle hbusy
  · intro h r hr hrefused
    exact absurd hrefused (h r hr)

/-! ## Busy streams -/

theorem suspendOutput_busy {out : StreamOut} (h : out.port.Busy) (answer : Answer) :
    out.suspendOutput answer = (-ebusy, out) := by
  unfold suspendOutput
  rcases h with h | h <;> rw [h]

theorem outResume_busy {out : StreamOut} (h : out.port.Busy) (answer : Answer) :
    out.outResume answer = (-ebusy, out) := by
  unfold outResume
  rcases h with h | h <;> rw [h]

/-- On a waiting port no call does anything; a write takes no bytes. -/
theorem busy_calls {out : StreamOut} (h : out.port.Busy) (hw : out.writer = .idle) (bytes : Nat) (answer : Answer) :
    out.outStandby answer = (-ebusy, out) ∧ out.outPause answer = (-ebusy, out) ∧
      out.outResume answer = (-ebusy, out) ∧ out.outWrite bytes answer = (some 0, out) := by
  refine ⟨suspendOutput_busy h answer, suspendOutput_busy h answer, outResume_busy h answer, ?_⟩
  have hs : out.port.state_ ≠ .started := by rcases h with h | h <;> rw [h] <;> nofun
  have hd : out.port.state_ ≠ .disabled := by rcases h with h | h <;> rw [h] <;> nofun
  unfold outWrite
  rw [hw]
  simp [hs, hd, outResume_busy h, ebusy]

/-! ## Parameters -/

theorem configParam_port (out : StreamOut) (params : Params) (config : Option Nat) :
    (out.configParam params config).port = out.port := by
  unfold configParam
  split
  · cases config <;> rfl
  · rfl

theorem stop_busy {p : Port} (h : p.stop.Busy) : p.Busy := by
  unfold Port.stop at h
  split at h
  · simp [Port.Busy] at h
  · exact h

theorem a2dpSuspendedParam_busy {out : StreamOut} {params : Params} {answer : Answer}
    (h : (out.a2dpSuspendedParam params answer).port.Busy) : out.port.Busy := by
  unfold a2dpSuspendedParam at h
  cases hv : params.lookup "A2dpSuspended" with
  | none => rwa [hv] at h
  | some value =>
    rw [hv] at h
    dsimp only at h
    split at h
    · split at h
      · split at h
        · simp [Port.Busy, Port.setState] at h
        · split at h
          · exact stop_busy h
          · exact h
      · split at h
        · simp [Port.Busy, Port.setState] at h
        · exact h
    · exact h

theorem stopParam_busy {out : StreamOut} {params : Params} {key value : String}
    (h : (out.stopParam params key value).port.Busy) : out.port.Busy := by
  unfold stopParam at h
  split at h
  · exact stop_busy h
  · exact h

/-- Parameters make no port wait. -/
theorem outSetParameters_busy {out : StreamOut} {params : Params} {config : Option Nat} {answer : Answer}
    (h : (out.outSetParameters params config answer).port.Busy) : out.port.Busy := by
  have h := a2dpSuspendedParam_busy (stopParam_busy (stopParam_busy h))
  rwa [configParam_port] at h

end StreamOut

/-! ## Pending requests -/

/-- A port that waits after a call waited before it, or the call made a request
that no signal has answered yet. -/
theorem Port.request_busy {r w d : BluetoothStreamState} {p : Port} {answer : Answer} (hne : answer ≠ .refused)
    (h : (p.request r w d answer).2.Busy) : (p.in_use = true ∧ p.state_ = r) ∧ answer = .accepted [] ∨
      ¬ (p.in_use = true ∧ p.state_ = r) ∧ p.Busy := by
  by_cases hr : p.in_use = true ∧ p.state_ = r
  · left
    refine ⟨hr, ?_⟩
    cases answer with
    | refused => exact absurd rfl hne
    | accepted ss =>
      rw [request_accepted hr] at h
      by_contra hss
      exact signals_not_busy (p := { p with state_ := w }) hr.1 (fun hnil => hss (congrArg _ hnil)) h
  · right
    rw [request_idle hr] at h
    exact ⟨hr, h⟩

/-- A stream, and whether its last request was accepted with no signal since. -/
structure Tracked where
  stream : StreamOut
  pending : Bool

namespace Tracked

def step (t : Tracked) (e : StreamOut.Event) : Tracked where
  stream := t.stream.step e
  pending :=
    match t.stream.requests e, e with
    | some r, _ => r.answer == .accepted []
    | none, .signal _ => t.pending && !t.stream.port.in_use
    | none, _ => t.pending

/-- A port that waits has a request pending. -/
def NotStuck (t : Tracked) : Prop := t.stream.port.Busy → t.pending = true

def Restores (t : Tracked) (e : StreamOut.Event) : Prop := t.stream.Restores e

def NotRefused (t : Tracked) (e : StreamOut.Event) : Prop := t.stream.NotRefused e

theorem pending_of_requests {t : Tracked} {e : StreamOut.Event} {r : Request} (h : t.stream.requests e = some r) :
    (t.step e).pending = (r.answer == .accepted []) := by simp [step, h]

theorem pending_of_not_requests {t : Tracked} {e : StreamOut.Event} (h : t.stream.requests e = none)
    (hs : ∀ s, e ≠ .signal s) : (t.step e).pending = t.pending := by
  unfold step
  rw [h]
  cases e with
  | signal s => exact absurd rfl (hs s)
  | _ => rfl

/-- What a step of one request does to `NotStuck`: the four calls differ in the
request alone. -/
theorem notStuck_request {t : Tracked} {e : StreamOut.Event} {r w d : BluetoothStreamState} {answer : Answer}
    {q : Request} (ht : t.NotStuck) (hnr : t.NotRefused e) (hans : q.answer = answer)
    (hs : ∀ s, e ≠ .signal s)
    (hreq : t.stream.requests e = if t.stream.port.in_use ∧ t.stream.port.state_ = r then some q else none)
    (hport : (t.step e).stream.port = (t.stream.port.request r w d answer).2) : (t.step e).NotStuck := by
  intro hbusy
  rw [hport] at hbusy
  by_cases hr : t.stream.port.in_use = true ∧ t.stream.port.state_ = r
  · rw [if_pos hr] at hreq
    have hne : answer ≠ .refused := hans ▸ hnr q hreq
    rcases Port.request_busy hne hbusy with ⟨-, ha⟩ | ⟨hn, -⟩
    · rw [pending_of_requests hreq, hans, ha]
      rfl
    · exact absurd hr hn
  · rw [if_neg hr] at hreq
    rw [Port.request_idle hr] at hbusy
    rw [pending_of_not_requests hreq hs]
    exact ht hbusy

/-- Where nothing happens to the port, nothing happens to the request. -/
theorem notStuck_port {t : Tracked} {e : StreamOut.Event} (ht : t.NotStuck) (hs : ∀ s, e ≠ .signal s)
    (hreq : t.stream.port.Busy → t.stream.requests e = none)
    (hport : (t.step e).stream.port.Busy → t.stream.port.Busy) : (t.step e).NotStuck := by
  intro hbusy
  have hb := hport hbusy
  rw [pending_of_not_requests (hreq hb) hs]
  exact ht hb

theorem notStuck_step {t : Tracked} (e : StreamOut.Event) (ht : t.NotStuck) (hnr : t.NotRefused e) :
    (t.step e).NotStuck := by
  cases e with
  | resume answer =>
    apply notStuck_request (q := .start answer) ht hnr rfl (by rintro _ ⟨⟩) rfl
    exact congrArg StreamOut.port (StreamOut.outResume_eq t.stream answer)
  | standby answer =>
    exact notStuck_request (q := .suspend answer) ht hnr rfl (by rintro _ ⟨⟩) rfl (StreamOut.suspendOutput_port _ _)
  | pause answer =>
    exact notStuck_request (q := .suspend answer) ht hnr rfl (by rintro _ ⟨⟩) rfl (StreamOut.suspendOutput_port _ _)
  | write bytes answer =>
    rcases StreamOut.outWrite_cases t.stream bytes answer with ⟨hsame, hw⟩ | ⟨hw, hport⟩
    · apply notStuck_port ht (by rintro _ ⟨⟩)
      · intro _
        exact if_neg (fun ⟨hi, _⟩ => hw hi)
      · intro hb
        change (t.stream.outWrite bytes answer).2.port.Busy at hb
        rwa [hsame] at hb
    · apply notStuck_request (r := .standby) (q := .start answer) ht hnr rfl (by rintro _ ⟨⟩)
      · simp only [StreamOut.requests, hw, true_and]
      · rcases hport with hport | hport <;> exact congrArg StreamOut.port hport
  | writeData n =>
    apply notStuck_port ht (by rintro _ ⟨⟩) (fun _ => rfl)
    intro hb
    simp only [step, StreamOut.step, StreamOut.writeData] at hb
    split at hb <;> exact hb
  | written =>
    apply notStuck_port ht (by rintro _ ⟨⟩) (fun _ => rfl)
    intro hb
    simp only [step, StreamOut.step, StreamOut.outWritten] at hb
    split at hb
    · split at hb <;> exact hb
    · exact hb
  | setParameters params config answer =>
    apply notStuck_port ht (by rintro _ ⟨⟩)
    · intro hb
      refine if_neg fun ⟨_, _, _, hs⟩ => ?_
      simp [Port.Busy, hs] at hb
    · exact StreamOut.outSetParameters_busy
  | signal s =>
    intro hbusy
    cases hu : t.stream.port.in_use with
    | true => exact absurd hbusy (Port.signal_not_busy hu s)
    | false =>
      have hb : t.stream.port.Busy := by
        simpa [step, StreamOut.step, Port.signal, hu] using hbusy
      simp [step, StreamOut.requests, ht hb, hu]

/-- The stream of a port that is set up. -/
def opened (kind : PortKind) (is_a2dp : Bool) (sample_rate_ frame_size preferred_data_interval_us : Nat) : Tracked :=
  ⟨.opened ⟨kind, true, is_a2dp, .standby⟩ sample_rate_ frame_size preferred_data_interval_us, false⟩

/-- In a run every refused request is undone, and the port waits only for
pending requests, exactly when no request is refused. -/
theorem requests_iff (kind : PortKind) (is_a2dp : Bool) (sample_rate_ frame_size preferred_data_interval_us : Nat)
    (es : List StreamOut.Event) :
    let t := opened kind is_a2dp sample_rate_ frame_size preferred_data_interval_us
    Runs.Always step NotStuck t es ∧ Runs.Along step Restores t es ↔ Runs.Along step NotRefused t es := by
  refine Runs.always_iff_along (J := fun _ => True) (fun _ _ _ => trivial) (fun t e _ ht => ?_) trivial
    (fun h => ?_) es
  · constructor
    · rintro ⟨-, h⟩
      exact (t.stream.restores_iff e).1 h
    · intro h
      exact ⟨notStuck_step e ht h, (t.stream.restores_iff e).2 h⟩
  · simp [opened, StreamOut.opened, Port.Busy] at h

/-- A resume that is refused leaves the port in STARTING for good. -/
theorem requests_refused_resume :
    let t := opened .aidl true 44100 4 20000
    ¬ (Runs.Always step NotStuck t [.resume .refused] ∧ Runs.Along step Restores t [.resume .refused]) ∧
      (t.step (.resume .refused)).stream.port.state_ = .starting ∧
      ((t.step (.resume .refused)).stream.outStandby .refused).1 = -16 := by
  intro t
  have hbusy : (t.step (.resume .refused)).stream.port.Busy := by decide
  refine ⟨?_, by decide, congrArg Prod.fst (StreamOut.busy_calls hbusy (by decide) 0 .refused).1⟩
  rintro ⟨h, -⟩
  have hpending := h.2 hbusy
  exact absurd hpending (by decide)

end Tracked

end PhhTreble.Hw

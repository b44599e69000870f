import PhhTreble.Hw.Accounting
import PhhTreble.Hw.Requests
/-!
# A2DP suspension

From the parameter `A2dpSuspended=true` to the next one with another value, the
port of an A2DP stream stays DISABLED and its writes are dropped.
-/

namespace PhhTreble.Hw
open Audio

namespace Port

/-- A disabled port ignores every result; a changed session disables it again. -/
theorem signal_disabled {p : Port} (h : p.state_ = .disabled) (s : Signal) : (p.signal s).state_ = .disabled := by
  unfold signal
  split
  · cases s with
    | sessionChanged => rfl
    | controlResult status =>
      cases hk : p.kind <;>
        simp [controlResultHandler, controlResultHandlerAidl, controlResultHandlerHidl, hk, h]
  · exact h

theorem stop_disabled {p : Port} (h : p.in_use = true) : p.stop.state_ = .disabled := by simp [stop, h]

theorem stop_of_disabled {p : Port} (h : p.state_ = .disabled) : p.stop.state_ = .disabled := by
  unfold stop
  split
  · rfl
  · exact h

@[simp] theorem stop_in_use (p : Port) : p.stop.in_use = p.in_use := by
  unfold stop
  split <;> rfl

@[simp] theorem signal_is_a2dp (p : Port) (s : Signal) : (p.signal s).is_a2dp = p.is_a2dp := by
  unfold signal
  split
  · cases s <;> rfl
  · rfl

@[simp] theorem signals_is_a2dp (p : Port) (ss : List Signal) : (ss.foldl signal p).is_a2dp = p.is_a2dp := by
  induction ss generalizing p with
  | nil => rfl
  | cons s ss ih => rw [List.foldl_cons, ih, signal_is_a2dp]

@[simp] theorem request_is_a2dp (r w d : BluetoothStreamState) (p : Port) (answer : Answer) :
    (p.request r w d answer).2.is_a2dp = p.is_a2dp := by
  unfold request
  split
  · cases answer with
    | refused => rfl
    | accepted ss => exact signals_is_a2dp _ ss
  · rfl

@[simp] theorem stop_is_a2dp (p : Port) : p.stop.is_a2dp = p.is_a2dp := by
  unfold stop
  split <;> rfl

/-- The same set-up port, whatever its state. -/
def SetUpAs (p q : Port) : Prop := p.in_use = q.in_use ∧ p.is_a2dp = q.is_a2dp

theorem SetUpAs.trans {p q r : Port} (h : p.SetUpAs q) (h' : q.SetUpAs r) : p.SetUpAs r :=
  ⟨h.1.trans h'.1, h.2.trans h'.2⟩

theorem signal_setUpAs (p : Port) (s : Signal) : (p.signal s).SetUpAs p := ⟨signal_in_use p s, signal_is_a2dp p s⟩

theorem request_setUpAs (r w d : BluetoothStreamState) (p : Port) (answer : Answer) :
    (p.request r w d answer).2.SetUpAs p :=
  ⟨request_in_use r w d p answer, request_is_a2dp r w d p answer⟩

theorem stop_setUpAs (p : Port) : p.stop.SetUpAs p := ⟨stop_in_use p, stop_is_a2dp p⟩

end Port

namespace StreamOut

/-! ## The port over a run -/

theorem a2dpSuspendedParam_setUpAs (out : StreamOut) (params : Params) (answer : Answer) :
    (out.a2dpSuspendedParam params answer).port.SetUpAs out.port := by
  unfold a2dpSuspendedParam
  cases params.lookup "A2dpSuspended" with
  | none => exact ⟨rfl, rfl⟩
  | some value =>
    dsimp only
    split
    · split
      · split
        · exact Port.request_setUpAs _ _ _ out.port answer
        · split
          · exact Port.stop_setUpAs out.port
          · exact ⟨rfl, rfl⟩
      · split <;> exact ⟨rfl, rfl⟩
    · exact ⟨rfl, rfl⟩

theorem stopParam_setUpAs (out : StreamOut) (params : Params) (key value : String) :
    (out.stopParam params key value).port.SetUpAs out.port := by
  unfold stopParam
  split
  · exact Port.stop_setUpAs out.port
  · exact ⟨rfl, rfl⟩

theorem outSetParameters_setUpAs (out : StreamOut) (params : Params) (config : Option Nat) (answer : Answer) :
    (out.outSetParameters params config answer).port.SetUpAs out.port := by
  have hconfig : (out.configParam params config).port.SetUpAs out.port := by
    rw [configParam_port]
    exact ⟨rfl, rfl⟩
  exact (stopParam_setUpAs _ _ _ _).trans
    ((stopParam_setUpAs _ _ _ _).trans ((a2dpSuspendedParam_setUpAs _ _ _).trans hconfig))

theorem writeData_port (out : StreamOut) (totalWritten : Nat) : (out.writeData totalWritten).port = out.port := by
  unfold writeData
  split <;> rfl

theorem outWritten_port (out : StreamOut) : out.outWritten.2.port = out.port := by
  unfold outWritten
  split
  · split <;> rfl
  · rfl

/-- No step sets the port up for another session. -/
theorem step_setUpAs (out : StreamOut) (e : Event) : (out.step e).port.SetUpAs out.port := by
  cases e with
  | write bytes answer =>
    change (out.outWrite bytes answer).2.port.SetUpAs out.port
    rcases outWrite_cases out bytes answer with ⟨hsame, -⟩ | ⟨-, hport | hport⟩
    · rw [hsame]
      exact ⟨rfl, rfl⟩
    · rw [hport]
      exact Port.request_setUpAs _ _ _ out.port answer
    · rw [hport]
      exact Port.request_setUpAs _ _ _ out.port answer
  | writeData totalWritten =>
    rw [step, writeData_port]
    exact ⟨rfl, rfl⟩
  | written =>
    rw [step, outWritten_port]
    exact ⟨rfl, rfl⟩
  | standby answer =>
    rw [step, outStandby, suspendOutput_port]
    exact Port.request_setUpAs _ _ _ out.port answer
  | pause answer =>
    rw [step, outPause, suspendOutput_port]
    exact Port.request_setUpAs _ _ _ out.port answer
  | resume answer =>
    rw [step, outResume_eq]
    exact Port.request_setUpAs _ _ _ out.port answer
  | setParameters params config answer => exact outSetParameters_setUpAs out params config answer
  | signal s => exact Port.signal_setUpAs out.port s

/-! ## Suspended -/

/-- A step that leaves A2DP suspended: parameters with no other value. -/
def KeepsSuspended : Event → Prop
  | .setParameters params _ _ => ∀ value, params.lookup "A2dpSuspended" = some value → value = "true"
  | _ => True

/-- The bytes that a step hands to the session. -/
def delivers (out : StreamOut) : Event → Nat
  | .writeData totalWritten =>
    match out.writer with
    | .writing _ => totalWritten
    | _ => 0
  | _ => 0

/-- A write that starts returns all its bytes, and goes no further. -/
def Drops (out : StreamOut) (e : Event) : Prop :=
  ∀ bytes answer, e = .write bytes answer → out.writer = .idle → out.outWrite bytes answer = (some bytes, out)

theorem a2dpSuspendedParam_suspends {out : StreamOut} {params : Params} (hu : out.port.in_use = true)
    (ha : out.port.is_a2dp = true) (hp : params.lookup "A2dpSuspended" = some "true") (answer : Answer) :
    (out.a2dpSuspendedParam params answer).port.state_ = .disabled := by
  unfold a2dpSuspendedParam
  rw [hp]
  dsimp only
  rw [if_pos ha, if_pos rfl]
  split
  · rfl
  · split
    · exact Port.stop_disabled hu
    · rename_i h
      exact not_not.1 h

theorem a2dpSuspendedParam_disabled {out : StreamOut} {params : Params} (h : out.port.state_ = .disabled)
    (hp : ∀ value, params.lookup "A2dpSuspended" = some value → value = "true") (answer : Answer) :
    (out.a2dpSuspendedParam params answer).port.state_ = .disabled := by
  unfold a2dpSuspendedParam
  cases hv : params.lookup "A2dpSuspended" with
  | none => exact h
  | some value =>
    obtain rfl := hp value hv
    dsimp only
    split
    · rw [if_pos rfl]
      split
      · rfl
      · rw [if_neg (not_not.2 h)]
        exact h
    · exact h

theorem stopParam_disabled {out : StreamOut} (h : out.port.state_ = .disabled) (params : Params)
    (key value : String) : (out.stopParam params key value).port.state_ = .disabled := by
  unfold stopParam
  split
  · exact Port.stop_of_disabled h
  · exact h

theorem outResume_disabled {out : StreamOut} (h : out.port.state_ = .disabled) (answer : Answer) :
    out.outResume answer = (-einval, out) := by
  unfold outResume
  rw [h]

/-- On a disabled port a write is dropped. -/
theorem outWrite_disabled {out : StreamOut} (h : out.port.state_ = .disabled) (hw : out.writer = .idle) (bytes : Nat)
    (answer : Answer) : out.outWrite bytes answer = (some bytes, out) := by
  unfold outWrite
  rw [hw]
  simp [h, outResume_disabled h, einval]

theorem suspendOutput_disabled {out : StreamOut} (h : out.port.state_ = .disabled) (answer : Answer) :
    out.suspendOutput answer = (0, out) := by
  unfold suspendOutput
  rw [h]

/-- The invariant: the port is disabled, and the writing thread is outside
`out_write` or still in the write it was in, with `w` its place at the suspension. -/
def Suspended (w : Writer) (out : StreamOut) : Prop :=
  out.port.state_ = .disabled ∧
    (out.writer = .idle ∨ out.writer = w ∨ ∃ bytes totalWritten, w = .writing bytes ∧ out.writer = .written bytes totalWritten)

theorem suspended_step {w : Writer} {out : StreamOut} {e : Event} (h : out.Suspended w) (he : KeepsSuspended e) :
    (out.step e).Suspended w := by
  obtain ⟨hs, hw⟩ := h
  cases e with
  | write bytes answer =>
    have hsame : (out.outWrite bytes answer).2 = out := by
      rcases outWrite_cases out bytes answer with ⟨hsame, -⟩ | ⟨hidle, -⟩
      · exact hsame
      · rw [outWrite_disabled hs hidle]
    rw [step, hsame]
    exact ⟨hs, hw⟩
  | writeData totalWritten =>
    refine ⟨by rw [step, writeData_port, hs], ?_⟩
    rw [step, writeData]
    cases hc : out.writer with
    | writing bytes =>
      -- no write started since: this is the one in progress at the suspension
      right; right
      rw [hc] at hw
      rcases hw with hw | hw | ⟨_, _, -, hw⟩
      · cases hw
      · exact ⟨bytes, totalWritten, hw.symm, rfl⟩
      · cases hw
    | idle => exact .inl hc
    | written bytes totalWritten' => rwa [hc] at hw ⊢
  | written =>
    refine ⟨by rw [step, outWritten_port, hs], ?_⟩
    rw [step, outWritten]
    cases hc : out.writer with
    | written bytes totalWritten =>
      left
      dsimp only
      split <;> rfl
    | idle => exact .inl hc
    | writing bytes => rwa [hc] at hw ⊢
  | standby answer =>
    rw [step, outStandby, suspendOutput_disabled hs]
    exact ⟨hs, hw⟩
  | pause answer =>
    rw [step, outPause, suspendOutput_disabled hs]
    exact ⟨hs, hw⟩
  | resume answer =>
    rw [step, outResume_disabled hs]
    exact ⟨hs, hw⟩
  | setParameters params config answer =>
    constructor
    · have hconfig : (out.configParam params config).port.state_ = .disabled := by rw [configParam_port, hs]
      exact stopParam_disabled (stopParam_disabled (a2dpSuspendedParam_disabled hconfig he answer) _ _ _) _ _ _
    · rw [step, (outSetParameters_resets out params config answer).writer]
      exact hw
  | signal s => exact ⟨Port.signal_disabled hs s, hw⟩

/-- Suspended, every write that starts is dropped, and the bytes still delivered
are of the write in progress at the suspension. -/
theorem Suspended.drops {w : Writer} {out : StreamOut} (h : out.Suspended w) (e : Event) :
    out.Drops e ∧ (out.delivers e ≠ 0 → out.writer = w) := by
  constructor
  · rintro bytes answer - hw
    exact outWrite_disabled h.1 hw bytes answer
  · intro hne
    rcases h.2 with hw | hw | ⟨bytes, totalWritten, -, hw⟩
    · cases e <;> simp [delivers, hw] at hne
    · exact hw
    · cases e <;> simp [delivers, hw] at hne

/-- `A2dpSuspended=true` suspends an A2DP stream. -/
theorem outSetParameters_suspends {out : StreamOut} {params : Params} (hu : out.port.in_use = true)
    (ha : out.port.is_a2dp = true) (hp : params.lookup "A2dpSuspended" = some "true") (config : Option Nat)
    (answer : Answer) : (out.outSetParameters params config answer).port.state_ = .disabled := by
  apply stopParam_disabled
  apply stopParam_disabled
  apply a2dpSuspendedParam_suspends _ _ hp
  · rw [configParam_port, hu]
  · rw [configParam_port, ha]

/-- An A2DP stream that a run has brought to any state stays suspended, until
parameters with another value of `A2dpSuspended`. -/
theorem suspension_holds (kind : PortKind) (sample_rate_ frame_size preferred_data_interval_us : Nat)
    (es : List Event) (params : Params) (config : Option Nat) (answer : Answer) (es' : List Event)
    (hp : params.lookup "A2dpSuspended" = some "true") (hes : ∀ e ∈ es', KeepsSuspended e) :
    let opened := opened ⟨kind, true, true, .standby⟩ sample_rate_ frame_size preferred_data_interval_us
    let suspended := (Runs.run step opened es).outSetParameters params config answer
    Runs.Always step (fun out : StreamOut => out.port.state_ = .disabled) suspended es' ∧
      Runs.Along step (fun out e => out.Drops e ∧ (out.delivers e ≠ 0 → out.writer = suspended.writer)) suspended
        es' := by
  intro opened suspended
  have hport : (Runs.run step opened es).port.SetUpAs opened.port := by
    refine Runs.run_inv (J := fun out : StreamOut => out.port.SetUpAs opened.port) ?_ ⟨rfl, rfl⟩ es
    intro out e h
    exact (step_setUpAs out e).trans h
  have hsuspended : suspended.Suspended suspended.writer :=
    ⟨outSetParameters_suspends hport.1 hport.2 hp config answer, .inr (.inl rfl)⟩
  have hkeeps : Runs.Along step (fun _ => KeepsSuspended) suspended es' := Runs.along_forall_iff.2 hes
  constructor
  · apply Runs.always_of_along (J := Suspended suspended.writer) _ _ hsuspended hkeeps
    · exact fun out e h he => suspended_step h he
    · exact fun out h => h.1
  · apply Runs.along_of_along (J := Suspended suspended.writer) _ _ hsuspended hkeeps
    · exact fun out e h he => suspended_step h he
    · exact fun out e h => h.drops e

/-- The stream plays when it is suspended, and the session does not answer. -/
theorem suspension_holds_started :
    let suspended := (Runs.run step (opened ⟨.aidl, true, true, .standby⟩ 44100 4 20000)
      [.write 8 (.accepted [.controlResult .success]), .writeData 8, .written]).outSetParameters
      [("A2dpSuspended", "true")] none (.accepted [])
    Runs.Always step (fun out : StreamOut => out.port.state_ = .disabled) suspended
        [.signal (.controlResult .success), .resume .refused, .write 8 .refused] ∧
      Runs.Along step (fun out e => out.Drops e ∧ (out.delivers e ≠ 0 → out.writer = suspended.writer)) suspended
        [.signal (.controlResult .success), .resume .refused, .write 8 .refused] := by
  apply suspension_holds
  · decide
  · intro e he
    simp only [List.mem_cons, List.not_mem_nil, or_false] at he
    rcases he with rfl | rfl | rfl <;> exact trivial

end StreamOut

end PhhTreble.Hw

import PhhTreble.Hw.Stream
/-!
# Frame accounting

The frames a stream counts against the bytes that `WriteData` has accepted, over
runs that mix writes with the calls that reset a counter.
-/

namespace PhhTreble.Hw
open Audio

/-! ## Counters -/

namespace FrameCounter

/-- The bytes accepted cover the frames counted and `owed` more bytes. -/
def Backs (c : FrameCounter) (frame_size owed : Nat) : Prop := c.frames * frame_size + owed ≤ c.accepted

theorem backs_reset (c : FrameCounter) (frame_size : Nat) : c.reset.Backs frame_size 0 := by simp [Backs, reset]

theorem Backs.accept {c : FrameCounter} {frame_size owed bytes : Nat} (h : c.Backs frame_size 0) (hb : owed ≤ bytes) :
    (c.accept bytes).Backs frame_size owed := by
  unfold Backs at h ⊢
  change c.frames * frame_size + owed ≤ c.accepted + bytes
  omega

/-- Counting what is owed. A counter that wraps counts less. -/
theorem Backs.add {c : FrameCounter} {frame_size frames : Nat} (h : c.Backs frame_size (frames * frame_size)) :
    (c.add frames).Backs frame_size 0 := by
  have hmod : (c.frames + frames) % 2 ^ 64 * frame_size ≤ (c.frames + frames) * frame_size :=
    Nat.mul_le_mul_right _ (Nat.mod_le _ _)
  rw [Nat.add_mul] at hmod
  exact hmod.trans h

end FrameCounter

namespace StreamOut

/-- The bytes of the frames that the write in progress has yet to count. -/
def owed (out : StreamOut) : Nat :=
  match out.writer with
  | .written bytes totalWritten => if totalWritten ≠ 0 then bytes / out.frame_size * out.frame_size else 0
  | _ => 0

/-- `WriteData` has taken bytes that are not counted yet. -/
def Owes (out : StreamOut) : Prop :=
  match out.writer with
  | .written _ totalWritten => totalWritten ≠ 0
  | _ => False

theorem owed_eq_zero {out : StreamOut} (h : ¬ out.Owes) : out.owed = 0 := by
  unfold Owes at h
  unfold owed
  cases hw : out.writer with
  | idle => rfl
  | writing _ => rfl
  | written bytes totalWritten =>
    rw [hw] at h
    exact if_neg h

/-- No counter is ahead of the bytes accepted since its reset. -/
def Accounted (out : StreamOut) : Prop :=
  out.frames_rendered_.frames * out.frame_size ≤ out.frames_rendered_.accepted ∧
    out.frames_presented_.frames * out.frame_size ≤ out.frames_presented_.accepted

/-- The invariant: with the write in progress. -/
def Backed (out : StreamOut) : Prop :=
  out.frames_rendered_.Backs out.frame_size out.owed ∧ out.frames_presented_.Backs out.frame_size out.owed

theorem Backed.accounted {out : StreamOut} (h : out.Backed) : out.Accounted :=
  ⟨(Nat.le_add_right _ _).trans h.1, (Nat.le_add_right _ _).trans h.2⟩

/-! ## The condition -/

/-- The parameters reset no counter: they neither suspend A2DP, nor close a
stream that is enabled or that they enable. -/
def Keeps (out : StreamOut) (params : Params) : Prop :=
  ¬ (params.lookup "A2dpSuspended" = some "true" ∧ out.port.is_a2dp) ∧
    (params.lookup "closing" = some "true" ∨ params.lookup "exiting" = some "1" →
      out.port.state_ = .disabled ∧ ((params.lookup "A2dpSuspended").isSome → ¬ out.port.is_a2dp))

/-- `WriteData` takes the whole buffer or nothing, and no counter is reset
between its return and the end of the write. -/
def Settles (out : StreamOut) : Event → Prop
  | .writeData totalWritten =>
    match out.writer with
    | .writing bytes => totalWritten = 0 ∨ bytes ≤ totalWritten
    | _ => True
  | .standby _ | .pause _ => out.Owes → out.port.state_ ≠ .started
  | .setParameters params _ _ => out.Owes → out.Keeps params
  | _ => True

/-! ## The steps that count nothing -/

/-- The step leaves the write alone, and each counter as it was or reset. -/
structure Resets (out out' : StreamOut) : Prop where
  writer : out'.writer = out.writer
  frame_size : out'.frame_size = out.frame_size
  rendered : out'.frames_rendered_ = out.frames_rendered_ ∨ out'.frames_rendered_ = ⟨0, 0⟩
  presented : out'.frames_presented_ = out.frames_presented_ ∨ out'.frames_presented_ = ⟨0, 0⟩

theorem Resets.refl (out : StreamOut) : Resets out out := ⟨rfl, rfl, .inl rfl, .inl rfl⟩

theorem Resets.trans {out₁ out₂ out₃ : StreamOut} (h : Resets out₁ out₂) (h' : Resets out₂ out₃) : Resets out₁ out₃ where
  writer := h'.writer.trans h.writer
  frame_size := h'.frame_size.trans h.frame_size
  rendered := by
    rcases h'.rendered with hr | hr
    · rw [hr]
      exact h.rendered
    · exact .inr hr
  presented := by
    rcases h'.presented with hp | hp
    · rw [hp]
      exact h.presented
    · exact .inr hp

/-- Where nothing is owed a reset does no harm; elsewhere there is none. -/
theorem Resets.backed {out out' : StreamOut} (h : Resets out out') (hb : out.Backed)
    (hk : out.Owes → out'.frames_rendered_ = out.frames_rendered_ ∧ out'.frames_presented_ = out.frames_presented_) :
    out'.Backed := by
  have howed : out'.owed = out.owed := by rw [owed, owed, h.writer, h.frame_size]
  unfold Backed
  rw [howed, h.frame_size]
  by_cases ho : out.Owes
  · rw [(hk ho).1, (hk ho).2]
    exact hb
  · have hz := owed_eq_zero ho
    unfold Backed at hb
    rw [hz] at hb ⊢
    constructor
    · rcases h.rendered with hr | hr
      · rw [hr]
        exact hb.1
      · rw [hr]
        exact FrameCounter.backs_reset ⟨0, 0⟩ _
    · rcases h.presented with hp | hp
      · rw [hp]
        exact hb.2
      · rw [hp]
        exact FrameCounter.backs_reset ⟨0, 0⟩ _

theorem suspendOutput_resets (out : StreamOut) (answer : Answer) : Resets out (out.suspendOutput answer).2 := by
  rw [suspendOutput_eq]
  split
  · exact ⟨rfl, rfl, .inr rfl, .inl rfl⟩
  · exact .refl out

theorem suspendOutput_backed {out : StreamOut} {answer : Answer} (hb : out.Backed)
    (h : out.Owes → out.port.state_ ≠ .started) : (out.suspendOutput answer).2.Backed := by
  refine (suspendOutput_resets out answer).backed hb fun ho => ?_
  rw [suspendOutput_eq, if_neg (h ho)]
  exact ⟨rfl, rfl⟩

/-! ## Parameters -/

theorem configParam_resets (out : StreamOut) (params : Params) (config : Option Nat) :
    Resets out (out.configParam params config) := by
  unfold configParam
  split
  · cases config with
    | none => exact .refl out
    | some _ => exact ⟨rfl, rfl, .inl rfl, .inl rfl⟩
  · exact .refl out

theorem a2dpSuspendedParam_resets (out : StreamOut) (params : Params) (answer : Answer) :
    Resets out (out.a2dpSuspendedParam params answer) := by
  unfold a2dpSuspendedParam
  split
  · exact .refl out
  · split
    · split
      · dsimp only
        split
        · exact ⟨rfl, rfl, .inr rfl, .inl rfl⟩
        · split <;> exact ⟨rfl, rfl, .inr rfl, .inl rfl⟩
      · split <;> exact ⟨rfl, rfl, .inl rfl, .inl rfl⟩
    · exact .refl out

theorem stopParam_resets (out : StreamOut) (params : Params) (key value : String) :
    Resets out (out.stopParam params key value) := by
  unfold stopParam
  split
  · exact ⟨rfl, rfl, .inr rfl, .inr rfl⟩
  · exact .refl out

theorem outSetParameters_resets (out : StreamOut) (params : Params) (config : Option Nat) (answer : Answer) :
    Resets out (out.outSetParameters params config answer) :=
  (((configParam_resets out params config).trans (a2dpSuspendedParam_resets _ params answer)).trans
    (stopParam_resets _ params _ _)).trans (stopParam_resets _ params _ _)

/-- The parameters that keep the counters do so. -/
theorem outSetParameters_keeps {out : StreamOut} {params : Params} (h : out.Keeps params) (config : Option Nat)
    (answer : Answer) : (out.outSetParameters params config answer).frames_rendered_ = out.frames_rendered_ ∧
      (out.outSetParameters params config answer).frames_presented_ = out.frames_presented_ := by
  obtain ⟨hsuspend, hstop⟩ := h
  have hconfig : (out.configParam params config).port = out.port ∧
      (out.configParam params config).frames_rendered_ = out.frames_rendered_ ∧
      (out.configParam params config).frames_presented_ = out.frames_presented_ := by
    unfold configParam
    split
    · cases config <;> exact ⟨rfl, rfl, rfl⟩
    · exact ⟨rfl, rfl, rfl⟩
  rw [outSetParameters, ← hconfig.2.1, ← hconfig.2.2]
  rw [← hconfig.1] at hsuspend hstop
  generalize out.configParam params config = out at hsuspend hstop
  have ha2dp : (out.a2dpSuspendedParam params answer).frames_rendered_ = out.frames_rendered_ ∧
      (out.a2dpSuspendedParam params answer).frames_presented_ = out.frames_presented_ ∧
      (((params.lookup "A2dpSuspended").isSome → ¬ out.port.is_a2dp) →
        (out.a2dpSuspendedParam params answer).port = out.port) := by
    unfold a2dpSuspendedParam
    cases hv : params.lookup "A2dpSuspended" with
    | none => exact ⟨rfl, rfl, fun _ => rfl⟩
    | some value =>
      dsimp only
      by_cases hp : out.port.is_a2dp = true
      · rw [if_pos hp, if_neg (fun hval => hsuspend ⟨by rw [hv, hval], hp⟩)]
        refine ⟨?_, ?_, fun hn => absurd hp (hn rfl)⟩
        · split <;> rfl
        · split <;> rfl
      · rw [if_neg hp]
        exact ⟨rfl, rfl, fun _ => rfl⟩
  rw [← ha2dp.1, ← ha2dp.2.1]
  by_cases hs : params.lookup "closing" = some "true" ∨ params.lookup "exiting" = some "1"
  · obtain ⟨hdis, hoff⟩ := hstop hs
    have hport := ha2dp.2.2 hoff
    have hnot : ∀ key value, (out.a2dpSuspendedParam params answer).stopParam params key value =
        out.a2dpSuspendedParam params answer := by
      intro key value
      refine if_neg fun ⟨_, hne⟩ => hne ?_
      rw [hport, hdis]
    rw [hnot, hnot]
    exact ⟨rfl, rfl⟩
  · rw [not_or] at hs
    have hclosing : (out.a2dpSuspendedParam params answer).stopParam params "closing" "true" =
        out.a2dpSuspendedParam params answer := if_neg fun ⟨hc, _⟩ => hs.1 hc
    have hexiting : (out.a2dpSuspendedParam params answer).stopParam params "exiting" "1" =
        out.a2dpSuspendedParam params answer := if_neg fun ⟨hc, _⟩ => hs.2 hc
    rw [hclosing, hexiting]
    exact ⟨rfl, rfl⟩

/-! ## Writes -/

theorem outWrite_backed {out : StreamOut} (hb : out.Backed) (bytes : Nat) (answer : Answer) :
    (out.outWrite bytes answer).2.Backed := by
  rcases outWrite_cases out bytes answer with ⟨h, -⟩ | ⟨hw, h | h⟩
  · rwa [h]
  · rw [h]
    exact hb
  · rw [h]
    have hz : out.owed = 0 := by rw [owed, hw]
    unfold Backed at hb
    rw [hz] at hb
    exact hb

theorem writeData_backed {out : StreamOut} (hb : out.Backed) {totalWritten : Nat}
    (h : out.Settles (.writeData totalWritten)) : (out.writeData totalWritten).Backed := by
  unfold writeData
  cases hw : out.writer with
  | idle => exact hb
  | written _ _ => exact hb
  | writing bytes =>
    have hz : out.owed = 0 := by rw [owed, hw]
    have hle : (if totalWritten ≠ 0 then bytes / out.frame_size * out.frame_size else 0) ≤ totalWritten := by
      simp only [Settles, hw] at h
      have hmul : bytes / out.frame_size * out.frame_size ≤ bytes := Nat.div_mul_le_self _ _
      split <;> omega
    unfold Backed at hb
    rw [hz] at hb
    exact ⟨hb.1.accept hle, hb.2.accept hle⟩

theorem outWritten_backed {out : StreamOut} (hb : out.Backed) : out.outWritten.2.Backed := by
  unfold outWritten
  cases hw : out.writer with
  | idle => exact hb
  | writing _ => exact hb
  | written bytes totalWritten =>
    unfold Backed owed at hb
    rw [hw] at hb
    dsimp only at hb ⊢
    split
    · rename_i hn
      rw [if_pos hn] at hb
      exact ⟨hb.1.add, hb.2.add⟩
    · rename_i hn
      rw [if_neg hn] at hb
      exact hb

/-! ## Runs -/

theorem backed_step {out : StreamOut} (e : Event) (hb : out.Backed) (h : out.Settles e) : (out.step e).Backed := by
  cases e with
  | write bytes answer => exact outWrite_backed hb bytes answer
  | writeData totalWritten => exact writeData_backed hb h
  | written => exact outWritten_backed hb
  | standby answer => exact suspendOutput_backed hb h
  | pause answer => exact suspendOutput_backed hb h
  | resume answer =>
    change (out.outResume answer).2.Backed
    rw [outResume_eq]
    exact hb
  | setParameters params config answer =>
    exact (outSetParameters_resets out params config answer).backed hb fun ho =>
      outSetParameters_keeps (h ho) config answer
  | signal s => exact hb

/-- In every run whose writes are whole and undisturbed, no frame is counted
that was not accepted. -/
theorem accounting_run (port : Port) (sample_rate_ frame_size preferred_data_interval_us : Nat) (es : List Event)
    (h : Runs.Along step Settles (opened port sample_rate_ frame_size preferred_data_interval_us) es) :
    Runs.Always step Accounted (opened port sample_rate_ frame_size preferred_data_interval_us) es := by
  refine Runs.always_of_along (J := Backed) (fun _ e hb hs => backed_step e hb hs) (fun _ hb => hb.accounted) ?_ h
  exact ⟨FrameCounter.backs_reset ⟨0, 0⟩ _, FrameCounter.backs_reset ⟨0, 0⟩ _⟩

/-- Two frames are written and counted, then the stream pauses. -/
theorem accounting_run_whole :
    Runs.Always step Accounted (opened ⟨.aidl, true, true, .standby⟩ 44100 4 20000)
      [.write 8 (.accepted [.controlResult .success]), .writeData 8, .written,
        .pause (.accepted [.controlResult .success])] := by
  apply accounting_run
  refine ⟨trivial, ?_, trivial, ?_, trivial⟩
  · exact .inr (by decide)
  · intro h
    exact h.elim

/-- Of a buffer of two frames `WriteData` accepts one: both are counted. -/
theorem accounting_partial :
    ¬ Runs.Always step Accounted (opened ⟨.aidl, true, true, .standby⟩ 44100 4 20000)
      [.write 8 (.accepted [.controlResult .success]), .writeData 4, .written] := by
  intro h
  have hlast := h.2.2.2
  exact absurd hlast.2 (by decide)

end StreamOut

end PhhTreble.Hw

import Mathlib.Data.BitVec
import PhhTreble.Audio.Pcm
import PhhTreble.Hw.Port
import PhhTreble.Lib.Runs
/-!
# Stereo to mono

`WriteData` of the two output ports, and a caller who hands in again what a
call has not taken.
-/

namespace PhhTreble.Hw
open Audio

abbrev Byte := BitVec 8

variable (mix : BitVec 16 → BitVec 16 → BitVec 16)

/-- `downmix_to_mono_i16_from_stereo_i16`, with `mix` of the two samples of a
frame. The samples are little-endian. -/
def downmix : List Byte → List Byte
  | l₀ :: l₁ :: r₀ :: r₁ :: src =>
    let mono := mix (l₁ ++ l₀) (r₁ ++ r₀)
    mono.extractLsb' 0 8 :: mono.extractLsb' 8 8 :: downmix src
  | _ => []

/-- A buffer as the memory from its first byte on. -/
def memory (bs : List Byte) : Nat → Byte := fun i => bs.getD i 0

/-- The bytes reported as taken, and those put into the queue. -/
structure Written where
  retval : Nat
  put : List Byte
deriving DecidableEq, Repr

/-- `WriteData`. -/
def Port.writeData (p : Port) (is_stereo_to_mono_ : Bool) (buffer : List Byte) (schedule : Nat → Poll Nat) :
    Option Written :=
  if !p.in_use then some ⟨0, []⟩
  else if !is_stereo_to_mono_ then
    (outWritePcmData (some (memory buffer)) buffer.length schedule).map fun (_, t) => ⟨t.total, t.moved.flatten⟩
  else
    let write_frames := buffer.length >>> 2
    if write_frames = 0 then some ⟨0, []⟩
    else
      let dst := downmix mix buffer
      (outWritePcmData (some (memory dst)) (write_frames * 2) schedule).map fun (_, t) => ⟨t.total * 2, t.moved.flatten⟩

/-! ## The downmix of a part -/

/-- What does not start with a frame is shorter than one. -/
theorem length_lt_frame {src : List Byte} (h : ∀ l₀ l₁ r₀ r₁ rest, src = l₀ :: l₁ :: r₀ :: r₁ :: rest → False) :
    src.length < 4 := by
  rcases src with _ | ⟨l₀, _ | ⟨l₁, _ | ⟨r₀, _ | ⟨r₁, rest⟩⟩⟩⟩
  · exact Nat.succ_pos 3
  · exact Nat.lt_of_sub_pos (Nat.succ_pos 2)
  · exact Nat.lt_of_sub_pos (Nat.succ_pos 1)
  · exact Nat.lt_of_sub_pos (Nat.succ_pos 0)
  · exact (h l₀ l₁ r₀ r₁ rest rfl).elim

theorem downmix_length (src : List Byte) : (downmix mix src).length = src.length / 4 * 2 := by
  fun_induction downmix mix src with
  | case1 l₀ l₁ r₀ r₁ src mono ih =>
    simp only [List.length_cons, ih]
    omega
  | case2 src h =>
    have hlt := length_lt_frame h
    simp only [List.length_nil]
    omega

/-- Whole frames are mixed by themselves. -/
theorem downmix_append {frames : List Byte} (h : 4 ∣ frames.length) (src : List Byte) :
    downmix mix (frames ++ src) = downmix mix frames ++ downmix mix src := by
  fun_induction downmix mix frames with
  | case1 l₀ l₁ r₀ r₁ rest mono ih =>
    simp only [List.length_cons] at h
    simp only [List.cons_append, downmix]
    rw [ih (by omega)]
  | case2 frames hshort =>
    have hlt := length_lt_frame hshort
    obtain rfl : frames = [] := List.eq_nil_of_length_eq_zero (by omega)
    rfl

theorem downmix_split {n : Nat} {src : List Byte} (h : 4 ∣ n) (hn : n ≤ src.length) :
    (downmix mix src).take (n / 2) = downmix mix (src.take n) ∧
      (downmix mix src).drop (n / 2) = downmix mix (src.drop n) := by
  have hlen : (src.take n).length = n := List.length_take_of_le hn
  have hmixed : (downmix mix (src.take n)).length = n / 2 := by
    rw [downmix_length, hlen]
    omega
  have hsplit := downmix_append mix (hlen.symm ▸ h) (src.drop n)
  rw [List.take_append_drop] at hsplit
  rw [hsplit, ← hmixed]
  exact ⟨List.take_left, List.drop_left⟩

/-! ## A call -/

theorem slice_memory {bs : List Byte} {n : Nat} (h : n ≤ bs.length) : slice (memory bs) 0 n = bs.take n := by
  apply List.ext_getElem
  · simp [slice, h]
  · intro i hi hi'
    simp only [List.length_take] at hi'
    simp [slice, memory, show i < bs.length by omega]

/-- The bytes of the downmix that the session takes of a call. -/
def sessionTakes (buffer : List Byte) (schedule : Nat → Poll Nat) : Nat :=
  ((outWritePcmData (some (memory (downmix mix buffer))) (buffer.length / 4 * 2) schedule).map (·.2.total)).getD 0

theorem sessionTakes_spec (buffer : List Byte) (schedule : Nat → Poll Nat) :
    sessionTakes mix buffer schedule ≤ buffer.length / 4 * 2 ∧
      (outWritePcmData (some (memory (downmix mix buffer))) (buffer.length / 4 * 2) schedule).map
          (fun x => (⟨x.2.total * 2, x.2.moved.flatten⟩ : Written)) =
        some ⟨sessionTakes mix buffer schedule * 2, (downmix mix buffer).take (sessionTakes mix buffer schedule)⟩ := by
  obtain ⟨rounds, t, h, hle, hflat, -⟩ :=
    outWritePcmData_spec (some (memory (downmix mix buffer))) (buffer.length / 4 * 2) schedule
  have htakes : sessionTakes mix buffer schedule = t.total := by
    rw [sessionTakes, h]
    rfl
  rw [htakes]
  refine ⟨hle, ?_⟩
  rw [h, Option.map_some, hflat, firstBytes, slice_memory]
  rw [downmix_length]
  exact hle

/-- In mono mode a call reports twice as many bytes as the session takes, which
is asked only of a port in use. -/
theorem writeData_mono (p : Port) (buffer : List Byte) (schedule : Nat → Poll Nat) :
    ∃ n ≤ buffer.length / 4 * 2, n = (if p.in_use then sessionTakes mix buffer schedule else 0) ∧
      p.writeData mix true buffer schedule = some ⟨n * 2, (downmix mix buffer).take n⟩ := by
  obtain ⟨hle, hwrite⟩ := sessionTakes_spec mix buffer schedule
  unfold Port.writeData
  cases p.in_use with
  | false => exact ⟨0, Nat.zero_le _, rfl, rfl⟩
  | true =>
    refine ⟨_, hle, rfl, ?_⟩
    simp only [Bool.not_true, Bool.false_eq_true, if_false, Nat.shiftRight_eq_div_pow]
    split
    · rename_i hframes
      have hnone : sessionTakes mix buffer schedule = 0 := by
        have hquarter : buffer.length / 4 = 0 := hframes
        omega
      rw [hnone]
      rfl
    · exact hwrite

/-! ## A caller who resubmits -/

/-- What a caller has yet to write, and the mono bytes that the session has accepted. -/
structure Sending where
  rest : List Byte
  accepted : List Byte
deriving DecidableEq, Repr

namespace Sending

variable (p : Port)

/-- A call with the rest of the buffer, while the session goes through `schedule`. -/
def write (s : Sending) (schedule : Nat → Poll Nat) : Option Written := p.writeData mix true s.rest schedule

def step (s : Sending) (schedule : Nat → Poll Nat) : Sending :=
  match s.write mix p schedule with
  | some w => ⟨s.rest.drop w.retval, s.accepted ++ w.put⟩
  | none => s

/-- The call returns a whole number of frames, and their downmix is what the session accepted. -/
def Whole (s : Sending) (schedule : Nat → Poll Nat) : Prop :=
  ∃ w, s.write mix p schedule = some w ∧ 4 ∣ w.retval ∧ w.put = downmix mix (s.rest.take w.retval)

/-- What was accepted and what is yet to be mixed are the downmix of `buffer`. -/
def Complete (buffer : List Byte) (s : Sending) : Prop := s.accepted ++ downmix mix s.rest = downmix mix buffer

/-- The session, if it is asked, takes an even number of mono bytes. -/
def EvenAccepted (s : Sending) (schedule : Nat → Poll Nat) : Prop :=
  p.in_use = true → 2 ∣ sessionTakes mix s.rest schedule

theorem whole_iff {buffer : List Byte} {s : Sending} (hs : s.Complete mix buffer) (schedule : Nat → Poll Nat) :
    (s.step mix p schedule).Complete mix buffer ∧ s.Whole mix p schedule ↔ s.EvenAccepted mix p schedule := by
  obtain ⟨n, hn, htaken, hw⟩ := writeData_mono mix p s.rest schedule
  have heven : s.EvenAccepted mix p schedule ↔ 2 ∣ n := by
    rw [EvenAccepted, htaken]
    cases p.in_use with
    | false => simp
    | true => simp
  rw [heven]
  constructor
  · rintro ⟨-, w, hwrite, hdvd, -⟩
    obtain rfl := Option.some.inj (hw.symm.trans hwrite)
    dsimp only at hdvd
    omega
  · intro h2
    obtain ⟨htake, hdrop⟩ := downmix_split mix (by omega : 4 ∣ n * 2) (by omega : n * 2 ≤ s.rest.length)
    rw [Nat.mul_div_cancel n Nat.two_pos] at htake hdrop
    refine ⟨?_, _, hw, Nat.mul_dvd_mul_right h2 2, htake⟩
    have hstep : s.step mix p schedule = ⟨s.rest.drop (n * 2), s.accepted ++ (downmix mix s.rest).take n⟩ := by
      rw [step, write, hw]
    rw [hstep, Complete, ← hdrop, List.append_assoc, List.take_append_drop]
    exact hs

/-- In a run of calls every one returns whole frames and nothing is lost exactly
when the session accepts an even number of bytes each time. -/
theorem resubmitting_iff (buffer : List Byte) (schedules : List (Nat → Poll Nat)) :
    Runs.Always (step mix p) (Complete mix buffer) ⟨buffer, []⟩ schedules ∧
        Runs.Along (step mix p) (Whole mix p) ⟨buffer, []⟩ schedules ↔
      Runs.Along (step mix p) (EvenAccepted mix p) ⟨buffer, []⟩ schedules := by
  have hstart : Complete mix buffer ⟨buffer, []⟩ := rfl
  apply Runs.always_iff_along (J := fun _ => True) (fun _ _ _ => trivial) _ trivial hstart
  exact fun s schedule _ hs => whole_iff mix p hs schedule

/-- The queue has room for one byte when the session ends: half a sample of the
first of two frames is accepted, and the caller goes on inside that frame. -/
theorem resubmitting_half :
    let average := fun l r : BitVec 16 => ((l.signExtend 17 + r.signExtend 17).sshiftRight 1).setWidth 16
    let port : Port := ⟨.aidl, true, true, .started⟩
    let buffer : List Byte := [2, 0, 4, 0, 6, 0, 8, 0]
    let schedules : List (Nat → Poll Nat) := [fun i => ⟨i == 0, 1, true⟩, fun _ => ⟨true, 4, true⟩]
    port.writeData average true buffer (fun i => ⟨i == 0, 1, true⟩) = some ⟨2, [3]⟩ ∧
      (Runs.run (step average port) ⟨buffer, []⟩ schedules).accepted = [3, 5, 0] ∧
      downmix average buffer = [3, 0, 7, 0] ∧
      ¬ (Runs.Always (step average port) (Complete average buffer) ⟨buffer, []⟩ schedules ∧
        Runs.Along (step average port) (Whole average port) ⟨buffer, []⟩ schedules) := by
  intro average port buffer schedules
  refine ⟨by decide, by decide, by decide, ?_⟩
  rintro ⟨-, ⟨w, hw, hdvd, -⟩, -⟩
  have hretval : w.retval = 2 := by
    have hsome : some w = some ⟨2, [3]⟩ := hw.symm.trans (by decide)
    rw [Option.some.inj hsome]
  rw [hretval] at hdvd
  exact absurd hdvd (by decide)

end Sending

end PhhTreble.Hw

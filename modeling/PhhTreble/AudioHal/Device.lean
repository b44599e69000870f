import Mathlib.Data.List.Basic
import Mathlib.Data.List.Count
import PhhTreble.Lib.Runs
/-!
# The life cycle of an audio HAL device

`Device` with its `StreamOut` and `StreamIn` wrappers, for interface version 6
and later: who closes what, from calls of the client and from destructors. What
the HAL is told is kept as the list of its calls. `PrimaryDevice` passes its
calls on to a `Device`.
-/

namespace PhhTreble.AudioHal

/-! ## The data model -/

inductive Result where
  | ok | notInitialized | invalidArguments | invalidState | notSupported
deriving DecidableEq, Repr

inductive Direction where
  | output | input
deriving DecidableEq, Repr

/-- A `StreamOut` or `StreamIn`. -/
structure Stream where
  direction : Direction
  /-- `mStopWriteThread` or `mStopReadThread`. -/
  mStopThread : Bool
  destroyed : Bool
deriving DecidableEq, Repr

/-- A call into the HAL. Its streams are numbered in the order of their opening. -/
inductive HalCall where
  | openStream (direction : Direction) (status : Int)
  | closeStream (direction : Direction) (stream : Nat)
  | closeDevice
deriving DecidableEq, Repr

/-- The device, the wrappers of its streams in the order of their opening, and
the calls it has made. -/
structure Device where
  mIsClosed : Bool
  mOpenedStreamsCount : Int
  streams : List Stream
  destroyed : Bool
  /-- `LOG_ALWAYS_FATAL_IF` has ended the process. -/
  aborted : Bool
  halCalls : List HalCall
deriving DecidableEq, Repr

/-- `util::analyzeStatus`. -/
def analyzeStatus (status : Int) : Result :=
  if status = 0 then .ok
  else if status = -22 then .invalidArguments -- EINVAL
  else if status = -61 then .invalidState -- ENODATA
  else if status = -19 then .notInitialized -- ENODEV
  else if status = -38 then .notSupported -- ENOSYS
  else .invalidState

/-! ## The operations -/

namespace Device

def init : Device := ⟨false, 0, [], false, false, []⟩

/-- `openOutputStreamImpl` and `openInputStreamImpl`: `conversion` is what the
conversion of the arguments returns. -/
def openStream (w : Device) (direction : Direction) (conversion : Result) (status : Int) : Result × Device :=
  if conversion ≠ .ok then (conversion, w) else
  let w := { w with halCalls := w.halCalls ++ [HalCall.openStream direction status] }
  let w :=
    if status = 0 then
      { w with streams := w.streams ++ [⟨direction, false, false⟩], mOpenedStreamsCount := w.mOpenedStreamsCount + 1 }
    else w
  (analyzeStatus status, w)

/-- `closeOutputStream` and `closeInputStream` of the device. -/
def closeHalStream (w : Device) (direction : Direction) (stream : Nat) : Device :=
  let w := { w with halCalls := w.halCalls ++ [HalCall.closeStream direction stream] }
  if w.mOpenedStreamsCount = 0 then { w with aborted := true }
  else { w with mOpenedStreamsCount := w.mOpenedStreamsCount - 1 }

/-- `StreamOut::close` and `StreamIn::close`. -/
def closeStream (w : Device) (i : Nat) : Result × Device :=
  match w.streams[i]? with
  | none => (.invalidState, w)
  | some s =>
    if s.mStopThread then (.invalidState, w)
    else (.ok, { w with streams := w.streams.set i { s with mStopThread := true } }.closeHalStream s.direction i)

/-- `~StreamOut` and `~StreamIn`. -/
def destroyStream (w : Device) (i : Nat) : Device :=
  let w := (w.closeStream i).2
  { w with streams := w.streams.modify i fun s => { s with destroyed := true } }

def doClose (w : Device) (status : Int) : Result × Device :=
  if w.mIsClosed ∨ w.mOpenedStreamsCount ≠ 0 then (.invalidState, w)
  else (analyzeStatus status, { w with mIsClosed := true, halCalls := w.halCalls ++ [HalCall.closeDevice] })

end Device

/-- What happens to the device and its wrappers; `status` is the HAL's answer. -/
inductive Event where
  | openStream (direction : Direction) (conversion : Result) (status : Int)
  | closeStream (i : Nat)
  | destroyStream (i : Nat)
  | close (status : Int)
  /-- The last reference to the device goes. -/
  | destroy (status : Int)
deriving DecidableEq, Repr

namespace Device

/-- The event is about objects that exist: a device outlives its streams. -/
def Exists (w : Device) : Event → Prop
  | .openStream _ _ _ | .close _ => w.destroyed = false
  | .closeStream i | .destroyStream i => ∃ s ∈ w.streams[i]?, s.destroyed = false
  | .destroy _ => w.destroyed = false ∧ ∀ s ∈ w.streams, s.destroyed = true

instance (w : Device) : (e : Event) → Decidable (w.Exists e)
  | .openStream _ _ _ | .close _ => inferInstanceAs (Decidable (w.destroyed = false))
  | .closeStream i | .destroyStream i => inferInstanceAs (Decidable (∃ s ∈ w.streams[i]?, s.destroyed = false))
  | .destroy _ => inferInstanceAs (Decidable (w.destroyed = false ∧ ∀ s ∈ w.streams, s.destroyed = true))

def step (w : Device) (e : Event) : Device :=
  if w.aborted = true ∨ ¬ w.Exists e then w else
  match e with
  | .openStream direction conversion status => (w.openStream direction conversion status).2
  | .closeStream i => (w.closeStream i).2
  | .destroyStream i => w.destroyStream i
  | .close status => (w.doClose status).2
  | .destroy status => { (w.doClose status).2 with destroyed := true }

end Device

/-! ## What the HAL sees -/

/-- The directions of the streams it opened. -/
def openedStreams (calls : List HalCall) : List Direction :=
  calls.filterMap fun
    | .openStream direction status => if status = 0 then some direction else none
    | _ => none

def closedStreams (calls : List HalCall) : List Nat :=
  calls.filterMap fun
    | .closeStream _ stream => some stream
    | _ => none

/-- The streams opened and not yet closed. -/
def live (calls : List HalCall) : List Nat :=
  (List.range (openedStreams calls).length).filter (· ∉ closedStreams calls)

/-- After every close of the device `Q` holds of the calls before it and of those
after it. -/
def AtClose (Q : List HalCall → List HalCall → Prop) (calls : List HalCall) : Prop :=
  ∀ before after, calls = before ++ .closeDevice :: after → Q before after

theorem openedStreams_append (calls calls' : List HalCall) :
    openedStreams (calls ++ calls') = openedStreams calls ++ openedStreams calls' := List.filterMap_append

theorem closedStreams_append (calls calls' : List HalCall) :
    closedStreams (calls ++ calls') = closedStreams calls ++ closedStreams calls' := List.filterMap_append

theorem mem_closedStreams {calls : List HalCall} {i : Nat} :
    i ∈ closedStreams calls ↔ ∃ direction, .closeStream direction i ∈ calls := by
  simp only [closedStreams, List.mem_filterMap]
  constructor
  · rintro ⟨c, hc, hi⟩
    cases c with
    | openStream direction status => cases hi
    | closeStream direction stream =>
      cases hi
      exact ⟨direction, hc⟩
    | closeDevice => cases hi
  · rintro ⟨direction, hc⟩
    exact ⟨_, hc, rfl⟩

theorem live_congr {calls calls' : List HalCall} (ho : openedStreams calls' = openedStreams calls)
    (hc : closedStreams calls' = closedStreams calls) : live calls' = live calls := by
  rw [live, live, ho, hc]

/-- A stream that opens is live. -/
theorem live_open {calls : List HalCall} (h : ∀ i ∈ closedStreams calls, i < (openedStreams calls).length)
    (direction : Direction) : live (calls ++ [.openStream direction 0]) = live calls ++ [(openedStreams calls).length] := by
  have hc : closedStreams (calls ++ [.openStream direction 0]) = closedStreams calls := by
    rw [closedStreams_append]
    exact List.append_nil _
  have ho : (openedStreams (calls ++ [.openStream direction 0])).length = (openedStreams calls).length + 1 := by
    rw [openedStreams_append, List.length_append]
    rfl
  have hnew : (openedStreams calls).length ∉ closedStreams calls := fun hm => Nat.lt_irrefl _ (h _ hm)
  rw [live, ho, hc, List.range_succ, List.filter_append]
  simp [live, hnew]

theorem nodup_live (calls : List HalCall) : (live calls).Nodup := List.nodup_range.filter _

/-- A stream that closes is not live any more, and no other changes. -/
theorem live_close (calls : List HalCall) (direction : Direction) (i : Nat) :
    live (calls ++ [.closeStream direction i]) = (live calls).erase i := by
  have ho : openedStreams (calls ++ [.closeStream direction i]) = openedStreams calls := by
    rw [openedStreams_append]
    exact List.append_nil _
  have hc : closedStreams (calls ++ [.closeStream direction i]) = closedStreams calls ++ [i] := closedStreams_append _ _
  rw [(nodup_live calls).erase_eq_filter, live, ho, hc, live, List.filter_filter]
  apply List.filter_congr
  intro j _
  by_cases h : j = i <;> simp [h]

theorem length_live_close {calls : List HalCall} {i : Nat} (h : i ∈ live calls) (direction : Direction) :
    (live (calls ++ [.closeStream direction i])).length + 1 = (live calls).length := by
  rw [live_close, List.length_erase_of_mem h]
  exact Nat.sub_add_cancel (List.length_pos_of_mem h)

theorem mem_live {calls : List HalCall} {i : Nat} :
    i ∈ live calls ↔ i < (openedStreams calls).length ∧ i ∉ closedStreams calls := by
  simp [live]

/-- One more call adds no close of the device, or is one. -/
theorem atClose_concat {calls : List HalCall} {c : HalCall} {Q : List HalCall → List HalCall → Prop} :
    AtClose Q (calls ++ [c]) ↔
      (∀ before after, calls = before ++ .closeDevice :: after → Q before (after ++ [c])) ∧ (c = .closeDevice → Q calls []) := by
  constructor
  · intro h
    refine ⟨fun before after he => h before _ (by rw [he, List.append_assoc, List.cons_append]), ?_⟩
    rintro rfl
    exact h calls [] rfl
  · rintro ⟨hold, hnew⟩ before after he
    rcases List.eq_nil_or_concat after with rfl | ⟨after, c', rfl⟩
    · obtain ⟨rfl, hc⟩ := List.append_inj' he rfl
      exact hnew (List.cons.inj hc).1
    · rw [List.concat_eq_append, ← List.cons_append, ← List.append_assoc] at he
      obtain ⟨hb, hc⟩ := List.append_inj' he rfl
      obtain rfl := (List.cons.inj hc).1
      rw [List.concat_eq_append]
      exact hold before after hb

/-! ## The invariant -/

/-- What holds of a device in every run. -/
structure Inv (w : Device) : Prop where
  running : w.aborted = false
  known : openedStreams w.halCalls = w.streams.map (·.direction)
  within : ∀ i ∈ closedStreams w.halCalls, i < w.streams.length
  closes : ∀ i s, w.streams[i]? = some s → (closedStreams w.halCalls).count i = if s.mStopThread then 1 else 0
  matched : ∀ direction i, HalCall.closeStream direction i ∈ w.halCalls → w.streams[i]?.map (·.direction) = some direction
  joined : ∀ s ∈ w.streams, s.destroyed = true → s.mStopThread = true
  counted : w.mOpenedStreamsCount = (live w.halCalls).length
  device : w.halCalls.count .closeDevice = if w.mIsClosed then 1 else 0
  idle : AtClose (fun before _ => live before = []) w.halCalls

namespace Inv
variable {w : Device}

theorem init : Inv .init where
  running := rfl
  known := rfl
  within := by simp [Device.init, closedStreams]
  closes := by simp [Device.init]
  matched := by simp [Device.init]
  joined := by simp [Device.init]
  counted := rfl
  device := rfl
  idle := by
    intro before after h
    simp [Device.init] at h

theorem length_opened (h : Inv w) : (openedStreams w.halCalls).length = w.streams.length := by
  rw [h.known, List.length_map]

/-- A call that opens and closes no stream. A close of the device needs that none is live. -/
theorem streamless (h : Inv w) {c : HalCall} {closed : Bool} (hopens : openedStreams [c] = [])
    (hcloses : closedStreams [c] = [])
    (hcount : (w.halCalls ++ [c]).count .closeDevice = if closed then 1 else 0)
    (hlive : c = .closeDevice → live w.halCalls = []) :
    Inv { w with mIsClosed := closed, halCalls := w.halCalls ++ [c] } := by
  have ho : openedStreams (w.halCalls ++ [c]) = openedStreams w.halCalls := by
    rw [openedStreams_append, hopens, List.append_nil]
  have hc : closedStreams (w.halCalls ++ [c]) = closedStreams w.halCalls := by
    rw [closedStreams_append, hcloses, List.append_nil]
  refine ⟨h.running, ho.trans h.known, by rw [hc]; exact h.within, by rw [hc]; exact h.closes, ?_, h.joined, ?_, hcount, ?_⟩
  · intro d i hm
    rcases List.mem_append.1 hm with hm | hm
    · exact h.matched d i hm
    · obtain rfl := List.mem_singleton.1 hm
      simp [closedStreams] at hcloses
  · rw [live_congr ho hc]
    exact h.counted
  · rw [atClose_concat]
    exact ⟨h.idle, hlive⟩

theorem failedOpen (h : Inv w) (direction : Direction) {status : Int} (hs : status ≠ 0) :
    Inv { w with halCalls := w.halCalls ++ [.openStream direction status] } := by
  apply h.streamless
  · simp [openedStreams, hs]
  · rfl
  · rw [List.count_append]
    exact h.device
  · nofun

theorem openStream (h : Inv w) (direction : Direction) (conversion : Result) (status : Int) :
    Inv (w.openStream direction conversion status).2 := by
  unfold Device.openStream
  split
  · exact h
  · dsimp only
    split
    case isFalse hs => exact h.failedOpen direction hs
    case isTrue hs =>
      subst hs
      have hc : closedStreams (w.halCalls ++ [.openStream direction 0]) = closedStreams w.halCalls := by
        rw [closedStreams_append]
        exact List.append_nil _
      have hnew : w.streams.length ∉ closedStreams w.halCalls := fun hm => Nat.lt_irrefl _ (h.within _ hm)
      refine ⟨h.running, ?_, ?_, ?_, ?_, ?_, ?_, ?_, ?_⟩
      · rw [openedStreams_append, h.known, List.map_append]
        rfl
      · intro i hi
        rw [hc] at hi
        rw [List.length_append]
        exact Nat.lt_add_right 1 (h.within i hi)
      · intro i s hi
        rw [hc]
        rcases Nat.lt_trichotomy i w.streams.length with hlt | rfl | hgt
        · rw [List.getElem?_append_left hlt] at hi
          exact h.closes i s hi
        · rw [List.getElem?_concat_length] at hi
          cases hi
          simpa using List.count_eq_zero.2 hnew
        · rw [List.getElem?_eq_none (by rw [List.length_append]; exact hgt)] at hi
          cases hi
      · intro d i hm
        have hm : HalCall.closeStream d i ∈ w.halCalls := by simpa using hm
        have hlt := h.within i (mem_closedStreams.2 ⟨d, hm⟩)
        rw [List.getElem?_append_left hlt]
        exact h.matched d i hm
      · intro s hs hd
        rcases List.mem_append.1 hs with hs | hs
        · exact h.joined s hs hd
        · obtain rfl := List.mem_singleton.1 hs
          cases hd
      · rw [live_open (by rw [h.length_opened]; exact h.within), List.length_append, h.counted]
        rfl
      · rw [List.count_append]
        exact h.device
      · rw [atClose_concat]
        exact ⟨h.idle, by simp⟩

/-- A wrapper that is not stopped has a live HAL stream, so the count is not 0. -/
theorem mem_live (h : Inv w) {i : Nat} {s : Stream} (hi : w.streams[i]? = some s) (hs : s.mStopThread = false) :
    i ∈ live w.halCalls := by
  have hlt : i < w.streams.length := (List.getElem?_eq_some_iff.1 hi).1
  have hc := h.closes i s hi
  rw [hs] at hc
  rw [AudioHal.mem_live, h.length_opened]
  exact ⟨hlt, List.count_eq_zero.1 hc⟩

theorem closeStream (h : Inv w) (i : Nat) : Inv (w.closeStream i).2 := by
  unfold Device.closeStream
  split
  · exact h
  case h_2 s hi =>
    split
    · exact h
    case isFalse hs =>
      have hs : s.mStopThread = false := Bool.eq_false_iff.2 hs
      have hlt : i < w.streams.length := (List.getElem?_eq_some_iff.1 hi).1
      have hlive := h.mem_live hi hs
      have hc : closedStreams (w.halCalls ++ [.closeStream s.direction i]) = closedStreams w.halCalls ++ [i] :=
        closedStreams_append _ _
      -- The fatal check looks at a count of at least this stream.
      have hpos : w.mOpenedStreamsCount ≠ 0 := by
        have := List.length_pos_of_mem hlive
        rw [h.counted]
        omega
      have hdir : (w.streams.set i { s with mStopThread := true }).map (·.direction) = w.streams.map (·.direction) := by
        apply List.ext_getElem?
        intro j
        rw [List.getElem?_map, List.getElem?_map]
        by_cases hji : j = i
        · subst hji
          rw [List.getElem?_set_self hlt, hi]
          rfl
        · rw [List.getElem?_set_ne (Ne.symm hji)]
      dsimp only [Device.closeHalStream]
      rw [if_neg hpos]
      refine ⟨h.running, ?_, ?_, ?_, ?_, ?_, ?_, ?_, ?_⟩
      · rw [hdir, openedStreams_append]
        exact (List.append_nil _).trans h.known
      · intro j hj
        rw [hc] at hj
        rw [List.length_set]
        rcases List.mem_append.1 hj with hj | hj
        · exact h.within j hj
        · rwa [List.mem_singleton.1 hj]
      · intro j s' hj
        rw [hc, List.count_append]
        by_cases hji : j = i
        · subst hji
          rw [List.getElem?_set_self hlt] at hj
          cases hj
          rw [List.count_eq_zero.2 (AudioHal.mem_live.1 hlive).2]
          simp
        · rw [List.getElem?_set_ne (Ne.symm hji)] at hj
          rw [h.closes j s' hj, List.count_singleton]
          simp [Ne.symm hji]
      · intro d j hm
        rw [← List.getElem?_map, hdir, List.getElem?_map]
        rcases List.mem_append.1 hm with hm | hm
        · exact h.matched d j hm
        · cases List.mem_singleton.1 hm
          rw [hi]
          rfl
      · intro s' hs' hd
        rcases List.mem_or_eq_of_mem_set hs' with hs' | rfl
        · exact h.joined s' hs' hd
        · rfl
      · have := length_live_close hlive s.direction
        have := h.counted
        dsimp only
        omega
      · rw [List.count_append]
        exact h.device
      · rw [atClose_concat]
        exact ⟨h.idle, by simp⟩

/-- A close leaves a stopped wrapper. -/
theorem stopped_closeStream (w : Device) (i : Nat) {s : Stream} (hi : (w.closeStream i).2.streams[i]? = some s) :
    s.mStopThread = true := by
  unfold Device.closeStream at hi
  split at hi
  case h_1 hn =>
    rw [hn] at hi
    cases hi
  case h_2 s' hs' =>
    split at hi
    case isTrue hstop =>
      rw [hs'] at hi
      cases hi
      exact hstop
    case isFalse =>
      have hlt : i < w.streams.length := (List.getElem?_eq_some_iff.1 hs').1
      have he : (w.streams.set i { s' with mStopThread := true })[i]? = some s := by
        rw [← hi]
        dsimp only [Device.closeHalStream]
        split <;> rfl
      rw [List.getElem?_set_self hlt] at he
      cases he
      rfl

theorem destroyStream (h : Inv w) (i : Nat) : Inv (w.destroyStream i) := by
  have hc := h.closeStream i
  have hstop : ∀ s, (w.closeStream i).2.streams[i]? = some s → s.mStopThread = true := fun s => stopped_closeStream w i
  unfold Device.destroyStream
  generalize (w.closeStream i).2 = w' at *
  have hget : ∀ j : Nat, (w'.streams.modify i fun s => { s with destroyed := true })[j]? =
      (w'.streams[j]?).map fun s => if i = j then { s with destroyed := true } else s := by
    intro j
    rw [List.getElem?_modify]
    split <;> simp
  have hdir : (w'.streams.modify i fun s => { s with destroyed := true }).map (·.direction) =
      w'.streams.map (·.direction) := by
    apply List.ext_getElem?
    intro j
    rw [List.getElem?_map, List.getElem?_map, hget, Option.map_map]
    congr 1
    funext s
    by_cases hij : i = j <;> simp [hij]
  refine ⟨hc.running, ?_, ?_, ?_, ?_, ?_, hc.counted, hc.device, hc.idle⟩
  · rw [hdir]
    exact hc.known
  · intro j hj
    rw [List.length_modify]
    exact hc.within j hj
  · intro j s hj
    rw [hget] at hj
    obtain ⟨s', hs', rfl⟩ := Option.map_eq_some_iff.1 hj
    rw [hc.closes j s' hs']
    by_cases hij : i = j <;> simp [hij]
  · intro d j hm
    rw [← List.getElem?_map, hdir, List.getElem?_map]
    exact hc.matched d j hm
  · intro s hs hd
    obtain ⟨j, hj⟩ := List.mem_iff_getElem?.1 hs
    rw [hget] at hj
    obtain ⟨s', hs', rfl⟩ := Option.map_eq_some_iff.1 hj
    by_cases hij : i = j
    · subst hij
      rw [if_pos rfl]
      exact hstop s' hs'
    · rw [if_neg hij] at hd ⊢
      exact hc.joined s' (List.mem_of_getElem? hs') hd

theorem doClose (h : Inv w) (status : Int) : Inv (w.doClose status).2 := by
  unfold Device.doClose
  split
  · exact h
  case isFalse hn =>
    rw [not_or, Decidable.not_not, Bool.not_eq_true] at hn
    have hlive : live w.halCalls = [] := by
      have := h.counted
      rw [hn.2] at this
      exact List.length_eq_zero_iff.1 (by omega)
    apply h.streamless
    · rfl
    · rfl
    · rw [List.count_append, h.device, hn.1]
      rfl
    · exact fun _ => hlive

theorem step (h : Inv w) (e : Event) : Inv (w.step e) := by
  unfold Device.step
  split
  · exact h
  · cases e with
    | openStream direction conversion status => exact h.openStream direction conversion status
    | closeStream i => exact h.closeStream i
    | destroyStream i => exact h.destroyStream i
    | close status => exact h.doClose status
    | destroy status =>
      have hc := h.doClose status
      exact ⟨hc.running, hc.known, hc.within, hc.closes, hc.matched, hc.joined, hc.counted, hc.device, hc.idle⟩

end Inv

/-! ## Runs -/

/-- The streams and the device are closed as often as they should be. -/
structure Sound (w : Device) : Prop where
  /-- The fatal check was never hit. -/
  running : w.aborted = false
  /-- Every stream the HAL opened has its wrapper, of its direction. -/
  known : openedStreams w.halCalls = w.streams.map (·.direction)
  once : ∀ i, (closedStreams w.halCalls).count i ≤ 1
  /-- By the close function of its direction. -/
  matched : ∀ direction i, HalCall.closeStream direction i ∈ w.halCalls → w.streams[i]?.map (·.direction) = some direction
  /-- A wrapper that is gone has closed its stream. -/
  closed : ∀ i s, w.streams[i]? = some s → s.destroyed = true → (closedStreams w.halCalls).count i = 1
  counted : w.mOpenedStreamsCount = (live w.halCalls).length
  device : w.halCalls.count .closeDevice ≤ 1
  idle : AtClose (fun before _ => live before = []) w.halCalls

theorem Inv.sound {w : Device} (h : Inv w) : Sound w where
  running := h.running
  known := h.known
  once i := by
    cases hi : w.streams[i]? with
    | none =>
      have hn : i ∉ closedStreams w.halCalls := by
        intro hm
        exact Nat.lt_irrefl _ (Nat.lt_of_lt_of_le (h.within i hm) (List.getElem?_eq_none_iff.1 hi))
      rw [List.count_eq_zero.2 hn]
      exact Nat.zero_le 1
    | some s =>
      rw [h.closes i s hi]
      split
      · exact Nat.le_refl 1
      · exact Nat.zero_le 1
  matched := h.matched
  closed i s hi hd := by rw [h.closes i s hi, if_pos (h.joined s (List.mem_of_getElem? hi) hd)]
  counted := h.counted
  device := by
    rw [h.device]
    split
    · exact Nat.le_refl 1
    · exact Nat.zero_le 1
  idle := h.idle

/-- No stream is opened on a device that the HAL has closed. -/
def OpensOpen (w : Device) : Prop :=
  AtClose (fun _ after => ∀ direction status, HalCall.openStream direction status ∉ after) w.halCalls

/-- The event is an open whose arguments convert, of a device that is there. -/
def OpensHal (w : Device) (e : Event) : Prop :=
  w.destroyed = false ∧ ∃ direction status, e = .openStream direction .ok status

/-- The client opens no stream after its close. -/
def ClosesLast (w : Device) (e : Event) : Prop := w.mIsClosed = true → ¬ OpensHal w e

theorem Inv.closed_iff {w : Device} (h : Inv w) : w.mIsClosed = true ↔ HalCall.closeDevice ∈ w.halCalls := by
  have hd := h.device
  cases hc : w.mIsClosed with
  | true =>
    rw [hc, if_pos rfl] at hd
    exact iff_of_true rfl (List.count_pos_iff.1 (by rw [hd]; exact Nat.one_pos))
  | false =>
    rw [hc, if_neg Bool.false_ne_true] at hd
    exact iff_of_false Bool.false_ne_true (List.count_eq_zero.1 hd)

namespace Device

/-- A step makes one call at most, and it opens a stream exactly if the event does. -/
theorem step_calls {w : Device} (h : Inv w) (e : Event) :
    (OpensHal w e ∧ ∃ direction status, (w.step e).halCalls = w.halCalls ++ [.openStream direction status]) ∨
    (¬ OpensHal w e ∧ ((w.step e).halCalls = w.halCalls ∨
      ∃ c, (∀ direction status, c ≠ .openStream direction status) ∧ (w.step e).halCalls = w.halCalls ++ [c])) := by
  have hclose : ∀ i, (w.closeStream i).2.halCalls = w.halCalls ∨
      ∃ c, (∀ direction status, c ≠ HalCall.openStream direction status) ∧
        (w.closeStream i).2.halCalls = w.halCalls ++ [c] := by
    intro i
    unfold closeStream
    split
    · exact .inl rfl
    case h_2 s _ =>
      split
      · exact .inl rfl
      · refine .inr ⟨.closeStream s.direction i, by simp, ?_⟩
        dsimp only [closeHalStream]
        split <;> rfl
  have hdo : ∀ status, (w.doClose status).2.halCalls = w.halCalls ∨
      ∃ c, (∀ direction status, c ≠ HalCall.openStream direction status) ∧
        (w.doClose status).2.halCalls = w.halCalls ++ [c] := by
    intro status
    unfold doClose
    split
    · exact .inl rfl
    · exact .inr ⟨.closeDevice, by simp, rfl⟩
  have hother : (∀ direction conversion status, e ≠ .openStream direction conversion status) → ¬ OpensHal w e := by
    rintro hne ⟨-, direction, status, rfl⟩
    exact hne _ _ _ rfl
  unfold step
  split
  case isTrue hskip =>
    refine .inr ⟨?_, .inl rfl⟩
    rintro ⟨hd, direction, status, rfl⟩
    rw [h.running] at hskip
    rcases hskip with hskip | hskip
    · cases hskip
    · exact hskip hd
  case isFalse hgo =>
    rw [not_or, not_not] at hgo
    cases e with
    | openStream direction conversion status =>
      by_cases hconv : conversion = .ok
      · subst hconv
        refine .inl ⟨⟨hgo.2, direction, status, rfl⟩, direction, status, ?_⟩
        show (w.openStream direction .ok status).2.halCalls = _
        rw [openStream, if_neg (not_not.2 rfl)]
        dsimp only
        split <;> rfl
      · refine .inr ⟨?_, .inl ?_⟩
        · rintro ⟨-, _, _, he⟩
          cases he
          exact hconv rfl
        · dsimp only [openStream]
          rw [if_pos hconv]
    | closeStream i => exact .inr ⟨hother (by simp), hclose i⟩
    | destroyStream i => exact .inr ⟨hother (by simp), hclose i⟩
    | close status => exact .inr ⟨hother (by simp), hdo status⟩
    | destroy status => exact .inr ⟨hother (by simp), hdo status⟩

/-- Where no stream was opened after a close, the next step keeps it so exactly
if it opens none after one. -/
theorem opensOpen_step_iff {w : Device} (h : Inv w) (ho : OpensOpen w) (e : Event) :
    OpensOpen (w.step e) ↔ ClosesLast w e := by
  rcases step_calls h e with ⟨hopen, direction, status, hs⟩ | ⟨hopen, hs | ⟨c, hc, hs⟩⟩
  · rw [OpensOpen, hs, atClose_concat, ClosesLast, h.closed_iff]
    constructor
    · rintro ⟨hold, -⟩ hm
      obtain ⟨before, after, he⟩ := List.append_of_mem hm
      exact absurd (List.mem_append_right _ List.mem_cons_self) (hold before after he direction status)
    · intro hn
      refine ⟨fun before after he => ?_, by simp⟩
      exact absurd hopen (hn (by rw [he]; exact List.mem_append_right _ List.mem_cons_self))
  · rw [OpensOpen, hs]
    exact iff_of_true ho fun _ => hopen
  · rw [OpensOpen, hs, atClose_concat]
    refine iff_of_true ⟨fun before after he direction status hm => ?_, fun _ => by simp⟩ fun _ => hopen
    rcases List.mem_append.1 hm with hm | hm
    · exact ho before after he direction status hm
    · exact hc direction status (List.mem_singleton.1 hm).symm

/-- In every run every stream is closed once, the count is that of the live
streams and the device is closed once at most, with no stream live; and the HAL
opens no stream on a closed device exactly if the client opens none after its close. -/
theorem lifecycle_run (es : List Event) :
    Runs.Always step Sound init es ∧
      (Runs.Always step OpensOpen init es ↔ Runs.Along step ClosesLast init es) := by
  constructor
  · apply Runs.always_of_inv (J := Inv) _ _ Inv.init
    · exact fun w e h => h.step e
    · exact fun w h => h.sound
  · have hrun := Runs.always_iff_along (T := fun _ _ => True) (C := ClosesLast) (fun w e (h : Inv w) => h.step e)
      (fun w e h ho => by rw [and_true]; exact opensOpen_step_iff h ho e) Inv.init
      (fun before after he => by simp [init] at he) es
    have htriv : Runs.Along step (fun _ _ => True) init es :=
      Runs.along_of_inv (J := fun _ => True) (fun _ _ _ => trivial) (fun _ _ _ => trivial) trivial es
    rw [← hrun]
    exact (and_iff_left htriv).symm

/-- The opens do not look at `mIsClosed`. -/
theorem lifecycle_open_closed : ¬ Runs.Always step OpensOpen init [.close 0, .openStream .output .ok 0] := by
  rintro ⟨-, -, h⟩
  exact h [] [.openStream .output 0] rfl .output 0 (by simp)

end Device

end PhhTreble.AudioHal

import Mathlib.Algebra.GroupWithZero.Nat
import PhhTreble.AudioHal.ReadThread
import PhhTreble.AudioHal.WriteThread
/-!
# The owners of the threads

`StreamOut` and `StreamIn` make the queues and the thread of a stream when the
client prepares it, and stop the thread in `close()`, after which they close the
stream of the HAL. They differ in the thread only. The calls of the client come
one at a time; the thread goes on meanwhile.
-/

namespace PhhTreble.AudioHal

/-! ## The HAL calls of a thread -/

/-- A case calls the HAL once at most: `calls` counts what the memory tells of,
`ahead` what a place has before it. -/
structure Switch.CallsOnce {C S L M H D : Type} (sw : Switch C S L M H D) (calls : M → Nat) (ahead : L → Nat) : Prop where
  ahead_le : ∀ l, ahead l ≤ 1
  advance : ∀ l h m s, calls (sw.advance l h m s).1 + (sw.advance l h m s).2.2.elim 0 ahead ≤ calls m + ahead l
  client : ∀ d m, calls (sw.client d m) = calls m

namespace StreamThread

variable {C S L M H D : Type} {sw : Switch C S L M H D} {calls : M → Nat} {ahead : L → Nat}

/-- The calls that the thread may still make without a look at `mStop`. -/
def mayCall (ahead : L → Nat) : Place L → Nat
  | .case l => ahead l
  | .wait | .fetch => 1
  | _ => 0

theorem mayCall_le (ho : sw.CallsOnce calls ahead) (place : Place L) : mayCall ahead place ≤ 1 := by
  cases place with
  | case l => exact ho.ahead_le l
  | wait | fetch => exact Nat.le_refl 1
  | test | reply | wake | ended => exact Nat.zero_le 1

theorem mayCall_turn (ho : sw.CallsOnce calls ahead) {h : H} {t t' : StreamThread C S L M} (ht : Turn sw h t t')
    (hc : t.closing ≠ .no) :
    calls t'.memory + mayCall ahead t'.place ≤ calls t.memory + mayCall ahead t.place := by
  cases ht with
  | stay _ hno => exact absurd hno hc
  | blocked | ended => exact Nat.le_refl _
  | fetched c q hp =>
    have hle := ho.ahead_le (sw.select c t.mStatus).2
    simpa [mayCall, hp] using hle
  | advanced l l' m s hp ha =>
    have hle := ho.advance l h t.memory t.mStatus
    rw [ha] at hle
    simpa [mayCall, hp] using hle
  | finished l m s hp ha =>
    have hle := ho.advance l h t.memory t.mStatus
    rw [ha] at hle
    simpa [mayCall, hp] using hle
  | leave hp | woken hp | noCommand hp | posted _ hp | lost hp | waked hp => simp [mayCall, hp]

/-- Once `mStop` is set, what the thread has called and may call does not grow. -/
theorem mayCall_step (ho : sw.CallsOnce calls ahead) {t : StreamThread C S L M} (hc : t.closing ≠ .no)
    (e : ThreadEvent C H D) :
    calls (t.step sw e).memory + mayCall ahead (t.step sw e).place ≤ calls t.memory + mayCall ahead t.place := by
  cases he : isThread e with
  | true =>
    cases e with
    | thread h => exact mayCall_turn ho (threadLoop_turn sw h t) hc
    | _ => cases he
  | false =>
    have hcalls : calls (t.step sw e).memory = calls t.memory := by
      rcases step_memory sw t he with hm | ⟨d, -, hm⟩
      · rw [hm]
      · rw [hm, ho.client]
    rw [hcalls]
    rcases step_place sw t he with hsame | ⟨-, -, ht⟩
    · exact Nat.le_of_eq (congrArg (fun place => calls t.memory + mayCall ahead place) hsame)
    · rw [ht]
      exact Nat.le_add_right _ _

end StreamThread

/-- A kind of thread, for each size of its data queue. -/
structure ThreadKind (C S L H D : Type) (M : Nat → Type) where
  switch : (capacity : Nat) → Switch C S L (M capacity) H D
  memory : (capacity : Nat) → M capacity
  rank : L → Nat
  bounded : ∀ capacity, (switch capacity).Bounded rank 2
  calls : {capacity : Nat} → M capacity → Nat
  ahead : L → Nat
  callsOnce : ∀ capacity, (switch capacity).CallsOnce calls ahead
  fresh : ∀ capacity, calls (memory capacity) = 0

theorem WriteThread.switch_callsOnce (capacity : Nat) :
    (switch capacity).CallsOnce (fun m => m.passed.length) fun
      | .availableToRead | .read _ | .write _ => 1
      | _ => 0 := by
  constructor
  · intro l
    cases l <;> simp
  · intro l h m s
    cases l with
    | read n =>
      simp only [switch, advance]
      split <;> simp
    | availableToRead | write _ | getPresentationPosition | getLatency | unknown => simp [switch, advance]
  · intro d m
    simp only [switch, client]
    split <;> rfl

theorem ReadThread.switch_callsOnce (capacity : Nat) :
    (switch capacity).CallsOnce (fun m => m.reads.length) fun
      | .availableToWrite _ | .read _ => 1
      | _ => 0 := by
  constructor
  · intro l
    cases l <;> simp
  · intro l h m s
    cases l with
    | read n =>
      simp only [switch, advance]
      split <;> simp
    | write b =>
      simp only [switch, advance]
      split <;> simp
    | availableToWrite _ | getCapturePosition | unknown => simp [switch, advance]
  · intro d m
    simp only [switch, client]
    split <;> rfl

def writer : ThreadKind WriteCommand WriteStatus WritePlace OutAnswer (List UInt8) WriteMemory where
  switch := WriteThread.switch
  memory _ := ⟨.empty, [], []⟩
  rank := WriteThread.rank
  bounded _ := WriteThread.switch_bounded
  calls m := m.passed.length
  ahead := _
  callsOnce := WriteThread.switch_callsOnce
  fresh _ := rfl

def reader : ThreadKind ReadParameters ReadStatus ReadPlace InAnswer Nat ReadMemory where
  switch := ReadThread.switch
  memory _ := ⟨.empty, [], []⟩
  rank := ReadThread.rank
  bounded _ := ReadThread.switch_bounded
  calls m := m.reads.length
  ahead := _
  callsOnce := ReadThread.switch_callsOnce
  fresh _ := rfl

/-! ## The wrapper -/

inductive StreamCall where
  | prepare (frameSize framesCount : UInt32)
  | close
deriving DecidableEq, Repr

def StreamCall.isClose : StreamCall → Bool
  | .prepare _ _ => false
  | .close => true

/-- What comes of the steps of a preparation that may fail. -/
structure Granted where
  commandMQ : Bool
  dataMQ : Bool
  statusMQ : Bool
  eventFlag : Bool
  init : Bool
  run : Bool
deriving DecidableEq, Repr

/-- `mStopWriteThread` or `mStopReadThread` with the wake of `close()`, the
thread with its queues, and the calls with their answers. -/
structure StreamWrapper (C S L : Type) (M : Nat → Type) where
  closing : Closing
  /-- By the size of `mDataMQ`. -/
  thread : Option ((capacity : Nat) × StreamThread C S L (M capacity))
  answered : List (StreamCall × Result)

/-- A call of the client, the wake in `close()`, or a step of the thread or of
the client of its queues. The status of a thread is not initialised. -/
inductive StreamEvent (C S H D : Type) where
  | prepare (frameSize framesCount : UInt32) (granted : Granted) (mStatus : S)
  | close
  | closeWake
  | thread (e : ThreadEvent C H D)
deriving DecidableEq, Repr

def MAX_BUFFER_SIZE : UInt32 := (2 : UInt32) <<< (30 : UInt32)

namespace StreamWrapper

variable {C S L H D : Type} {M : Nat → Type} {n : Nat}

def new : StreamWrapper C S L M := ⟨.no, none, []⟩

/-- `prepareForWriting` and `prepareForReading`. -/
def prepare (k : ThreadKind C S L H D M) (s : StreamWrapper C S L M) (frameSize framesCount : UInt32) (granted : Granted)
    (mStatus : S) : Result × Option ((capacity : Nat) × StreamThread C S L (M capacity)) :=
  if s.thread.isSome then (.invalidState, s.thread)
  else if frameSize = 0 ∨ framesCount = 0 then (.invalidArguments, s.thread)
  else if frameSize > MAX_BUFFER_SIZE / framesCount then (.invalidArguments, s.thread)
  else if !granted.commandMQ || !granted.dataMQ || !granted.statusMQ then (.invalidArguments, s.thread)
  else if !granted.eventFlag then (.invalidArguments, s.thread)
  else if !granted.init then (.invalidArguments, s.thread)
  else if !granted.run then (.invalidArguments, s.thread)
  else
    let capacity := (frameSize * framesCount).toNat
    (.ok, some ⟨capacity, { StreamThread.started (k.memory capacity) mStatus with closing := s.closing }⟩)

/-- The steps of the thread's owner, which it takes in `close()` only. -/
def ofOwner : ThreadEvent C H D → Bool
  | .stop | .closeWake => true
  | _ => false

/-- A step of the thread, of its client or of its owner. -/
def onThread (k : ThreadKind C S L H D M) (s : StreamWrapper C S L M) (e : ThreadEvent C H D) :
    Option ((capacity : Nat) × StreamThread C S L (M capacity)) :=
  s.thread.map fun t => ⟨t.1, t.2.step (k.switch t.1) e⟩

def step (k : ThreadKind C S L H D M) (s : StreamWrapper C S L M) : StreamEvent C S H D → StreamWrapper C S L M
  | .prepare frameSize framesCount granted mStatus =>
    let (result, thread) := s.prepare k frameSize framesCount granted mStatus
    { s with thread := thread, answered := s.answered ++ [(.prepare frameSize framesCount, result)] }
  | .close =>
    if s.closing = .no then
      { closing := .stopped, thread := s.onThread k .stop, answered := s.answered ++ [(.close, .ok)] }
    else { s with answered := s.answered ++ [(.close, .invalidState)] }
  | .closeWake =>
    if s.closing = .stopped then { s with closing := .woken, thread := s.onThread k .closeWake } else s
  | .thread e => if ofOwner e then s else { s with thread := s.onThread k e }

/-! ## What a step does -/

/-- A size that passes the checks does not wrap. -/
theorem toNat_size {frameSize framesCount : UInt32} (hzero : ¬ (frameSize = 0 ∨ framesCount = 0))
    (hmax : ¬ frameSize > MAX_BUFFER_SIZE / framesCount) :
    (frameSize * framesCount).toNat = frameSize.toNat * framesCount.toNat ∧
      0 < frameSize.toNat * framesCount.toNat ∧ frameSize.toNat * framesCount.toNat ≤ 2 ^ 31 := by
  rw [not_or] at hzero
  have hsize : 0 < frameSize.toNat := by
    apply Nat.pos_of_ne_zero
    intro h
    exact hzero.1 (UInt32.toNat_inj.1 h)
  have hcount : 0 < framesCount.toNat := by
    apply Nat.pos_of_ne_zero
    intro h
    exact hzero.2 (UInt32.toNat_inj.1 h)
  have hle : frameSize.toNat ≤ 2 ^ 31 / framesCount.toNat := by
    have h := UInt32.le_iff_toNat_le.1 (UInt32.not_lt.1 hmax)
    rwa [UInt32.toNat_div] at h
  have hmul : frameSize.toNat * framesCount.toNat ≤ 2 ^ 31 := (Nat.le_div_iff_mul_le hcount).1 hle
  refine ⟨?_, Nat.mul_pos hsize hcount, hmul⟩
  rw [UInt32.toNat_mul]
  exact Nat.mod_eq_of_lt (by omega)

theorem prepare_cases (k : ThreadKind C S L H D M) (s : StreamWrapper C S L M) (frameSize framesCount : UInt32)
    (granted : Granted) (mStatus : S) :
    s.thread.isSome = true ∧ s.prepare k frameSize framesCount granted mStatus = (.invalidState, s.thread) ∨
      s.thread = none ∧ s.prepare k frameSize framesCount granted mStatus = (.invalidArguments, none) ∨
      s.thread = none ∧ 0 < frameSize.toNat * framesCount.toNat ∧ frameSize.toNat * framesCount.toNat ≤ 2 ^ 31 ∧
        s.prepare k frameSize framesCount granted mStatus =
          (.ok, some ⟨frameSize.toNat * framesCount.toNat,
            { StreamThread.started (k.memory _) mStatus with closing := s.closing }⟩) := by
  cases hs : s.thread with
  | some t => exact .inl ⟨rfl, by simp [prepare, hs]⟩
  | none =>
    right
    unfold prepare
    simp only [hs, Option.isSome_none, Bool.false_eq_true, if_false, true_and]
    split_ifs with hzero hmax
    · exact .inl rfl
    · exact .inl rfl
    · exact .inl rfl
    · exact .inl rfl
    · exact .inl rfl
    · exact .inl rfl
    · obtain ⟨hsize, hpos, hle⟩ := toNat_size hzero hmax
      exact .inr ⟨hpos, hle, by rw [hsize]⟩

/-! ## The calls and their answers -/

/-- A call of this kind was answered OK. -/
def Succeeded (isClose : Bool) (answered : List (StreamCall × Result)) : Prop :=
  ∃ c, (c, .ok) ∈ answered ∧ c.isClose = isClose

theorem succeeded_append {isClose : Bool} {answered : List (StreamCall × Result)} {c : StreamCall} {r : Result} :
    Succeeded isClose (answered ++ [(c, r)]) ↔ Succeeded isClose answered ∨ c.isClose = isClose ∧ r = .ok := by
  constructor
  · rintro ⟨c', hc', hk⟩
    rcases List.mem_append.1 hc' with hold | hnew
    · exact .inl ⟨c', hold, hk⟩
    · obtain ⟨rfl, rfl⟩ := Prod.mk.inj (List.mem_singleton.1 hnew)
      exact .inr ⟨hk, rfl⟩
  · rintro (⟨c', hc', hk⟩ | ⟨hk, rfl⟩)
    · exact ⟨c', List.mem_append_left _ hc', hk⟩
    · exact ⟨c, List.mem_append_right _ (List.mem_singleton.2 rfl), hk⟩

/-- Each answer is INVALID_STATE if a call of its kind has succeeded before, and only then. -/
def Refused (answered : List (StreamCall × Result)) : Prop :=
  ∀ before c r after, answered = before ++ (c, r) :: after → (r = .invalidState ↔ Succeeded c.isClose before)

theorem refused_append {answered : List (StreamCall × Result)} {c : StreamCall} {r : Result} (h : Refused answered)
    (hr : r = .invalidState ↔ Succeeded c.isClose answered) : Refused (answered ++ [(c, r)]) := by
  intro before c' r' after he
  rcases List.eq_nil_or_concat after with rfl | ⟨after, last, rfl⟩
  · obtain ⟨rfl, hlast⟩ := List.append_inj' he rfl
    obtain ⟨rfl, rfl⟩ := Prod.mk.inj (List.cons.inj hlast).1
    exact hr
  · rw [List.concat_eq_append, ← List.cons_append, ← List.append_assoc] at he
    exact h before c' r' after (List.append_inj' he rfl).1

/-- What holds of a wrapper in every run. -/
structure Inv (s : StreamWrapper C S L M) : Prop where
  prepared : Succeeded false s.answered ↔ s.thread.isSome = true
  closed : Succeeded true s.answered ↔ s.closing ≠ .no
  refused : Refused s.answered
  size : ∀ frameSize framesCount, (.prepare frameSize framesCount, .ok) ∈ s.answered →
    ∃ t, s.thread = some t ∧ t.1 = frameSize.toNat * framesCount.toNat ∧ 0 < t.1 ∧ t.1 ≤ 2 ^ 31
  /-- The thread sees the flag of its owner. -/
  inStep : ∀ t, s.thread = some t → t.2.closing = s.closing

theorem inv_new : (new : StreamWrapper C S L M).Inv where
  prepared := by simp [new, Succeeded]
  closed := by simp [new, Succeeded]
  refused := by
    intro before c r after he
    simp [new] at he
  size := by simp [new]
  inStep := by simp [new]

/-- A step of the thread, with the answers as they were. -/
theorem Inv.onThread {k : ThreadKind C S L H D M} {s : StreamWrapper C S L M} (h : s.Inv) {e : ThreadEvent C H D}
    {closing : Closing} (hclosed : closing = .no ↔ s.closing = .no)
    (hin : ∀ capacity (t : StreamThread C S L (M capacity)), t.closing = s.closing →
      (t.step (k.switch capacity) e).closing = closing) :
    ({ closing := closing, thread := s.onThread k e, answered := s.answered } : StreamWrapper C S L M).Inv where
  prepared := by
    rw [h.prepared, StreamWrapper.onThread, Option.isSome_map]
  closed := h.closed.trans (not_congr hclosed).symm
  refused := h.refused
  size := by
    intro frameSize framesCount hok
    obtain ⟨t, ht, hsize⟩ := h.size frameSize framesCount hok
    exact ⟨⟨t.1, t.2.step (k.switch t.1) e⟩, by simp [StreamWrapper.onThread, ht], hsize⟩
  inStep := by
    intro t ht
    obtain ⟨t', ht', rfl⟩ := Option.map_eq_some_iff.1 ht
    exact hin t'.1 t'.2 (h.inStep t' ht')

theorem step_closing {sw : Switch C S L (M n) H D} (t : StreamThread C S L (M n)) {e : ThreadEvent C H D}
    (he : ofOwner e = false) : (t.step sw e).closing = t.closing := by
  cases e with
  | thread h =>
    have ht := StreamThread.threadLoop_turn sw h t
    rw [StreamThread.step]
    generalize t.threadLoop sw h = t' at ht ⊢
    cases ht <;> rfl
  | command _ | status | interrupted =>
    unfold StreamThread.step
    dsimp only
    split <;> rfl
  | data _ | wake | clear => rfl
  | stop | closeWake => cases he

theorem inv_step (k : ThreadKind C S L H D M) (s : StreamWrapper C S L M) (e : StreamEvent C S H D) (h : s.Inv) :
    (s.step k e).Inv := by
  cases e with
  | prepare frameSize framesCount granted mStatus =>
    rw [step]
    rcases s.prepare_cases k frameSize framesCount granted mStatus with ⟨hs, hp⟩ | ⟨hs, hp⟩ | ⟨hs, hpos, hle, hp⟩
    · rw [hp]
      have hprev : Succeeded false s.answered := h.prepared.2 hs
      refine ⟨?_, ?_, refused_append h.refused (iff_of_true rfl hprev), ?_, h.inStep⟩
      · simp [succeeded_append, hprev, hs]
      · simp [succeeded_append, StreamCall.isClose, h.closed]
      · intro frameSize framesCount hok
        exact h.size frameSize framesCount (by simpa using hok)
    · rw [hp]
      have hprev : ¬ Succeeded false s.answered := by simp [h.prepared, hs]
      refine ⟨?_, ?_, refused_append h.refused (iff_of_false nofun hprev), ?_, nofun⟩
      · simp [succeeded_append, hprev]
      · simp [succeeded_append, StreamCall.isClose, h.closed]
      · intro frameSize framesCount hok
        obtain ⟨t, ht, -⟩ := h.size frameSize framesCount (by simpa using hok)
        rw [hs] at ht
        cases ht
    · rw [hp]
      have hprev : ¬ Succeeded false s.answered := by simp [h.prepared, hs]
      refine ⟨?_, ?_, refused_append h.refused (iff_of_false nofun hprev), ?_, ?_⟩
      · simp [succeeded_append, StreamCall.isClose]
      · simp [succeeded_append, StreamCall.isClose, h.closed]
      · intro frameSize' framesCount' hok
        rcases List.mem_append.1 hok with hold | hnew
        · exact absurd ⟨_, hold, rfl⟩ hprev
        · simp only [List.mem_singleton, Prod.mk.injEq, StreamCall.prepare.injEq, and_true] at hnew
          obtain ⟨rfl, rfl⟩ := hnew
          exact ⟨_, rfl, rfl, hpos, hle⟩
      · intro t ht
        obtain rfl := Option.some.inj ht
        rfl
  | close =>
    rw [step]
    split
    · rename_i hno
      have hopen : ¬ Succeeded true s.answered := by simp [h.closed, hno]
      refine ⟨?_, ?_, refused_append h.refused (iff_of_false nofun hopen), ?_, ?_⟩
      · simp [succeeded_append, StreamCall.isClose, h.prepared, onThread]
      · simp [succeeded_append, StreamCall.isClose]
      · intro frameSize framesCount hok
        obtain ⟨t, ht, hsize⟩ := h.size frameSize framesCount (by simpa using hok)
        exact ⟨⟨t.1, t.2.step (k.switch t.1) .stop⟩, by simp [onThread, ht], hsize⟩
      · intro t ht
        obtain ⟨t', ht', rfl⟩ := Option.map_eq_some_iff.1 ht
        simp [StreamThread.step, h.inStep t' ht', hno]
    · rename_i hyes
      have hclosed : Succeeded true s.answered := h.closed.2 hyes
      refine ⟨?_, ?_, refused_append h.refused (iff_of_true rfl hclosed), ?_, h.inStep⟩
      · simp [succeeded_append, StreamCall.isClose, h.prepared]
      · simp [succeeded_append, hclosed, hyes]
      · intro frameSize framesCount hok
        exact h.size frameSize framesCount (by simpa using hok)
  | closeWake =>
    rw [step]
    split
    · rename_i hstopped
      refine h.onThread (by simp [hstopped]) ?_
      intro capacity t ht
      simp [StreamThread.step, ht, hstopped]
    · exact h
  | thread e =>
    rw [step]
    split
    · exact h
    · rename_i he
      refine h.onThread Iff.rfl ?_
      intro capacity t ht
      rw [step_closing t (by simpa using he), ht]

/-- Whatever the client asks for, and whatever fails: it is refused with
INVALID_STATE what it was granted before, and only that, so that a stream has one
thread and is closed once; the data queue has the size that was asked for. -/
theorem prepared_run (k : ThreadKind C S L H D M) (es : List (StreamEvent C S H D)) :
    let s := Runs.run (step k) new es
    Refused s.answered ∧
      ∀ frameSize framesCount, (.prepare frameSize framesCount, .ok) ∈ s.answered →
        ∃ t, s.thread = some t ∧ t.1 = frameSize.toNat * framesCount.toNat ∧ 0 < t.1 ∧ t.1 ≤ 2 ^ 31 := by
  intro s
  have h : s.Inv := Runs.run_inv (inv_step k) inv_new es
  exact ⟨h.refused, h.size⟩

/-! ## The thread in the wrapper -/

/-- The event as the thread sees it. -/
def toThread : StreamEvent C S H D → Option (ThreadEvent C H D)
  | .prepare _ _ _ _ => none
  | .close => some .stop
  | .closeWake => some .closeWake
  | .thread e => if ofOwner e then none else some e

/-- A thread that was prepared is kept, and takes the steps of its own model. -/
theorem thread_step (k : ThreadKind C S L H D M) {s : StreamWrapper C S L M} (h : s.Inv) {t : StreamThread C S L (M n)}
    (ht : s.thread = some ⟨n, t⟩) (e : StreamEvent C S H D) :
    (s.step k e).thread = some ⟨n, Runs.run (StreamThread.step (k.switch n)) t (toThread e).toList⟩ := by
  have hin : t.closing = s.closing := h.inStep _ ht
  cases e with
  | prepare frameSize framesCount granted mStatus =>
    rw [step]
    rcases s.prepare_cases k frameSize framesCount granted mStatus with ⟨-, hp⟩ | ⟨hs, -⟩ | ⟨hs, -⟩
    · rw [hp]
      exact ht
    · rw [hs] at ht
      cases ht
    · rw [hs] at ht
      cases ht
  | close =>
    rw [step]
    split
    · simp [onThread, ht, toThread, Runs.run]
    · rename_i hno
      simp [ht, toThread, Runs.run, StreamThread.step, hin, hno]
  | closeWake =>
    rw [step]
    split
    · simp [onThread, ht, toThread, Runs.run]
    · rename_i hno
      simp [ht, toThread, Runs.run, StreamThread.step, hin, hno]
  | thread e =>
    rw [step, toThread]
    split
    · exact ht
    · simp [onThread, ht, Runs.run]

theorem thread_run (k : ThreadKind C S L H D M) {s : StreamWrapper C S L M} (h : s.Inv) {t : StreamThread C S L (M n)}
    (ht : s.thread = some ⟨n, t⟩) (es : List (StreamEvent C S H D)) :
    (Runs.run (step k) s es).thread =
      some ⟨n, Runs.run (StreamThread.step (k.switch n)) t (es.filterMap toThread)⟩ := by
  induction es generalizing s t with
  | nil => exact ht
  | cons e es ih =>
    rw [Runs.run_cons, ih (inv_step k s e h) (thread_step k h ht e), ← Runs.run_append]
    cases he : toThread e <;> simp [he]

/-- What the steps of a thread keep holds of the thread of a wrapper. -/
theorem thread_inv (k : ThreadKind C S L H D M) {J : {n : Nat} → StreamThread C S L (M n) → Prop}
    (h0 : ∀ n mStatus closing, J { StreamThread.started (k.memory n) mStatus with closing := closing })
    (hJ : ∀ n (t : StreamThread C S L (M n)) e, J t → J (t.step (k.switch n) e)) (es : List (StreamEvent C S H D)) :
    ∀ t, (Runs.run (step k) new es).thread = some t → J t.2 := by
  have hstep : ∀ (s : StreamWrapper C S L M) (e : StreamEvent C S H D),
      (s.Inv ∧ ∀ t, s.thread = some t → J t.2) →
        (s.step k e).Inv ∧ ∀ t, (s.step k e).thread = some t → J t.2 := by
    rintro s e ⟨h, hs⟩
    refine ⟨inv_step k s e h, ?_⟩
    intro t' ht'
    cases ht : s.thread with
    | some t =>
      have hrun : J (Runs.run (StreamThread.step (k.switch t.1)) t.2 (toThread e).toList) :=
        Runs.run_inv (fun t e => hJ _ t e) (hs t ht) _
      rw [thread_step k h ht e] at ht'
      obtain rfl := Option.some.inj ht'
      exact hrun
    | none =>
      cases e with
      | prepare frameSize framesCount granted mStatus =>
        rw [step] at ht'
        rcases s.prepare_cases k frameSize framesCount granted mStatus with ⟨hsome, -⟩ | ⟨-, hp⟩ | ⟨-, -, -, hp⟩
        · simp [ht] at hsome
        · rw [hp] at ht'
          cases ht'
        · rw [hp] at ht'
          obtain rfl := Option.some.inj ht'
          exact h0 _ _ _
      | close | closeWake | thread _ =>
        rw [step] at ht'
        split at ht' <;> simp [onThread, ht] at ht'
  exact (Runs.run_inv hstep ⟨inv_new, nofun⟩ es).2

/-! ## After `close()` -/

/-- The calls of the HAL's `write` or `read`. -/
def halCalls (k : ThreadKind C S L H D M) (s : StreamWrapper C S L M) : Nat :=
  s.thread.elim 0 fun t => k.calls t.2.memory

/-- Those and the ones that may still come. -/
def halCallsLeft (k : ThreadKind C S L H D M) (s : StreamWrapper C S L M) : Nat :=
  s.thread.elim 0 fun t => k.calls t.2.memory + StreamThread.mayCall k.ahead t.2.place

theorem closing_step (k : ThreadKind C S L H D M) {s : StreamWrapper C S L M} (hc : s.closing ≠ .no)
    (e : StreamEvent C S H D) : (s.step k e).closing ≠ .no := by
  cases e with
  | prepare => exact hc
  | close =>
    rw [step]
    split
    · nofun
    · exact hc
  | closeWake =>
    rw [step]
    split
    · nofun
    · exact hc
  | thread e =>
    rw [step]
    split <;> exact hc

theorem halCallsLeft_step (k : ThreadKind C S L H D M) {s : StreamWrapper C S L M} (h : s.Inv) (hc : s.closing ≠ .no)
    (e : StreamEvent C S H D) : (s.step k e).halCallsLeft k ≤ s.halCallsLeft k := by
  cases ht : s.thread with
  | some t =>
    have hclosing : t.2.closing ≠ .no := by rwa [h.inStep t ht]
    rw [halCallsLeft, halCallsLeft, thread_step k h ht e, ht]
    cases toThread e with
    | none => exact Nat.le_refl _
    | some e' => exact StreamThread.mayCall_step (k.callsOnce t.1) hclosing e'
  | none =>
    have hnone : s.halCallsLeft k = 0 := by simp [halCallsLeft, ht]
    rw [hnone, Nat.le_zero]
    cases e with
    | prepare frameSize framesCount granted mStatus =>
      rw [step]
      rcases s.prepare_cases k frameSize framesCount granted mStatus with ⟨hs, -⟩ | ⟨-, hp⟩ | ⟨-, -, -, hp⟩
      · simp [ht] at hs
      · rw [hp]
        rfl
      · -- the thread is before its test of `mStop`
        rw [hp]
        exact k.fresh _
    | close | closeWake | thread _ =>
      rw [step]
      split <;> simp [halCallsLeft, onThread, ht]

/-- After `close()`, which closes the stream of the HAL once the thread is woken,
the thread calls the HAL once more at most; one that is prepared later never
does. It is gone after eight turns, so that the destructor can join it. -/
theorem after_close (k : ThreadKind C S L H D M) (es es' : List (StreamEvent C S H D)) :
    let s := Runs.run (step k) new es
    let s' := Runs.run (step k) s es'
    s.closing ≠ .no →
      s'.halCalls k ≤ s.halCalls k + 1 ∧ (s.thread = none → s'.halCalls k = 0) ∧
        (s.closing = .woken → ∀ t, s.thread = some t → 8 ≤ (es'.filterMap toThread).countP StreamThread.isThread →
          ∃ t', s'.thread = some t' ∧ t'.2.place = .ended) := by
  intro s s' hc
  have h : s.Inv := Runs.run_inv (inv_step k) inv_new es
  have hleft : s'.halCallsLeft k ≤ s.halCallsLeft k :=
    (Runs.run_inv (J := fun s'' => s''.Inv ∧ s''.closing ≠ .no ∧ s''.halCallsLeft k ≤ s.halCallsLeft k)
      (fun s'' e hJ => ⟨inv_step k s'' e hJ.1, closing_step k hJ.2.1 e,
        Nat.le_trans (halCallsLeft_step k hJ.1 hJ.2.1 e) hJ.2.2⟩) ⟨h, hc, Nat.le_refl _⟩ es').2.2
  have hcalls : s'.halCalls k ≤ s'.halCallsLeft k := by
    unfold halCalls halCallsLeft
    cases s'.thread with
    | none => exact Nat.le_refl _
    | some t => exact Nat.le_add_right _ _
  refine ⟨?_, ?_, ?_⟩
  · have hone : s.halCallsLeft k ≤ s.halCalls k + 1 := by
      unfold halCalls halCallsLeft
      cases s.thread with
      | none => exact Nat.zero_le _
      | some t => exact Nat.add_le_add_left (StreamThread.mayCall_le (k.callsOnce t.1) t.2.place) _
    omega
  · intro hnone
    have hzero : s.halCallsLeft k = 0 := by simp [halCallsLeft, hnone]
    omega
  · intro hw t ht hturns
    have hplaced : t.2.Placed k.rank 2 := by
      refine thread_inv k (J := fun t => t.Placed k.rank 2) ?_ ?_ es t ht
      · intro n mStatus closing
        exact ⟨nofun, nofun, nofun⟩
      · intro n t e hp
        exact StreamThread.placed_step (k.bounded n) t e hp
    have hwoken : t.2.closing = .woken := (h.inStep t ht).trans hw
    exact ⟨_, thread_run k h ht es', StreamThread.ended_of_closed (k.bounded t.1) hplaced hwoken hturns⟩

/-- The thread is in its wait, with a command that it has not seen, as the stream
is closed. -/
theorem after_close_waiting :
    let s := Runs.run (step writer) new [.prepare 4 2 ⟨true, true, true, true, true, true⟩ ⟨.ok, .getLatency, .latencyMs 0⟩,
      .thread (.thread ⟨0, none, 20⟩), .thread (.command .write), .close, .closeWake]
    let s' := Runs.run (step writer) s (List.replicate 8 (.thread (.thread ⟨0, none, 20⟩)))
    s'.halCalls writer ≤ s.halCalls writer + 1 ∧ ∃ t', s'.thread = some t' ∧ t'.2.place = .ended := by
  intro s s'
  have h := after_close writer
    [.prepare 4 2 ⟨true, true, true, true, true, true⟩ ⟨.ok, .getLatency, .latencyMs 0⟩,
      .thread (.thread ⟨0, none, 20⟩), .thread (.command .write), .close, .closeWake]
    (List.replicate 8 (.thread (.thread ⟨0, none, 20⟩))) (by decide)
  exact ⟨h.1, h.2.2 (by decide) _ rfl (by decide)⟩

end StreamWrapper

end PhhTreble.AudioHal

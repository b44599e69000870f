import PhhTreble.AudioHal.Device
import PhhTreble.AudioHal.StreamThread
/-!
# The thread of an output stream

`WriteThread` takes the bytes of the client from the data queue and passes them
to the HAL's `write`. A client writes to the queue while the thread empties it.
-/

namespace PhhTreble.AudioHal

/-! ## The data model -/

inductive WriteCommand where
  | write | getPresentationPosition | getLatency
  | unknown (code : Nat)
deriving DecidableEq, Repr

/-- The union of the replies. -/
inductive WriteReply where
  | written (bytes : Nat)
  | presentationPosition (frames : Nat) (timeStamp : Nat × Nat)
  | latencyMs (latency : Nat)
deriving DecidableEq, Repr

structure WriteStatus where
  retval : Result
  replyTo : WriteCommand
  reply : WriteReply
deriving DecidableEq, Repr

/-- What the functions of the HAL's stream return if they are called now. -/
structure OutAnswer where
  write : Int
  /-- None when the stream has no such function. -/
  presentationPosition : Option (Int × Nat × (Nat × Nat))
  latency : Nat
deriving DecidableEq, Repr

/-- The places in the cases of the `switch`: in `doWrite` before
`availableToRead`, before the read of as many bytes and before the HAL's `write`
of `mBuffer`, and those of one step. -/
inductive WritePlace where
  | availableToRead
  | read (availToRead : Nat)
  | write (mBuffer : List UInt8)
  | getPresentationPosition
  | getLatency
  | unknown
deriving DecidableEq, Repr

structure WriteMemory (capacity : Nat) where
  mDataMQ : MessageQueue UInt8 capacity
  /-- The bytes that the client could put into the queue. -/
  put : List UInt8
  /-- The calls of the HAL's `write`, with their results. -/
  passed : List (List UInt8 × Int)
deriving DecidableEq, Repr

/-! ## The cases -/

namespace WriteThread

variable {capacity : Nat}

/-- The `switch` in `threadLoop`. -/
def select (replyTo : WriteCommand) (mStatus : WriteStatus) : WriteStatus × WritePlace :=
  ({ mStatus with replyTo := replyTo },
    match replyTo with
    | .write => .availableToRead
    | .getPresentationPosition => .getPresentationPosition
    | .getLatency => .getLatency
    | .unknown _ => .unknown)

/-- `doWrite`. -/
def writeDone (mStatus : WriteStatus) (writeResult : Int) : WriteStatus :=
  if 0 ≤ writeResult then { mStatus with reply := .written writeResult.toNat }
  else { mStatus with retval := analyzeStatus writeResult }

/-- `getPresentationPositionImpl`. -/
def getPresentationPosition (mStatus : WriteStatus) : Option (Int × Nat × (Nat × Nat)) → WriteStatus
  | none => { mStatus with retval := .notSupported }
  | some (status, frames, timeStamp) =>
    if analyzeStatus status = .ok then { mStatus with retval := .ok, reply := .presentationPosition frames timeStamp }
    else { mStatus with retval := analyzeStatus status }

/-- `doWrite`, `doGetPresentationPosition` and `doGetLatency`, step by step. -/
def advance (place : WritePlace) (hal : OutAnswer) (m : WriteMemory capacity) (mStatus : WriteStatus) :
    WriteMemory capacity × WriteStatus × Option WritePlace :=
  match place with
  | .availableToRead =>
    (m, { mStatus with retval := .ok, reply := .written 0 }, some (.read m.mDataMQ.availableToRead))
  | .read availToRead =>
    match m.mDataMQ.read availToRead with
    | some (mBuffer, q) => ({ m with mDataMQ := q }, mStatus, some (.write mBuffer))
    | none => (m, mStatus, none)
  | .write mBuffer => ({ m with passed := m.passed ++ [(mBuffer, hal.write)] }, writeDone mStatus hal.write, none)
  | .getPresentationPosition => (m, getPresentationPosition mStatus hal.presentationPosition, none)
  | .getLatency => (m, { mStatus with retval := .ok, reply := .latencyMs hal.latency }, none)
  | .unknown => (m, { mStatus with retval := .notSupported }, none)

/-- The client writes to the data queue. -/
def client (bytes : List UInt8) (m : WriteMemory capacity) : WriteMemory capacity :=
  match m.mDataMQ.write bytes with
  | some q => { m with mDataMQ := q, put := m.put ++ bytes }
  | none => m

def switch (capacity : Nat) : Switch WriteCommand WriteStatus WritePlace (WriteMemory capacity) OutAnswer (List UInt8) :=
  ⟨select, advance, client⟩

end WriteThread

/-- `WriteThread`. -/
abbrev WriteThread (capacity : Nat) := StreamThread WriteCommand WriteStatus WritePlace (WriteMemory capacity)

abbrev WriteEvent := ThreadEvent WriteCommand OutAnswer (List UInt8)

namespace WriteThread

variable {capacity : Nat}

def started (capacity : Nat) (mStatus : WriteStatus) : WriteThread capacity :=
  StreamThread.started ⟨.empty, [], []⟩ mStatus

def step (t : WriteThread capacity) (e : WriteEvent) : WriteThread capacity := StreamThread.step (switch capacity) t e

theorem switch_answers : (switch capacity).Answers WriteStatus.replyTo id := by
  constructor
  · intro c s
    rfl
  · intro l h m s
    cases l with
    | read n =>
      simp only [switch, advance]
      split <;> rfl
    | write b =>
      simp only [switch, advance, writeDone]
      split <;> rfl
    | getPresentationPosition =>
      cases hp : h.presentationPosition with
      | none => simp [switch, advance, getPresentationPosition, hp]
      | some r =>
        simp only [switch, advance, getPresentationPosition, hp]
        split <;> rfl
    | availableToRead | getLatency | unknown => rfl

/-- The steps that are left in a case. -/
def rank : WritePlace → Nat
  | .availableToRead => 2
  | .read _ => 1
  | .write _ | .getPresentationPosition | .getLatency | .unknown => 0

theorem switch_bounded : (switch capacity).Bounded rank 2 := by
  constructor
  · intro c s
    cases c <;> simp [switch, select, rank]
  · intro l h m s l' hl
    cases l with
    | availableToRead =>
      obtain rfl : WritePlace.read m.mDataMQ.availableToRead = l' := by simpa [switch, advance] using hl
      simp [rank]
    | read n =>
      simp only [switch, advance] at hl
      split at hl
      · obtain rfl := Option.some.inj hl
        simp [rank]
      · cases hl
    | write _ | getPresentationPosition | getLatency | unknown => cases hl

/-! ## The bytes and their statuses -/

/-- The status of a `write` with this result. -/
def writeStatus (writeResult : Int) : WriteStatus := writeDone ⟨.ok, .write, .written 0⟩ writeResult

def isWrite (s : WriteStatus) : Bool := s.replyTo = .write

/-- The bytes on their way from the data queue to the HAL. -/
def buffered (t : WriteThread capacity) : List UInt8 :=
  match t.place with
  | .case (.write mBuffer) => mBuffer
  | _ => []

/-- What holds at a place of a case. -/
def AtPlace (m : WriteMemory capacity) (mStatus : WriteStatus) : WritePlace → Prop
  | .availableToRead => mStatus.replyTo = .write
  | .read availToRead => mStatus = ⟨.ok, .write, .written 0⟩ ∧ availToRead ≤ m.mDataMQ.availableToRead
  | .write mBuffer => mStatus = ⟨.ok, .write, .written 0⟩ ∧ mBuffer.length ≤ capacity
  | .getPresentationPosition | .getLatency | .unknown => mStatus.replyTo ≠ .write

/-- The bytes put into the queue are those passed to the HAL, those in `mBuffer`
and those in the queue; `mBuffer` was large enough; every `write` has its status. -/
structure Passing (t : WriteThread capacity) : Prop where
  put : t.memory.put = (t.memory.passed.map Prod.fst).flatten ++ buffered t ++ t.memory.mDataMQ.entries
  fits : ∀ call ∈ t.memory.passed, call.1.length ≤ capacity
  statuses : t.composed.filter isWrite = t.memory.passed.map fun call => writeStatus call.2
  place : ∀ l, t.place = .case l → AtPlace t.memory t.mStatus l

theorem passing_started (mStatus : WriteStatus) : Passing (started capacity mStatus) := by
  refine ⟨rfl, ?_, rfl, ?_⟩
  · intro call h
    cases h
  · intro l h
    cases h

/-- Outside the `switch` nothing is on its way. -/
theorem Passing.outside {t t' : WriteThread capacity} (h : Passing t) (hm : t'.memory = t.memory)
    (hc : t'.composed = t.composed) (hb : buffered t = []) (hp : ∀ l, t'.place ≠ .case l) : Passing t' := by
  have hb' : buffered t' = [] := by
    unfold buffered
    split
    · exact absurd ‹_› (hp _)
    · rfl
  refine ⟨?_, ?_, ?_, ?_⟩
  · rw [hm, hb', h.put, hb]
  · rw [hm]
    exact h.fits
  · rw [hc, hm]
    exact h.statuses
  · intro l hl
    exact absurd hl (hp l)

theorem passing_client {t : WriteThread capacity} (h : Passing t) (bytes : List UInt8) :
    Passing { t with memory := client bytes t.memory } := by
  unfold client
  split
  · rename_i q hq
    have hentries := MessageQueue.write_eq_some hq
    refine ⟨?_, h.fits, h.statuses, ?_⟩
    · simp only [h.put, hentries, buffered, List.append_assoc]
    · intro l hl
      have hat := h.place l hl
      cases l with
      | read n =>
        refine ⟨hat.1, Nat.le_trans hat.2 ?_⟩
        simp [MessageQueue.availableToRead, hentries]
      | _ => exact hat
  · exact h

theorem select_atPlace (m : WriteMemory capacity) (c : WriteCommand) (mStatus : WriteStatus) :
    AtPlace m (select c mStatus).1 (select c mStatus).2 := by
  cases c <;> simp [select, AtPlace]

theorem passing_turn {hal : OutAnswer} {t t' : WriteThread capacity}
    (ht : StreamThread.Turn (switch capacity) hal t t') (h : Passing t) : Passing t' := by
  cases ht with
  | blocked | ended => exact h
  | stay hp | leave hp | woken hp | noCommand hp | posted _ hp | lost hp | waked hp =>
    exact h.outside rfl rfl (by simp [buffered, hp]) nofun
  | fetched c q hp =>
    have hb : buffered t = [] := by simp [buffered, hp]
    refine ⟨?_, h.fits, h.statuses, ?_⟩
    · rw [h.put, hb]
      cases c <;> simp [buffered, switch, select]
    · intro l hl
      obtain rfl : (select c t.mStatus).2 = l := by simpa [switch] using hl
      exact select_atPlace t.memory c t.mStatus
  | advanced l l' m s hp ha =>
    have hat := h.place l hp
    cases l with
    | availableToRead =>
      simp only [switch, advance, Prod.mk.injEq, Option.some.injEq] at ha
      obtain ⟨rfl, rfl, rfl⟩ := ha
      refine ⟨by simpa [buffered, hp] using h.put, h.fits, h.statuses, ?_⟩
      intro l hl
      obtain rfl : WritePlace.read t.memory.mDataMQ.availableToRead = l := by simpa using hl
      have hreply : t.mStatus.replyTo = .write := hat
      exact ⟨by rw [hreply], Nat.le_refl _⟩
    | read n =>
      simp only [switch, advance] at ha
      split at ha
      · rename_i b q hq
        simp only [Prod.mk.injEq, Option.some.injEq] at ha
        obtain ⟨rfl, rfl, rfl⟩ := ha
        obtain ⟨hlen, hentries⟩ := MessageQueue.read_eq_some hq
        have hput : t.memory.put = (t.memory.passed.map Prod.fst).flatten ++ t.memory.mDataMQ.entries := by
          simpa [buffered, hp] using h.put
        refine ⟨by simp [buffered, hput, hentries], h.fits, h.statuses, ?_⟩
        intro l hl
        obtain rfl : WritePlace.write b = l := by simpa using hl
        refine ⟨hat.1, ?_⟩
        have hfits := t.memory.mDataMQ.fits
        rw [hentries, List.length_append] at hfits
        omega
      · simp at ha
    | write _ | getPresentationPosition | getLatency | unknown => simp [switch, advance] at ha
  | finished l m s hp ha =>
    have hat := h.place l hp
    have hkept : s.replyTo = t.mStatus.replyTo := switch_answers.kept ha
    cases l with
    | availableToRead => simp [switch, advance] at ha
    | read n =>
      -- what was available when it was looked at is still there
      obtain ⟨b, q, hq⟩ := MessageQueue.read_available hat.2
      simp [switch, advance, hq] at ha
    | write b =>
      simp only [switch, advance, Prod.mk.injEq, and_true] at ha
      obtain ⟨rfl, rfl⟩ := ha
      have hput : t.memory.put = (t.memory.passed.map Prod.fst).flatten ++ b ++ t.memory.mDataMQ.entries := by
        simpa [buffered, hp] using h.put
      have hstatus : writeDone t.mStatus hal.write = writeStatus hal.write := by rw [hat.1, writeStatus]
      have hreply : isWrite (writeStatus hal.write) = true := by
        unfold writeStatus writeDone
        split <;> rfl
      refine ⟨by simp [buffered, hput], ?_, ?_, nofun⟩
      · intro call hcall
        rcases List.mem_append.1 hcall with hcall | hcall
        · exact h.fits call hcall
        · obtain rfl := List.mem_singleton.1 hcall
          exact hat.2
      · simp [h.statuses, hstatus, hreply]
    | getPresentationPosition | getLatency | unknown =>
      have hne : t.mStatus.replyTo ≠ .write := hat
      have hother : isWrite s = false := by simpa [isWrite, hkept] using hne
      simp only [switch, advance, Prod.mk.injEq, and_true] at ha
      obtain ⟨rfl, -⟩ := ha
      refine ⟨by simpa [buffered, hp] using h.put, h.fits, ?_, nofun⟩
      simp [h.statuses, hother]

theorem passing_step (t : WriteThread capacity) (e : WriteEvent) (h : Passing t) : Passing (step t e) := by
  cases he : StreamThread.isThread e with
  | true =>
    cases e with
    | thread hal => exact passing_turn (StreamThread.threadLoop_turn (switch capacity) hal t) h
    | _ => cases he
  | false =>
    obtain ⟨-, hc, hs⟩ := StreamThread.step_history (switch capacity) t he
    rcases StreamThread.step_place (switch capacity) t he with hp | ⟨rfl, hw, ht⟩
    · have hkept : Passing { t with memory := (step t e).memory } := by
        rcases StreamThread.step_memory (switch capacity) t he with hm | ⟨bytes, rfl, -⟩
        · rw [step, hm]
          exact h
        · exact passing_client h bytes
      obtain ⟨h1, h2, h3, h4⟩ := hkept
      refine ⟨?_, h2, ?_, ?_⟩
      · simpa [buffered, step, hp] using h1
      · rw [step, hc]
        exact h3
      · intro l hl
        rw [step, hs]
        exact h4 l (by rwa [step, hp] at hl)
    · refine h.outside ?_ hc (by simp [buffered, hw]) ?_
      · rcases StreamThread.step_memory (switch capacity) t he with hm | ⟨_, hd, -⟩
        · exact hm
        · cases hd
      · intro l hl
        rw [step, ht] at hl
        cases hl

/-- Whatever the parties do: between the client and the HAL no byte is lost,
doubled or moved, `mBuffer` holds what is read into it, and the statuses of
WRITE are those of the HAL's calls, in their order. -/
theorem put_run (capacity : Nat) (mStatus : WriteStatus) (es : List WriteEvent) :
    let t := Runs.run step (started capacity mStatus) es
    t.memory.put = (t.memory.passed.map Prod.fst).flatten ++ buffered t ++ t.memory.mDataMQ.entries ∧
      (∀ call ∈ t.memory.passed, call.1.length ≤ capacity) ∧
      t.composed.filter isWrite = t.memory.passed.map fun call => writeStatus call.2 := by
  intro t
  have h : Passing t := Runs.run_inv passing_step (passing_started mStatus) es
  exact ⟨h.put, h.fits, h.statuses⟩

/-- For a client that sends a command once it has the status of the one before:
it is told of each command in turn, and of each `write` of the HAL once. -/
theorem received_run (capacity : Nat) (mStatus : WriteStatus) (es : List WriteEvent)
    (hw : Runs.Along step StreamThread.Waits (started capacity mStatus) es) :
    let t := Runs.run step (started capacity mStatus) es
    t.received.map WriteStatus.replyTo = t.sent.take t.received.length ∧ t.sent.length ≤ t.received.length + 1 ∧
      (t.received.filter isWrite <+: t.memory.passed.map fun call => writeStatus call.2) ∧
      (t.sent.length = t.received.length →
        t.received.filter isWrite = t.memory.passed.map fun call => writeStatus call.2) := by
  intro t
  have hk : t.Kept WriteStatus.replyTo id := StreamThread.kept_run switch_answers ⟨.empty, [], []⟩ mStatus hw
  have hstatuses : t.composed.filter isWrite = t.memory.passed.map fun call => writeStatus call.2 :=
    (put_run capacity mStatus es).2.2
  refine ⟨by simpa using hk.replies, hk.open_le, ?_, ?_⟩
  · rw [← hstatuses, hk.composed, List.append_assoc, List.filter_append]
    exact List.prefix_append _ _
  · intro hidle
    rw [← hstatuses, hk.idle hidle]

/-- Two bytes of three are accepted, then the client asks for the latency. -/
theorem received_run_latency :
    let t := Runs.run step (started 4 ⟨.ok, .getLatency, .latencyMs 0⟩)
      ([.data [1, 2, 3], .command .write, .wake] ++ List.replicate 8 (.thread ⟨2, none, 20⟩) ++
        [.status, .command .getLatency])
    t.received.map WriteStatus.replyTo = t.sent.take t.received.length ∧ t.sent.length ≤ t.received.length + 1 ∧
      (t.received.filter isWrite <+: t.memory.passed.map fun call => writeStatus call.2) ∧
      (t.sent.length = t.received.length →
        t.received.filter isWrite = t.memory.passed.map fun call => writeStatus call.2) :=
  received_run 4 ⟨.ok, .getLatency, .latencyMs 0⟩ _ (by decide)

/-- `close()` ends the thread: it takes one more command at most, and is gone
after eight turns once it was woken. -/
theorem closed_run (capacity : Nat) (mStatus : WriteStatus) (es es' : List WriteEvent) :
    let t := Runs.run step (started capacity mStatus) es
    (t.closing ≠ .no → (Runs.run step t es').fetched.length ≤ t.fetched.length + 1) ∧
      (t.closing = .woken → 8 ≤ es'.countP StreamThread.isThread → (Runs.run step t es').place = .ended) := by
  intro t
  have hp : t.Placed rank 2 := StreamThread.placed_run switch_bounded ⟨.empty, [], []⟩ mStatus es
  exact ⟨fun hc => StreamThread.fetched_le_of_stopped hc es',
    fun hc hturns => StreamThread.ended_of_closed switch_bounded hp hc hturns⟩

/-- The stream is closed between the thread's look at `mStop` and its wait: the
command that is in the queue is still served. -/
theorem closed_run_waiting :
    let t := Runs.run step (started 4 ⟨.ok, .getLatency, .latencyMs 0⟩)
      [.command .getLatency, .thread ⟨0, none, 20⟩, .stop, .closeWake]
    (Runs.run step t (List.replicate 8 (.thread ⟨0, none, 20⟩))).fetched.length ≤ t.fetched.length + 1 ∧
      (Runs.run step t (List.replicate 8 (.thread ⟨0, none, 20⟩))).place = .ended := by
  have h := closed_run 4 ⟨.ok, .getLatency, .latencyMs 0⟩ [.command .getLatency, .thread ⟨0, none, 20⟩, .stop, .closeWake]
    (List.replicate 8 (.thread ⟨0, none, 20⟩))
  exact ⟨h.1 (by decide), h.2 (by decide) (by decide)⟩

/-- No wake-up is lost: the commands sent before a `wake` are served within
thirteen turns of the thread, whatever else the client does. -/
theorem served_run (capacity : Nat) (mStatus : WriteStatus) (es es' : List WriteEvent)
    (hes : ∀ e ∈ es', StreamThread.Undisturbed e) (hturns : 13 ≤ es'.countP StreamThread.isThread) :
    let t := Runs.run step (started capacity mStatus) es
    t.closing = .no → (Runs.run step (step t .wake) es').Served t.sent.length := by
  intro t hc
  exact StreamThread.served_of_wake switch_answers switch_bounded ⟨.empty, [], []⟩ mStatus es es' hc hes hturns

/-- The client puts bytes into the queue behind its command. -/
theorem served_run_write :
    (Runs.run step
      (step (Runs.run step (started 4 ⟨.ok, .getLatency, .latencyMs 0⟩) [.command .write]) .wake)
      (.data [1, 2, 3] :: List.replicate 13 (.thread ⟨3, none, 20⟩))).Served 1 :=
  served_run 4 ⟨.ok, .getLatency, .latencyMs 0⟩ [.command .write] (.data [1, 2, 3] :: List.replicate 13 (.thread ⟨3, none, 20⟩))
    (by
      intro e he
      rcases List.mem_cons.1 he with rfl | he
      · trivial
      · rw [List.eq_of_mem_replicate he]
        trivial)
    (by decide) rfl

end WriteThread

end PhhTreble.AudioHal

import PhhTreble.AudioHal.Device
import PhhTreble.AudioHal.StreamThread
/-!
# The thread of an input stream

`ReadThread` reads from the HAL as many bytes as the client asked for and the
data queue has room for, and puts them into the queue, which the client empties
meanwhile.
-/

namespace PhhTreble.AudioHal

/-! ## The data model -/

inductive ReadCommand where
  | read | getCapturePosition
  | unknown (code : Nat)
deriving DecidableEq, Repr

/-- `ReadParameters`; `read` is the parameter of READ. -/
structure ReadParameters where
  command : ReadCommand
  read : Nat
deriving DecidableEq, Repr

/-- The union of the replies. -/
inductive ReadReply where
  | read (bytes : Nat)
  | capturePosition (frames time : Nat)
deriving DecidableEq, Repr

structure ReadStatus where
  retval : Result
  replyTo : ReadCommand
  reply : ReadReply
deriving DecidableEq, Repr

/-- What the HAL's `read` does: it fails with a status, or puts bytes into the buffer. -/
inductive ReadResult where
  | failed (status : Int)
  | bytes (buffer : List UInt8)
deriving DecidableEq, Repr

/-- What the functions of the HAL's stream return if they are called now. -/
structure InAnswer where
  read : ReadResult
  /-- None when the stream has no such function. -/
  capturePosition : Option (Int × Nat × Nat)
deriving DecidableEq, Repr

/-- The places in the cases of the `switch`: in `doRead` before
`availableToWrite`, before the HAL's `read` of as many bytes and before the
write of `mBuffer` to the queue, and those of one step. -/
inductive ReadPlace where
  | availableToWrite (requestedToRead : Nat)
  | read (requestedToRead : Nat)
  | write (mBuffer : List UInt8)
  | getCapturePosition
  | unknown
deriving DecidableEq, Repr

structure ReadMemory (capacity : Nat) where
  mDataMQ : MessageQueue UInt8 capacity
  /-- The bytes that the client has taken out of the queue. -/
  taken : List UInt8
  /-- The calls of the HAL's `read`, with their results. -/
  reads : List (Nat × ReadResult)
deriving DecidableEq, Repr

/-! ## The cases -/

namespace ReadThread

variable {capacity : Nat}

/-- The `switch` in `threadLoop`. -/
def select (mParameters : ReadParameters) (mStatus : ReadStatus) : ReadStatus × ReadPlace :=
  ({ mStatus with replyTo := mParameters.command },
    match mParameters.command with
    | .read => .availableToWrite mParameters.read
    | .getCapturePosition => .getCapturePosition
    | .unknown _ => .unknown)

/-- `getCapturePositionImpl`. -/
def getCapturePosition (mStatus : ReadStatus) : Option (Int × Nat × Nat) → ReadStatus
  | none => { mStatus with retval := .notSupported }
  | some (status, frames, time) =>
    if analyzeStatus status = .ok then { mStatus with retval := .ok, reply := .capturePosition frames time }
    else { mStatus with retval := analyzeStatus status }

/-- `doRead` and `doGetCapturePosition`, step by step. -/
def advance (place : ReadPlace) (hal : InAnswer) (m : ReadMemory capacity) (mStatus : ReadStatus) :
    ReadMemory capacity × ReadStatus × Option ReadPlace :=
  match place with
  | .availableToWrite requestedToRead =>
    let availableToWrite := m.mDataMQ.availableToWrite
    (m, mStatus, some (.read (if requestedToRead > availableToWrite then availableToWrite else requestedToRead)))
  | .read requestedToRead =>
    let m := { m with reads := m.reads ++ [(requestedToRead, hal.read)] }
    match hal.read with
    | .bytes mBuffer => (m, { mStatus with retval := .ok, reply := .read mBuffer.length }, some (.write mBuffer))
    | .failed status => (m, { mStatus with retval := analyzeStatus status }, none)
  | .write mBuffer =>
    match m.mDataMQ.write mBuffer with
    | some q => ({ m with mDataMQ := q }, mStatus, none)
    | none => (m, mStatus, none)
  | .getCapturePosition => (m, getCapturePosition mStatus hal.capturePosition, none)
  | .unknown => (m, { mStatus with retval := .notSupported }, none)

/-- The client reads from the data queue. -/
def client (count : Nat) (m : ReadMemory capacity) : ReadMemory capacity :=
  match m.mDataMQ.read count with
  | some (bytes, q) => { m with mDataMQ := q, taken := m.taken ++ bytes }
  | none => m

def switch (capacity : Nat) : Switch ReadParameters ReadStatus ReadPlace (ReadMemory capacity) InAnswer Nat :=
  ⟨select, advance, client⟩

end ReadThread

/-- `ReadThread`. -/
abbrev ReadThread (capacity : Nat) := StreamThread ReadParameters ReadStatus ReadPlace (ReadMemory capacity)

abbrev ReadEvent := ThreadEvent ReadParameters InAnswer Nat

namespace ReadThread

variable {capacity : Nat}

def started (capacity : Nat) (mStatus : ReadStatus) : ReadThread capacity :=
  StreamThread.started ⟨.empty, [], []⟩ mStatus

def step (t : ReadThread capacity) (e : ReadEvent) : ReadThread capacity := StreamThread.step (switch capacity) t e

theorem switch_answers : (switch capacity).Answers ReadStatus.replyTo ReadParameters.command := by
  constructor
  · intro c s
    rfl
  · intro l h m s
    cases l with
    | read n =>
      simp only [switch, advance]
      split <;> rfl
    | write b =>
      simp only [switch, advance]
      split <;> rfl
    | getCapturePosition =>
      cases hp : h.capturePosition with
      | none => simp [switch, advance, getCapturePosition, hp]
      | some r =>
        simp only [switch, advance, getCapturePosition, hp]
        split <;> rfl
    | availableToWrite _ | unknown => rfl

/-- The steps that are left in a case. -/
def rank : ReadPlace → Nat
  | .availableToWrite _ => 2
  | .read _ => 1
  | .write _ | .getCapturePosition | .unknown => 0

theorem switch_bounded : (switch capacity).Bounded rank 2 := by
  constructor
  · rintro ⟨command, count⟩ s
    cases command <;> simp [switch, select, rank]
  · intro l h m s l' hl
    cases l with
    | availableToWrite n =>
      obtain rfl := Option.some.inj hl
      simp [rank]
    | read n =>
      simp only [switch, advance] at hl
      split at hl
      · obtain rfl := Option.some.inj hl
        simp [rank]
      · cases hl
    | write b =>
      simp only [switch, advance] at hl
      split at hl <;> cases hl
    | getCapturePosition | unknown => cases hl

/-! ## The bytes and their statuses -/

/-- A HAL that fails with a negative status, and reads no more than it is asked for. -/
def Honest (t : ReadThread capacity) : ReadEvent → Prop
  | .thread hal =>
    match t.place, hal.read with
    | .case (.read requestedToRead), .bytes mBuffer => mBuffer.length ≤ requestedToRead
    | .case (.read _), .failed status => status < 0
    | _, _ => True
  | _ => True

instance (t : ReadThread capacity) (e : ReadEvent) : Decidable (t.Honest e) := by
  unfold Honest
  split
  · split <;> infer_instance
  · infer_instance

/-- The bytes that came with the calls of the HAL. -/
def captured (reads : List (Nat × ReadResult)) : List UInt8 :=
  (reads.map fun call =>
    match call.2 with
    | .bytes mBuffer => mBuffer
    | .failed _ => []).flatten

def isRead (s : ReadStatus) : Bool := s.replyTo = .read

/-- What a status tells: its reply counts when it is OK. -/
def outcome (s : ReadStatus) : Result × Option ReadReply :=
  if s.retval = .ok then (.ok, some s.reply) else (s.retval, none)

def readOutcome : ReadResult → Result × Option ReadReply
  | .bytes mBuffer => (.ok, some (.read mBuffer.length))
  | .failed status => (analyzeStatus status, none)

/-- The bytes on their way from the HAL to the data queue. -/
def unwritten (t : ReadThread capacity) : List UInt8 :=
  match t.place with
  | .case (.write mBuffer) => mBuffer
  | _ => []

/-- The status of a call of the HAL whose bytes are on their way. -/
def pending (t : ReadThread capacity) : List ReadStatus :=
  match t.place with
  | .case (.write _) => [t.mStatus]
  | _ => []

/-- What holds at a place of a case. -/
def AtPlace (m : ReadMemory capacity) (mStatus : ReadStatus) : ReadPlace → Prop
  | .availableToWrite _ => mStatus.replyTo = .read
  | .read requestedToRead => mStatus.replyTo = .read ∧ requestedToRead ≤ m.mDataMQ.availableToWrite
  | .write mBuffer =>
    mStatus = ⟨.ok, .read, .read mBuffer.length⟩ ∧ mBuffer.length ≤ m.mDataMQ.availableToWrite
  | .getCapturePosition | .unknown => mStatus.replyTo ≠ .read

/-- The bytes that came from the HAL are those the client has taken, those in
the queue and those in `mBuffer`; `mBuffer` was large enough; every `read` has
its status. -/
structure Filling (t : ReadThread capacity) : Prop where
  captured : captured t.memory.reads = t.memory.taken ++ t.memory.mDataMQ.entries ++ unwritten t
  fits : ∀ call ∈ t.memory.reads, call.1 ≤ capacity
  statuses :
    ((t.composed ++ pending t).filter isRead).map outcome = t.memory.reads.map fun call => readOutcome call.2
  place : ∀ l, t.place = .case l → AtPlace t.memory t.mStatus l

theorem analyzeStatus_ne_ok {status : Int} (h : status < 0) : analyzeStatus status ≠ .ok := by
  have hne : status ≠ 0 := by omega
  unfold analyzeStatus
  rw [if_neg hne]
  split_ifs <;> exact nofun

theorem filling_started (mStatus : ReadStatus) : Filling (started capacity mStatus) := by
  refine ⟨rfl, ?_, rfl, ?_⟩
  · intro call h
    cases h
  · intro l h
    cases h

/-- Before the write to the queue nothing is on its way. -/
theorem Filling.settled {t : ReadThread capacity} (h : Filling t) (hb : ∀ b, t.place ≠ .case (.write b)) :
    ReadThread.captured t.memory.reads = t.memory.taken ++ t.memory.mDataMQ.entries ∧
      (t.composed.filter isRead).map outcome = t.memory.reads.map fun call => readOutcome call.2 := by
  have hnone : unwritten t = [] ∧ pending t = [] := by
    unfold unwritten pending
    split
    · exact absurd ‹_› (hb _)
    · exact ⟨rfl, rfl⟩
  constructor
  · rw [h.captured, hnone.1, List.append_nil]
  · rw [← h.statuses, hnone.2, List.append_nil]

theorem Filling.outside {t t' : ReadThread capacity} (h : Filling t) (hm : t'.memory = t.memory)
    (hc : t'.composed = t.composed) (hb : ∀ b, t.place ≠ .case (.write b)) (hp : ∀ l, t'.place ≠ .case l) :
    Filling t' := by
  obtain ⟨hcaptured, hstatuses⟩ := h.settled hb
  have hnone : unwritten t' = [] ∧ pending t' = [] := by
    unfold unwritten pending
    split
    · exact absurd ‹_› (hp _)
    · exact ⟨rfl, rfl⟩
  refine ⟨?_, ?_, ?_, ?_⟩
  · rw [hm, hnone.1, hcaptured, List.append_nil]
  · rw [hm]
    exact h.fits
  · rw [hc, hm, hnone.2, ← hstatuses, List.append_nil]
  · intro l hl
    exact absurd hl (hp l)

theorem filling_client {t : ReadThread capacity} (h : Filling t) (count : Nat) :
    Filling { t with memory := client count t.memory } := by
  unfold client
  split
  · rename_i bytes q hq
    obtain ⟨-, hentries⟩ := MessageQueue.read_eq_some hq
    have hroom : t.memory.mDataMQ.availableToWrite ≤ q.availableToWrite := by
      simp only [MessageQueue.availableToWrite, hentries, List.length_append]
      omega
    refine ⟨?_, h.fits, h.statuses, ?_⟩
    · simp only [h.captured, hentries, unwritten, List.append_assoc]
    · intro l hl
      have hat := h.place l hl
      cases l with
      | read n => exact ⟨hat.1, Nat.le_trans hat.2 hroom⟩
      | write b => exact ⟨hat.1, Nat.le_trans hat.2 hroom⟩
      | _ => exact hat
  · exact h

theorem select_atPlace (m : ReadMemory capacity) (p : ReadParameters) (mStatus : ReadStatus) :
    AtPlace m (select p mStatus).1 (select p mStatus).2 := by
  obtain ⟨command, count⟩ := p
  cases command <;> simp [select, AtPlace]

theorem captured_append (reads : List (Nat × ReadResult)) (requestedToRead : Nat) (r : ReadResult) :
    captured (reads ++ [(requestedToRead, r)]) =
      captured reads ++ (match r with | .bytes mBuffer => mBuffer | .failed _ => []) := by
  simp [captured]

theorem filling_turn {hal : InAnswer} {t t' : ReadThread capacity} (ht : StreamThread.Turn (switch capacity) hal t t')
    (h : Filling t) (hh : t.Honest (.thread hal)) : Filling t' := by
  cases ht with
  | blocked | ended => exact h
  | stay hp | leave hp | woken hp | noCommand hp | posted _ hp | lost hp | waked hp =>
    exact h.outside rfl rfl (by simp [hp]) nofun
  | fetched p q hp =>
    obtain ⟨hcaptured, hstatuses⟩ := h.settled (by simp [hp])
    obtain ⟨command, count⟩ := p
    refine ⟨?_, h.fits, ?_, ?_⟩
    · cases command <;> simp [unwritten, switch, select, hcaptured]
    · cases command <;> simp [pending, switch, select, hstatuses]
    · intro l hl
      obtain rfl : (select ⟨command, count⟩ t.mStatus).2 = l := by simpa [switch] using hl
      exact select_atPlace t.memory ⟨command, count⟩ t.mStatus
  | advanced l l' m s hp ha =>
    have hat := h.place l hp
    cases l with
    | availableToWrite n =>
      simp only [switch, advance, Prod.mk.injEq, Option.some.injEq] at ha
      obtain ⟨rfl, rfl, rfl⟩ := ha
      refine ⟨by simpa [unwritten, hp] using h.captured, h.fits, by simpa [pending, hp] using h.statuses, ?_⟩
      intro l hl
      obtain rfl := Place.case.inj hl
      refine ⟨hat, ?_⟩
      split
      · exact Nat.le_refl _
      · exact Nat.le_of_not_gt ‹_›
    | read n =>
      simp only [switch, advance] at ha
      split at ha
      · rename_i b hb
        simp only [Prod.mk.injEq, Option.some.injEq] at ha
        obtain ⟨rfl, rfl, rfl⟩ := ha
        have hlen : b.length ≤ n := by simpa [Honest, hp, hb] using hh
        obtain ⟨hcaptured, hstatuses⟩ := h.settled (by simp [hp])
        have hreply : t.mStatus.replyTo = .read := hat.1
        refine ⟨?_, ?_, ?_, ?_⟩
        · simp [captured_append, hcaptured, unwritten, hb]
        · intro call hcall
          rcases List.mem_append.1 hcall with hcall | hcall
          · exact h.fits call hcall
          · obtain rfl := List.mem_singleton.1 hcall
            exact Nat.le_trans hat.2 (Nat.sub_le _ _)
        · simp [pending, hstatuses, isRead, hreply, outcome, readOutcome, hb]
        · intro l hl
          obtain rfl := Place.case.inj hl
          exact ⟨by rw [hreply], Nat.le_trans hlen hat.2⟩
      · simp at ha
    | write b =>
      simp only [switch, advance] at ha
      split at ha <;> simp at ha
    | getCapturePosition | unknown => simp [switch, advance] at ha
  | finished l m s hp ha =>
    have hat := h.place l hp
    have hkept : s.replyTo = t.mStatus.replyTo := switch_answers.kept ha
    cases l with
    | availableToWrite n => simp [switch, advance] at ha
    | read n =>
      simp only [switch, advance] at ha
      split at ha
      · simp at ha
      · rename_i status hb
        simp only [Prod.mk.injEq, and_true] at ha
        obtain ⟨rfl, rfl⟩ := ha
        have hneg : status < 0 := by simpa [Honest, hp, hb] using hh
        obtain ⟨hcaptured, hstatuses⟩ := h.settled (by simp [hp])
        have hreply : t.mStatus.replyTo = .read := hat.1
        refine ⟨?_, ?_, ?_, nofun⟩
        · simp [captured_append, hcaptured, unwritten, hb]
        · intro call hcall
          rcases List.mem_append.1 hcall with hcall | hcall
          · exact h.fits call hcall
          · obtain rfl := List.mem_singleton.1 hcall
            exact Nat.le_trans hat.2 (Nat.sub_le _ _)
        · simp [pending, hstatuses, isRead, hreply, outcome, readOutcome, hb, analyzeStatus_ne_ok hneg]
    | write b =>
      -- the room that the HAL was asked to fill has not shrunk
      obtain ⟨q, hq⟩ := MessageQueue.write_fits hat.2
      have hentries := MessageQueue.write_eq_some hq
      simp only [switch, advance, hq, Prod.mk.injEq, and_true] at ha
      obtain ⟨rfl, rfl⟩ := ha
      refine ⟨?_, h.fits, ?_, nofun⟩
      · simpa [unwritten, hp, hentries] using h.captured
      · simpa [pending, hp] using h.statuses
    | getCapturePosition | unknown =>
      have hne : t.mStatus.replyTo ≠ .read := hat
      have hother : isRead s = false := by simpa [isRead, hkept] using hne
      simp only [switch, advance, Prod.mk.injEq, and_true] at ha
      obtain ⟨rfl, -⟩ := ha
      obtain ⟨hcaptured, hstatuses⟩ := h.settled (by simp [hp])
      refine ⟨by simpa [unwritten] using hcaptured, h.fits, ?_, nofun⟩
      simp [pending, hstatuses, hother]

theorem filling_step (t : ReadThread capacity) (e : ReadEvent) (h : Filling t) (hh : t.Honest e) : Filling (step t e) := by
  cases he : StreamThread.isThread e with
  | true =>
    cases e with
    | thread hal => exact filling_turn (StreamThread.threadLoop_turn (switch capacity) hal t) h hh
    | _ => cases he
  | false =>
    obtain ⟨-, hc, hs⟩ := StreamThread.step_history (switch capacity) t he
    rcases StreamThread.step_place (switch capacity) t he with hp | ⟨rfl, hw, ht⟩
    · have hkept : Filling { t with memory := (step t e).memory } := by
        rcases StreamThread.step_memory (switch capacity) t he with hm | ⟨count, rfl, -⟩
        · rw [step, hm]
          exact h
        · exact filling_client h count
      obtain ⟨h1, h2, h3, h4⟩ := hkept
      refine ⟨?_, h2, ?_, ?_⟩
      · simpa [unwritten, step, hp] using h1
      · simpa [pending, step, hp, hc, hs] using h3
      · intro l hl
        rw [step, hs]
        exact h4 l (by rwa [step, hp] at hl)
    · refine h.outside ?_ hc (by simp [hw]) ?_
      · rcases StreamThread.step_memory (switch capacity) t he with hm | ⟨_, hd, -⟩
        · exact hm
        · cases hd
      · intro l hl
        rw [step, ht] at hl
        cases hl

/-- With an honest HAL and whatever the client does: no byte that came from the
HAL is lost, doubled or moved on its way to the client, the HAL is asked for no
more than `mBuffer` holds, and the statuses of READ tell its results in order. -/
theorem taken_run (capacity : Nat) (mStatus : ReadStatus) (es : List ReadEvent)
    (hh : Runs.Along step Honest (started capacity mStatus) es) :
    let t := Runs.run step (started capacity mStatus) es
    captured t.memory.reads = t.memory.taken ++ t.memory.mDataMQ.entries ++ unwritten t ∧
      (∀ call ∈ t.memory.reads, call.1 ≤ capacity) ∧
      ((t.composed ++ pending t).filter isRead).map outcome = t.memory.reads.map fun call => readOutcome call.2 := by
  intro t
  have hall : Runs.Always step Filling (started capacity mStatus) es :=
    Runs.always_of_along filling_step (fun _ h => h) (filling_started mStatus) hh
  have h : Filling t := Runs.always_iff.1 hall es [] (List.append_nil es).symm
  exact ⟨h.captured, h.fits, h.statuses⟩

/-- Six bytes are asked for, four fit; the client takes two while the thread is
in the second call, which fails. -/
theorem taken_run_short :
    let t := Runs.run step (started 4 ⟨.ok, .getCapturePosition, .capturePosition 0 0⟩)
      ([.command ⟨.read, 6⟩, .wake] ++ List.replicate 8 (.thread ⟨.bytes [1, 2, 3, 4], none⟩) ++
        [.status, .command ⟨.read, 1⟩, .wake] ++ List.replicate 4 (.thread ⟨.bytes [], none⟩) ++
        [.data 2, .thread ⟨.failed (-19), none⟩])
    captured t.memory.reads = t.memory.taken ++ t.memory.mDataMQ.entries ++ unwritten t ∧
      (∀ call ∈ t.memory.reads, call.1 ≤ 4) ∧
      ((t.composed ++ pending t).filter isRead).map outcome = t.memory.reads.map fun call => readOutcome call.2 :=
  taken_run 4 ⟨.ok, .getCapturePosition, .capturePosition 0 0⟩ _ (by decide)

/-- For a client that sends a command once it has the status of the one before,
with any HAL: each command is answered in turn. After `close()` the thread takes
one more command at most and is gone eight turns after it was woken; before it,
the commands sent before a `wake` are served within thirteen turns. -/
theorem service_run (capacity : Nat) (mStatus : ReadStatus) (es es' : List ReadEvent) :
    let t := Runs.run step (started capacity mStatus) es
    (Runs.Along step StreamThread.Waits (started capacity mStatus) es →
        t.received.map ReadStatus.replyTo = (t.sent.map ReadParameters.command).take t.received.length ∧
          t.composed = t.received ++ t.mStatusMQ.entries ++ t.unposted ∧ t.sent.length ≤ t.received.length + 1) ∧
      (t.closing ≠ .no → (Runs.run step t es').fetched.length ≤ t.fetched.length + 1) ∧
      (t.closing = .woken → 8 ≤ es'.countP StreamThread.isThread → (Runs.run step t es').place = .ended) ∧
      (t.closing = .no → (∀ e ∈ es', StreamThread.Undisturbed e) → 13 ≤ es'.countP StreamThread.isThread →
        (Runs.run step (step t .wake) es').Served t.sent.length) := by
  intro t
  have hp : t.Placed rank 2 := StreamThread.placed_run switch_bounded ⟨.empty, [], []⟩ mStatus es
  refine ⟨fun hw => ?_, fun hc => StreamThread.fetched_le_of_stopped hc es',
    fun hc hturns => StreamThread.ended_of_closed switch_bounded hp hc hturns,
    fun hc hes hturns => StreamThread.served_of_wake switch_answers switch_bounded ⟨.empty, [], []⟩ mStatus es es' hc hes hturns⟩
  have hk : t.Kept ReadStatus.replyTo ReadParameters.command :=
    StreamThread.kept_run switch_answers ⟨.empty, [], []⟩ mStatus hw
  exact ⟨hk.replies, hk.composed, hk.open_le⟩

/-- The first thread goes on, the second is closed while its command waits. -/
theorem service_run_position :
    let hal : InAnswer := ⟨.bytes [], some (0, 960, 20)⟩
    let mStatus : ReadStatus := ⟨.ok, .read, .read 0⟩
    let t := Runs.run step (started 4 mStatus) [.command ⟨.getCapturePosition, 0⟩]
    let u := Runs.run step (started 4 mStatus) [.command ⟨.getCapturePosition, 0⟩, .thread hal, .stop, .closeWake]
    (t.received.map ReadStatus.replyTo = (t.sent.map ReadParameters.command).take t.received.length ∧
        t.composed = t.received ++ t.mStatusMQ.entries ++ t.unposted ∧ t.sent.length ≤ t.received.length + 1) ∧
      (Runs.run step (step t .wake) (List.replicate 13 (.thread hal))).Served t.sent.length ∧
      (Runs.run step u (List.replicate 8 (.thread hal))).fetched.length ≤ u.fetched.length + 1 ∧
      (Runs.run step u (List.replicate 8 (.thread hal))).place = .ended := by
  intro hal mStatus t u
  have ht := service_run 4 mStatus [.command ⟨.getCapturePosition, 0⟩] (List.replicate 13 (.thread hal))
  have hu := service_run 4 mStatus [.command ⟨.getCapturePosition, 0⟩, .thread hal, .stop, .closeWake]
    (List.replicate 8 (.thread hal))
  refine ⟨ht.1 (by decide), ht.2.2.2 rfl ?_ (by decide), hu.2.1 (by decide), hu.2.2.1 (by decide) (by decide)⟩
  intro e he
  rw [List.eq_of_mem_replicate he]
  trivial

end ReadThread

end PhhTreble.AudioHal

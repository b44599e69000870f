import PhhTreble.Lib.MessageQueue
import PhhTreble.Lib.Runs
/-!
# The threads of the audio streams

`WriteThread` and `ReadThread` serve the commands of a client in another
process: a command comes through one queue and its status goes back through
another, and each side wakes the other with a bit of a flag word. Their loops
differ in the `switch` only, so the loop is here once, for any of them.

One event is one step of one party: the client, the thread, or the owner of the
stream, which closes it. The bytes of the stream go through a queue of their
own, in the memory that the cases of the `switch` work on.
-/

namespace PhhTreble.AudioHal

/-- The `switch` of a loop with the functions of its cases: `C` are the
commands, `S` the statuses, `L` the places in those functions, `M` what they
work on, `H` what they are answered, `D` what the client does to it meanwhile. -/
structure Switch (C S L M H D : Type) where
  /-- The case of a command, with `replyTo` set. -/
  select : C → S → S × L
  /-- The next step of a case; no place is its end. -/
  advance : L → H → M → S → M × S × Option L
  client : D → M → M

/-- Where the thread stands in `threadLoop`: before the test of `mStop`, the
`wait`, the read of the command, a step of the `switch`, the write of the
status, the `wake`; or behind the loop. -/
inductive Place (L : Type) where
  | test
  | wait
  | fetch
  | case (l : L)
  | reply
  | wake
  | ended
deriving DecidableEq, Repr

/-- How far `close()` is: it stores `mStop`, then it wakes the thread. -/
inductive Closing where
  | no | stopped | woken
deriving DecidableEq, Repr

structure StreamThread (C S L M : Type) where
  closing : Closing
  /-- The bit of the flag word that the thread waits for. -/
  toThread : Bool
  /-- The bit that it wakes the client with. -/
  toClient : Bool
  mCommandMQ : MessageQueue C 1
  mStatusMQ : MessageQueue S 1
  mStatus : S
  place : Place L
  memory : M
  /-- The commands that the client could put into the queue. -/
  sent : List C
  /-- Those that the thread has taken out. -/
  fetched : List C
  /-- The statuses at the end of the `switch`. -/
  composed : List S
  /-- Those that the client has taken out. -/
  received : List S
deriving DecidableEq, Repr

/-- A step of the client, of the owner, or of the thread. -/
inductive ThreadEvent (C H D : Type) where
  | command (c : C)
  | data (d : D)
  /-- The client wakes the thread. -/
  | wake
  /-- It takes a status. -/
  | status
  /-- Its own wait ends with the bit. -/
  | clear
  | stop
  | closeWake
  /-- The thread's wait ends without the bit. -/
  | interrupted
  | thread (h : H)
deriving DecidableEq, Repr

namespace StreamThread

variable {C S L M H D : Type}

/-- The thread that `prepareForWriting` or `prepareForReading` has run. -/
def started (memory : M) (mStatus : S) : StreamThread C S L M :=
  ⟨.no, false, false, .empty, .empty, mStatus, .test, memory, [], [], [], []⟩

/-- The next step of `threadLoop`. -/
def threadLoop (sw : Switch C S L M H D) (t : StreamThread C S L M) (h : H) : StreamThread C S L M :=
  match t.place with
  | .test => { t with place := if t.closing = .no then .wait else .ended }
  | .wait => if t.toThread then { t with toThread := false, place := .fetch } else t
  | .fetch =>
    match t.mCommandMQ.read 1 with
    | some ([c], q) =>
      { t with
        mCommandMQ := q
        mStatus := (sw.select c t.mStatus).1
        place := .case (sw.select c t.mStatus).2
        fetched := t.fetched ++ [c] }
    | _ => { t with place := .test }
  | .case l =>
    match sw.advance l h t.memory t.mStatus with
    | (memory, mStatus, some l) => { t with memory := memory, mStatus := mStatus, place := .case l }
    | (memory, mStatus, none) =>
      { t with memory := memory, mStatus := mStatus, place := .reply, composed := t.composed ++ [mStatus] }
  | .reply =>
    match t.mStatusMQ.write [t.mStatus] with
    | some q => { t with mStatusMQ := q, place := .wake }
    | none => { t with place := .wake }
  | .wake => { t with toClient := true, place := .test }
  | .ended => t

def step (sw : Switch C S L M H D) (t : StreamThread C S L M) : ThreadEvent C H D → StreamThread C S L M
  | .command c =>
    match t.mCommandMQ.write [c] with
    | some q => { t with mCommandMQ := q, sent := t.sent ++ [c] }
    | none => t
  | .data d => { t with memory := sw.client d t.memory }
  | .wake => { t with toThread := true }
  | .status =>
    match t.mStatusMQ.read 1 with
    | some (ss, q) => { t with mStatusMQ := q, received := t.received ++ ss }
    | none => t
  | .clear => { t with toClient := false }
  | .stop => if t.closing = .no then { t with closing := .stopped } else t
  | .closeWake => if t.closing = .stopped then { t with closing := .woken, toThread := true } else t
  | .interrupted =>
    match t.place with
    | .wait => { t with place := .test }
    | _ => t
  | .thread h => t.threadLoop sw h

/-- The turns of the thread. -/
def isThread : ThreadEvent C H D → Bool
  | .thread _ => true
  | _ => false

/-! ## What a turn does -/

/-- The outcomes of a turn of the thread. -/
inductive Turn (sw : Switch C S L M H D) (h : H) (t : StreamThread C S L M) : StreamThread C S L M → Prop where
  | stay (hp : t.place = .test) (hc : t.closing = .no) : Turn sw h t { t with place := .wait }
  | leave (hp : t.place = .test) (hc : t.closing ≠ .no) : Turn sw h t { t with place := .ended }
  | woken (hp : t.place = .wait) (hw : t.toThread = true) : Turn sw h t { t with toThread := false, place := .fetch }
  | blocked (hp : t.place = .wait) (hw : t.toThread = false) : Turn sw h t t
  | noCommand (hp : t.place = .fetch) (hq : t.mCommandMQ.entries = []) : Turn sw h t { t with place := .test }
  | fetched (c : C) (q : MessageQueue C 1) (hp : t.place = .fetch) (hq : t.mCommandMQ.entries = [c])
      (hq' : q.entries = []) :
      Turn sw h t
        { t with
          mCommandMQ := q
          mStatus := (sw.select c t.mStatus).1
          place := .case (sw.select c t.mStatus).2
          fetched := t.fetched ++ [c] }
  | advanced (l l' : L) (m : M) (s : S) (hp : t.place = .case l)
      (ha : sw.advance l h t.memory t.mStatus = (m, s, some l')) :
      Turn sw h t { t with memory := m, mStatus := s, place := .case l' }
  | finished (l : L) (m : M) (s : S) (hp : t.place = .case l)
      (ha : sw.advance l h t.memory t.mStatus = (m, s, none)) :
      Turn sw h t { t with memory := m, mStatus := s, place := .reply, composed := t.composed ++ [s] }
  | posted (q : MessageQueue S 1) (hp : t.place = .reply) (hq : t.mStatusMQ.entries = [])
      (hq' : q.entries = [t.mStatus]) : Turn sw h t { t with mStatusMQ := q, place := .wake }
  | lost (hp : t.place = .reply) (hq : t.mStatusMQ.entries ≠ []) : Turn sw h t { t with place := .wake }
  | waked (hp : t.place = .wake) : Turn sw h t { t with toClient := true, place := .test }
  | ended (hp : t.place = .ended) : Turn sw h t t

theorem threadLoop_turn (sw : Switch C S L M H D) (h : H) (t : StreamThread C S L M) : Turn sw h t (t.threadLoop sw h) := by
  unfold threadLoop
  cases hp : t.place with
  | test =>
    dsimp only
    split
    · exact .stay hp ‹_›
    · exact .leave hp ‹_›
  | wait =>
    dsimp only
    cases hw : t.toThread with
    | true => exact .woken hp hw
    | false => exact .blocked hp hw
  | fetch =>
    dsimp only
    rcases t.mCommandMQ.read_one with ⟨hq, hr⟩ | ⟨c, q, hq, hr, hq'⟩
    · rw [hr]
      exact .noCommand hp hq
    · rw [hr]
      exact .fetched c q hp hq hq'
  | case l =>
    dsimp only
    split
    · rename_i m s l' ha
      exact .advanced l l' m s hp ha
    · rename_i m s ha
      exact .finished l m s hp ha
  | reply =>
    dsimp only
    rcases t.mStatusMQ.write_one t.mStatus with ⟨hq, q, hw, hq'⟩ | ⟨hq, hw⟩
    · rw [hw]
      exact .posted q hp hq hq'
    · rw [hw]
      exact .lost hp hq
  | wake => exact .waked hp
  | ended => exact .ended hp

end StreamThread

/-! ## Statuses in the order of the commands -/

/-- The statuses name their command: `replyTo` is set by `select`, and kept. -/
structure Switch.Answers {C S L M H D K : Type} (sw : Switch C S L M H D) (replyTo : S → K) (code : C → K) : Prop where
  select : ∀ c s, replyTo (sw.select c s).1 = code c
  advance : ∀ l h m s, replyTo (sw.advance l h m s).2.1 = replyTo s

theorem Switch.Answers.kept {C S L M H D K : Type} {sw : Switch C S L M H D} {replyTo : S → K} {code : C → K}
    (ha : sw.Answers replyTo code) {l : L} {h : H} {m m' : M} {s s' : S} {o : Option L}
    (hl : sw.advance l h m s = (m', s', o)) : replyTo s' = replyTo s := by
  have hk := ha.advance l h m s
  rwa [hl] at hk

namespace StreamThread

variable {C S L M H D K : Type} {sw : Switch C S L M H D} {replyTo : S → K} {code : C → K}

/-- The status that the `switch` is at work on. -/
def inCase (t : StreamThread C S L M) : List S :=
  match t.place with
  | .case _ => [t.mStatus]
  | _ => []

/-- The status behind the `switch` that is not in the queue yet. -/
def unposted (t : StreamThread C S L M) : List S :=
  match t.place with
  | .reply => [t.mStatus]
  | _ => []

/-- Every command that was sent is in the queue or was fetched, and the statuses
are for the commands fetched, one for each, in their order. -/
structure Ordered (replyTo : S → K) (code : C → K) (t : StreamThread C S L M) : Prop where
  sent : t.sent = t.fetched ++ t.mCommandMQ.entries
  answered : t.fetched.map code = (t.composed ++ t.inCase).map replyTo

theorem Ordered.fetched_length {t : StreamThread C S L M} (ho : t.Ordered replyTo code) :
    t.fetched.length = t.composed.length + t.inCase.length := by
  have h := congrArg List.length ho.answered
  simpa using h

theorem Ordered.sent_length {t : StreamThread C S L M} (ho : t.Ordered replyTo code) :
    t.sent.length = t.fetched.length + t.mCommandMQ.entries.length := by
  have h := congrArg List.length ho.sent
  simpa using h

theorem ordered_turn (ha : sw.Answers replyTo code) {h : H} {t t' : StreamThread C S L M} (ht : Turn sw h t t')
    (ho : t.Ordered replyTo code) : t'.Ordered replyTo code := by
  obtain ⟨hs, hf⟩ := ho
  cases ht with
  | stay hp hc => exact ⟨hs, by simpa [inCase, hp] using hf⟩
  | leave hp hc => exact ⟨hs, by simpa [inCase, hp] using hf⟩
  | woken hp hw => exact ⟨hs, by simpa [inCase, hp] using hf⟩
  | blocked hp hw => exact ⟨hs, hf⟩
  | noCommand hp hq => exact ⟨hs, by simpa [inCase, hp] using hf⟩
  | fetched c q hp hq hq' =>
    refine ⟨by simp [hs, hq, hq'], ?_⟩
    have hf' : t.fetched.map code = t.composed.map replyTo := by simpa [inCase, hp] using hf
    simp [inCase, hf', ha.select]
  | advanced l l' m s hp hl =>
    exact ⟨hs, by simpa [inCase, hp, ha.kept hl] using hf⟩
  | finished l m s hp hl =>
    exact ⟨hs, by simpa [inCase, hp, ha.kept hl] using hf⟩
  | posted q hp hq hq' => exact ⟨hs, by simpa [inCase, hp] using hf⟩
  | lost hp hq => exact ⟨hs, by simpa [inCase, hp] using hf⟩
  | waked hp => exact ⟨hs, by simpa [inCase, hp] using hf⟩
  | ended hp => exact ⟨hs, hf⟩

theorem ordered_step (ha : sw.Answers replyTo code) (t : StreamThread C S L M) (e : ThreadEvent C H D)
    (ho : t.Ordered replyTo code) : (t.step sw e).Ordered replyTo code := by
  obtain ⟨hs, hf⟩ := ho
  cases e with
  | command c =>
    unfold step
    dsimp only
    split
    · rename_i q hq
      exact ⟨by simp [hs, MessageQueue.write_eq_some hq], hf⟩
    · exact ⟨hs, hf⟩
  | status | stop | closeWake =>
    unfold step
    dsimp only
    split <;> exact ⟨hs, hf⟩
  | data _ | wake | clear => exact ⟨hs, hf⟩
  | interrupted =>
    unfold step
    dsimp only
    split
    · rename_i hp
      exact ⟨hs, by simpa [inCase, hp] using hf⟩
    · exact ⟨hs, hf⟩
  | thread h => exact ordered_turn ha (threadLoop_turn sw h t) ⟨hs, hf⟩

/-- A client that sends a command once it has the statuses of all before. -/
def Waits (t : StreamThread C S L M) : ThreadEvent C H D → Prop
  | .command _ => t.sent.length = t.received.length
  | _ => True

instance (t : StreamThread C S L M) : (e : ThreadEvent C H D) → Decidable (t.Waits e)
  | .command _ => inferInstanceAs (Decidable (_ = _))
  | .data _ | .wake | .status | .clear | .stop | .closeWake | .interrupted | .thread _ => inferInstanceAs (Decidable True)

/-- For such a client: no status is lost, and one command at most is open. -/
structure Kept (replyTo : S → K) (code : C → K) (t : StreamThread C S L M) : Prop where
  ordered : t.Ordered replyTo code
  composed : t.composed = t.received ++ t.mStatusMQ.entries ++ t.unposted
  open_le : t.sent.length ≤ t.received.length + 1

/-- With a second status in the queue two commands would be open. -/
theorem Kept.room {t : StreamThread C S L M} (hk : t.Kept replyTo code) (hp : t.place = .reply) :
    t.mStatusMQ.entries = [] := by
  have hsent := hk.ordered.sent_length
  have hfetched := hk.ordered.fetched_length
  have hcomposed := congrArg List.length hk.composed
  have hopen := hk.open_le
  simp only [List.length_append, unposted, hp, List.length_singleton] at hcomposed
  exact List.length_eq_zero_iff.1 (by omega)

theorem kept_turn (ha : sw.Answers replyTo code) {h : H} {t t' : StreamThread C S L M} (ht : Turn sw h t t')
    (hk : t.Kept replyTo code) : t'.Kept replyTo code := by
  refine ⟨ordered_turn ha ht hk.ordered, ?_, ?_⟩
  · have hc := hk.composed
    cases ht with
    | finished l m s hp hl => simp [hc, unposted, hp]
    | posted q hp hq hq' => simp [hc, unposted, hp, hq, hq']
    | lost hp hq => exact absurd (hk.room hp) hq
    | blocked hp hw => exact hc
    | ended hp => exact hc
    | stay hp | leave hp | woken hp | noCommand hp | fetched _ _ hp | advanced _ _ _ _ hp | waked hp =>
      simpa [unposted, hp] using hc
  · cases ht <;> exact hk.open_le

theorem kept_step (ha : sw.Answers replyTo code) (t : StreamThread C S L M) (e : ThreadEvent C H D)
    (hk : t.Kept replyTo code) (hw : t.Waits e) : (t.step sw e).Kept replyTo code := by
  have hordered := ordered_step ha t e hk.ordered
  cases e with
  | command c =>
    refine ⟨hordered, ?_, ?_⟩
    · unfold step
      dsimp only
      split <;> exact hk.composed
    · unfold step
      dsimp only
      split
      · have hsent : t.sent.length = t.received.length := hw
        simp [hsent]
      · exact hk.open_le
  | data _ | wake | clear => exact ⟨hordered, hk.composed, hk.open_le⟩
  | status =>
    refine ⟨hordered, ?_, ?_⟩
    · unfold step
      dsimp only
      split
      · rename_i ss q hq
        simp [hk.composed, (MessageQueue.read_eq_some hq).2, unposted]
      · exact hk.composed
    · have hopen := hk.open_le
      unfold step
      dsimp only
      split
      · simp only [List.length_append]
        omega
      · exact hopen
  | stop | closeWake =>
    refine ⟨hordered, ?_, ?_⟩ <;> unfold step <;> dsimp only <;> split
    · exact hk.composed
    · exact hk.composed
    · exact hk.open_le
    · exact hk.open_le
  | interrupted =>
    refine ⟨hordered, ?_, ?_⟩ <;> unfold step <;> dsimp only <;> split
    · rename_i hp
      simpa [unposted, hp] using hk.composed
    · exact hk.composed
    · exact hk.open_le
    · exact hk.open_le
  | thread h => exact kept_turn ha (threadLoop_turn sw h t) hk

theorem kept_started (memory : M) (mStatus : S) : (started memory mStatus : StreamThread C S L M).Kept replyTo code :=
  ⟨⟨rfl, rfl⟩, rfl, Nat.zero_le _⟩

theorem kept_run (ha : sw.Answers replyTo code) (memory : M) (mStatus : S) {es : List (ThreadEvent C H D)}
    (hw : Runs.Along (step sw) Waits (started memory mStatus) es) :
    (Runs.run (step sw) (started memory mStatus) es).Kept replyTo code := by
  have hall : Runs.Always (step sw) (Kept replyTo code) (started memory mStatus) es :=
    Runs.always_of_along (fun t e hk he => kept_step ha t e hk he) (fun _ hk => hk) (kept_started memory mStatus) hw
  exact Runs.always_iff.1 hall es [] (List.append_nil es).symm

/-- What such a client has received answers its commands one by one. -/
theorem Kept.replies {t : StreamThread C S L M} (hk : t.Kept replyTo code) :
    t.received.map replyTo = (t.sent.map code).take t.received.length := by
  rw [hk.ordered.sent, List.map_append, hk.ordered.answered, hk.composed]
  simp

/-- With an answer to each command no status is on its way. -/
theorem Kept.idle {t : StreamThread C S L M} (hk : t.Kept replyTo code) (hidle : t.sent.length = t.received.length) :
    t.composed = t.received := by
  have hsent := hk.ordered.sent_length
  have hfetched := hk.ordered.fetched_length
  have hlen := congrArg List.length hk.composed
  simp only [List.length_append] at hlen
  have hqueue : t.mStatusMQ.entries = [] := by
    apply List.length_eq_zero_iff.1
    omega
  have hunposted : t.unposted = [] := by
    apply List.length_eq_zero_iff.1
    omega
  rw [hk.composed, hqueue, hunposted]
  simp

end StreamThread

/-! ## The end of the thread -/

/-- A case ends: each of its steps lowers the rank of its place. -/
structure Switch.Bounded {C S L M H D : Type} (sw : Switch C S L M H D) (rank : L → Nat) (bound : Nat) : Prop where
  select : ∀ c s, rank (sw.select c s).2 ≤ bound
  advance : ∀ l h m s l', (sw.advance l h m s).2.2 = some l' → rank l' < rank l

namespace StreamThread

variable {C S L M H D : Type} {sw : Switch C S L M H D} {rank : L → Nat} {bound : Nat}

/-- The thread is where a run can bring it. -/
structure Placed (rank : L → Nat) (bound : Nat) (t : StreamThread C S L M) : Prop where
  rank_le : ∀ l, t.place = .case l → rank l ≤ bound
  /-- The wake-up of `close()` is not lost: it comes after the store to `mStop`. -/
  woken : t.closing = .woken → t.place = .wait → t.toThread = true
  running : t.place = .ended → t.closing ≠ .no

theorem placed_turn (hb : sw.Bounded rank bound) {h : H} {t t' : StreamThread C S L M} (ht : Turn sw h t t')
    (hp : t.Placed rank bound) : t'.Placed rank bound := by
  obtain ⟨hr, hw, he⟩ := hp
  cases ht with
  | stay _ hc => exact ⟨nofun, fun hcl => by simp [hc] at hcl, nofun⟩
  | leave _ hc => exact ⟨nofun, nofun, fun _ => hc⟩
  | woken => exact ⟨nofun, nofun, nofun⟩
  | blocked => exact ⟨hr, hw, he⟩
  | noCommand => exact ⟨nofun, nofun, nofun⟩
  | fetched c q =>
    refine ⟨fun l hl => ?_, nofun, nofun⟩
    obtain rfl : (sw.select c t.mStatus).2 = l := by simpa using hl
    exact hb.select c t.mStatus
  | advanced l l' m s hc ha =>
    refine ⟨fun l'' hl => ?_, nofun, nofun⟩
    obtain rfl : l' = l'' := by simpa using hl
    have hlt : rank l' < rank l := hb.advance l h t.memory t.mStatus l' (by rw [ha])
    have hle : rank l ≤ bound := hr l hc
    omega
  | finished => exact ⟨nofun, nofun, nofun⟩
  | posted => exact ⟨nofun, nofun, nofun⟩
  | lost => exact ⟨nofun, nofun, nofun⟩
  | waked => exact ⟨nofun, nofun, nofun⟩
  | ended => exact ⟨hr, hw, he⟩

theorem placed_step (hb : sw.Bounded rank bound) (t : StreamThread C S L M) (e : ThreadEvent C H D)
    (hp : t.Placed rank bound) : (t.step sw e).Placed rank bound := by
  obtain ⟨hr, hw, he⟩ := hp
  cases e with
  | command _ | status =>
    unfold step
    dsimp only
    split <;> exact ⟨hr, hw, he⟩
  | data _ | clear => exact ⟨hr, hw, he⟩
  | wake => exact ⟨hr, fun _ _ => rfl, he⟩
  | stop =>
    unfold step
    dsimp only
    split
    · exact ⟨hr, nofun, fun _ => nofun⟩
    · exact ⟨hr, hw, he⟩
  | closeWake =>
    unfold step
    dsimp only
    split
    · exact ⟨hr, fun _ _ => rfl, fun _ => nofun⟩
    · exact ⟨hr, hw, he⟩
  | interrupted =>
    unfold step
    dsimp only
    split
    · exact ⟨nofun, nofun, nofun⟩
    · exact ⟨hr, hw, he⟩
  | thread h => exact placed_turn hb (threadLoop_turn sw h t) ⟨hr, hw, he⟩

theorem placed_started {memory : M} {mStatus : S} :
    (started memory mStatus : StreamThread C S L M).Placed rank bound := by
  refine ⟨?_, ?_, ?_⟩ <;> simp [started]

theorem placed_run (hb : sw.Bounded rank bound) (memory : M) (mStatus : S) (es : List (ThreadEvent C H D)) :
    (Runs.run (step sw) (started memory mStatus) es).Placed rank bound :=
  Runs.run_inv (placed_step hb) placed_started es

/-- How many turns the thread is from its end, once `mStop` is set. -/
def toEnd (rank : L → Nat) (bound : Nat) : Place L → Nat
  | .ended => 0
  | .test => 1
  | .wake => 2
  | .reply => 3
  | .case l => rank l + 4
  | .fetch => bound + 5
  | .wait => bound + 6

theorem toEnd_le {t : StreamThread C S L M} (hp : t.Placed rank bound) : toEnd rank bound t.place ≤ bound + 6 := by
  cases h : t.place with
  | case l =>
    have hle : rank l ≤ bound := hp.rank_le l h
    simp only [toEnd]
    omega
  | _ => simp only [toEnd]; omega

theorem toEnd_turn (hb : sw.Bounded rank bound) {h : H} {t t' : StreamThread C S L M} (ht : Turn sw h t t')
    (hp : t.Placed rank bound) (hc : t.closing = .woken) : toEnd rank bound t'.place ≤ toEnd rank bound t.place - 1 := by
  cases ht with
  | stay _ hno => simp [hc] at hno
  | blocked hw hf => simp [hp.woken hc hw] at hf
  | fetched c q hf =>
    have hle : rank (sw.select c t.mStatus).2 ≤ bound := hb.select c t.mStatus
    simp only [toEnd, hf]
    omega
  | advanced l l' m s hl ha =>
    have hlt : rank l' < rank l := hb.advance l h t.memory t.mStatus l' (by rw [ha])
    simp only [toEnd, hl]
    omega
  | leave hpl | woken hpl | noCommand hpl | finished _ _ _ hpl | posted _ hpl | lost hpl | waked hpl | ended hpl =>
    simp [toEnd, hpl]

variable (sw) in
/-- The steps of the others leave the thread where it is, or end its wait. -/
theorem step_place (t : StreamThread C S L M) {e : ThreadEvent C H D} (he : isThread e = false) :
    (t.step sw e).place = t.place ∨ e = .interrupted ∧ t.place = .wait ∧ (t.step sw e).place = .test := by
  cases e with
  | command _ | status | stop | closeWake =>
    left
    unfold step
    dsimp only
    split <;> rfl
  | interrupted =>
    unfold step
    dsimp only
    split
    · exact .inr ⟨rfl, ‹_›, rfl⟩
    · exact .inl rfl
  | data _ | wake | clear => exact .inl rfl
  | thread h => cases he

/-- `close()` is not undone. -/
theorem step_closing (t : StreamThread C S L M) (e : ThreadEvent C H D) :
    (t.closing = .woken → (t.step sw e).closing = .woken) ∧ (t.closing ≠ .no → (t.step sw e).closing ≠ .no) := by
  have hturn : ∀ h : H, (t.threadLoop sw h).closing = t.closing := by
    intro h
    have ht := threadLoop_turn sw h t
    generalize t.threadLoop sw h = t' at ht ⊢
    cases ht <;> rfl
  cases e with
  | thread h =>
    rw [step, hturn]
    exact ⟨id, id⟩
  | stop =>
    unfold step
    dsimp only
    split
    · rename_i hc
      exact ⟨fun h => by simp [hc] at h, fun _ => nofun⟩
    · exact ⟨id, id⟩
  | closeWake =>
    unfold step
    dsimp only
    split
    · exact ⟨fun _ => rfl, fun _ => nofun⟩
    · exact ⟨id, id⟩
  | command _ | status | interrupted =>
    unfold step
    dsimp only
    split <;> exact ⟨id, id⟩
  | data _ | wake | clear => exact ⟨id, id⟩

theorem toEnd_step (hb : sw.Bounded rank bound) {t : StreamThread C S L M} (hp : t.Placed rank bound)
    (hc : t.closing = .woken) (e : ThreadEvent C H D) :
    toEnd rank bound (t.step sw e).place ≤ toEnd rank bound t.place ∧
      (isThread e = true → toEnd rank bound (t.step sw e).place ≤ toEnd rank bound t.place - 1) := by
  cases he : isThread e with
  | true =>
    cases e with
    | thread h =>
      have hle := toEnd_turn hb (threadLoop_turn sw h t) hp hc
      exact ⟨Nat.le_trans hle (Nat.sub_le _ _), fun _ => hle⟩
    | _ => cases he
  | false =>
    refine ⟨?_, nofun⟩
    rcases step_place sw t he with hsame | ⟨-, hw, ht⟩
    · exact Nat.le_of_eq (by rw [hsame])
    · rw [hw, ht]
      simp only [toEnd]
      omega

/-- Once `close()` has woken it, the thread ends after so many turns of its own,
whatever the client does. -/
theorem ended_of_closed (hb : sw.Bounded rank bound) {t : StreamThread C S L M} (hp : t.Placed rank bound)
    (hc : t.closing = .woken) {es : List (ThreadEvent C H D)} (hes : bound + 6 ≤ es.countP isThread) :
    (Runs.run (step sw) t es).place = .ended := by
  have hmeasure : toEnd rank bound (Runs.run (step sw) t es).place ≤ toEnd rank bound t.place - es.countP isThread :=
    Runs.run_measure (C := fun _ => True) (J := fun t => t.Placed rank bound ∧ t.closing = .woken)
      (m := fun t => toEnd rank bound t.place)
      (fun t e h _ => ⟨placed_step hb t e h.1, (step_closing t e).1 h.2⟩)
      (fun t e h _ => (toEnd_step hb h.1 h.2 e).1) (fun t e h _ he => (toEnd_step hb h.1 h.2 e).2 he)
      ⟨hp, hc⟩ (fun _ _ => trivial)
  have hle := toEnd_le hp
  have hzero : toEnd rank bound (Runs.run (step sw) t es).place = 0 := by omega
  cases hpl : (Runs.run (step sw) t es).place with
  | ended => rfl
  | _ => simp [hpl, toEnd] at hzero

variable (sw) in
/-- The steps of the others fetch and compose nothing. -/
theorem step_history (t : StreamThread C S L M) {e : ThreadEvent C H D} (he : isThread e = false) :
    (t.step sw e).fetched = t.fetched ∧ (t.step sw e).composed = t.composed ∧ (t.step sw e).mStatus = t.mStatus := by
  cases e with
  | command _ | status | stop | closeWake | interrupted =>
    unfold step
    dsimp only
    split <;> exact ⟨rfl, rfl, rfl⟩
  | data _ | wake | clear => exact ⟨rfl, rfl, rfl⟩
  | thread h => cases he

variable (sw) in
/-- Of them only the client's use of the data changes the memory. -/
theorem step_memory (t : StreamThread C S L M) {e : ThreadEvent C H D} (he : isThread e = false) :
    (t.step sw e).memory = t.memory ∨ ∃ d, e = .data d ∧ (t.step sw e).memory = sw.client d t.memory := by
  cases e with
  | data d => exact .inr ⟨d, rfl, rfl⟩
  | command _ | status | stop | closeWake | interrupted =>
    left
    unfold step
    dsimp only
    split <;> rfl
  | wake | clear => exact .inl rfl
  | thread h => cases he

/-- The command that the thread may still fetch without a look at `mStop`. -/
def mayFetch : Place L → Nat
  | .wait | .fetch => 1
  | _ => 0

/-- Once `mStop` is set, the thread takes one more command at most. -/
theorem fetched_le_of_stopped {t : StreamThread C S L M} (hc : t.closing ≠ .no) (es : List (ThreadEvent C H D)) :
    (Runs.run (step sw) t es).fetched.length ≤ t.fetched.length + 1 := by
  have hstart : t.closing ≠ .no ∧ t.fetched.length + mayFetch t.place ≤ t.fetched.length + 1 := by
    refine ⟨hc, ?_⟩
    cases t.place <;> simp [mayFetch]
  have hstep : ∀ (t' : StreamThread C S L M) (e : ThreadEvent C H D),
      t'.closing ≠ .no ∧ t'.fetched.length + mayFetch t'.place ≤ t.fetched.length + 1 →
        (t'.step sw e).closing ≠ .no ∧
          (t'.step sw e).fetched.length + mayFetch (t'.step sw e).place ≤ t.fetched.length + 1 := by
    rintro t' e ⟨hc', hle⟩
    refine ⟨(step_closing t' e).2 hc', ?_⟩
    cases he : isThread e with
    | false =>
      rw [(step_history sw t' he).1]
      rcases step_place sw t' he with hsame | ⟨-, hw, ht⟩
      · rwa [hsame]
      · rw [ht]
        simp only [mayFetch]
        omega
    | true =>
      cases e with
      | thread h =>
        have ht := threadLoop_turn sw h t'
        rw [step]
        generalize t'.threadLoop sw h = t'' at ht ⊢
        cases ht with
        | stay _ hno => exact absurd hno hc'
        | blocked | ended => exact hle
        | leave hp | woken hp | noCommand hp | fetched _ _ hp | advanced _ _ _ _ hp | finished _ _ _ hp | posted _ hp
            | lost hp | waked hp =>
          simp only [mayFetch, hp, List.length_append, List.length_singleton] at hle ⊢
          omega
      | _ => cases he
  have hle := (Runs.run_inv hstep hstart es).2
  omega

end StreamThread

/-! ## No wake-up is lost -/

namespace StreamThread

variable {C S L M H D K : Type} {sw : Switch C S L M H D} {replyTo : S → K} {code : C → K} {rank : L → Nat}
  {bound : Nat}

/-- A status that is not posted yet, or whose client is not woken yet. -/
def posting : Place L → Nat
  | .reply | .wake => 1
  | _ => 0

/-- The first `k` commands are served: their statuses were written to the queue, of
which a full one takes none, and the client was woken after each. -/
def Served (k : Nat) (t : StreamThread C S L M) : Prop := k + posting t.place ≤ t.composed.length

instance (k : Nat) (t : StreamThread C S L M) : Decidable (t.Served k) := inferInstanceAs (Decidable (_ ≤ _))

/-- The thread goes on, and its wait does not end early. -/
def Undisturbed : ThreadEvent C H D → Prop
  | .interrupted | .stop => False
  | _ => True

/-- The turns that are left before the first `k` commands are served, of which
`f` are fetched and `c` composed. -/
def due (rank : L → Nat) (bound k : Nat) (place : Place L) (f c : Nat) : Nat :=
  if k + posting place ≤ c then 0
  else if k ≤ f then
    match place with
    | .case l => rank l + 3
    | .reply => 2
    | .wake => 1
    | _ => 0
  else
    match place with
    | .fetch => bound + 4
    | .wait => bound + 5
    | .test => bound + 6
    | .wake => bound + 7
    | .reply => bound + 8
    | .case l => rank l + bound + 9
    | .ended => 0

/-- The thread runs, and is awake or will wake as long as one of the first `k`
commands is in the queue. -/
structure Awake (replyTo : S → K) (code : C → K) (rank : L → Nat) (bound k : Nat) (t : StreamThread C S L M) :
    Prop where
  ordered : t.Ordered replyTo code
  placed : t.Placed rank bound
  runs : t.closing = .no
  sent_le : k ≤ t.sent.length
  awake : t.fetched.length < k → t.toThread = true ∨ t.place = .fetch

theorem awake_turn (ha : sw.Answers replyTo code) (hb : sw.Bounded rank bound) {k : Nat} {h : H}
    {t t' : StreamThread C S L M} (ht : Turn sw h t t') (hk : t.Awake replyTo code rank bound k) :
    t'.Awake replyTo code rank bound k := by
  have hsent := hk.ordered.sent_length
  refine ⟨ordered_turn ha ht hk.ordered, placed_turn hb ht hk.placed, ?_, ?_, ?_⟩
  · cases ht <;> exact hk.runs
  · cases ht <;> exact hk.sent_le
  · have hle := hk.sent_le
    have hawake := hk.awake
    cases ht with
    | woken => exact fun _ => .inr rfl
    | blocked | ended => exact hawake
    | noCommand hp hq =>
      intro hlt
      have hlt : t.fetched.length < k := hlt
      rw [hq, List.length_nil] at hsent
      omega
    | fetched c q hp hq =>
      intro hlt
      rw [hq, List.length_singleton] at hsent
      rw [List.length_append, List.length_singleton] at hlt
      omega
    | stay hp | leave hp | advanced _ _ _ _ hp | finished _ _ _ hp | posted _ hp | lost hp | waked hp =>
      intro hlt
      simpa [hp] using hawake hlt

theorem due_turn (hb : sw.Bounded rank bound) {k : Nat} {h : H}
    {t t' : StreamThread C S L M} (ht : Turn sw h t t') (hk : t.Awake replyTo code rank bound k) :
    due rank bound k t'.place t'.fetched.length t'.composed.length ≤
      due rank bound k t.place t.fetched.length t.composed.length - 1 := by
  have hfetched := hk.ordered.fetched_length
  cases ht with
  | stay hp =>
    simp only [due, posting, hp]
    split_ifs <;> omega
  | leave hp hc => exact absurd hk.runs hc
  | woken hp =>
    simp only [due, posting, hp]
    split_ifs <;> omega
  | blocked hp hw =>
    -- asleep: the first `k` commands are fetched, hence served
    have hlt : ¬ t.fetched.length < k := fun hlt => by simpa [hp, hw] using hk.awake hlt
    simp only [inCase, hp, List.length_nil] at hfetched
    simp only [due, posting, hp]
    split_ifs <;> omega
  | noCommand hp =>
    have hlt : ¬ t.fetched.length < k := by
      have hsent := hk.ordered.sent_length
      have hle := hk.sent_le
      simp_all
    simp only [inCase, hp, List.length_nil] at hfetched
    simp only [due, posting, hp]
    split_ifs <;> omega
  | fetched c q hp hq =>
    have hle : rank (sw.select c t.mStatus).2 ≤ bound := hb.select c t.mStatus
    have hsent := hk.ordered.sent_length
    have hk' := hk.sent_le
    rw [hq, List.length_singleton] at hsent
    simp only [inCase, hp, List.length_nil] at hfetched
    simp only [due, posting, hp, List.length_append, List.length_singleton]
    split_ifs <;> omega
  | advanced l l' m s hp hl =>
    have hlt : rank l' < rank l := hb.advance l h t.memory t.mStatus l' (by rw [hl])
    simp only [due, posting, hp]
    split_ifs <;> omega
  | finished l m s hp hl =>
    simp only [inCase, hp, List.length_singleton] at hfetched
    simp only [due, posting, hp, List.length_append, List.length_singleton]
    split_ifs <;> omega
  | posted q hp | lost hp | waked hp =>
    simp only [inCase, hp, List.length_nil] at hfetched
    simp only [due, posting, hp]
    split_ifs <;> omega
  | ended hp => exact absurd hk.runs (hk.placed.running hp)

theorem awake_step (ha : sw.Answers replyTo code) (hb : sw.Bounded rank bound) {k : Nat} (t : StreamThread C S L M)
    (e : ThreadEvent C H D) (hk : t.Awake replyTo code rank bound k) (he : Undisturbed e) :
    (t.step sw e).Awake replyTo code rank bound k := by
  have hordered := ordered_step ha t e hk.ordered
  have hplaced := placed_step hb t e hk.placed
  cases e with
  | command c =>
    refine ⟨hordered, hplaced, ?_, ?_, ?_⟩ <;> unfold step <;> dsimp only <;> split
    · exact hk.runs
    · exact hk.runs
    · have hle := hk.sent_le
      simp only [List.length_append]
      omega
    · exact hk.sent_le
    · exact hk.awake
    · exact hk.awake
  | status =>
    refine ⟨hordered, hplaced, ?_, ?_, ?_⟩ <;> unfold step <;> dsimp only <;> split
    · exact hk.runs
    · exact hk.runs
    · exact hk.sent_le
    · exact hk.sent_le
    · exact hk.awake
    · exact hk.awake
  | closeWake =>
    have hsame : t.step sw (.closeWake : ThreadEvent C H D) = t := by simp [step, hk.runs]
    rwa [hsame]
  | data _ | clear => exact ⟨hordered, hplaced, hk.runs, hk.sent_le, hk.awake⟩
  | wake => exact ⟨hordered, hplaced, hk.runs, hk.sent_le, fun _ => .inl rfl⟩
  | thread h => exact awake_turn ha hb (threadLoop_turn sw h t) hk
  | stop | interrupted => cases he

theorem due_step (hb : sw.Bounded rank bound) {k : Nat} {t : StreamThread C S L M} {e : ThreadEvent C H D}
    (hk : t.Awake replyTo code rank bound k) (he : Undisturbed e) :
    due rank bound k (t.step sw e).place (t.step sw e).fetched.length (t.step sw e).composed.length ≤
        due rank bound k t.place t.fetched.length t.composed.length ∧
      (isThread e = true →
        due rank bound k (t.step sw e).place (t.step sw e).fetched.length (t.step sw e).composed.length ≤
          due rank bound k t.place t.fetched.length t.composed.length - 1) := by
  cases hturn : isThread e with
  | true =>
    cases e with
    | thread h =>
      have hle := due_turn hb (threadLoop_turn sw h t) hk
      exact ⟨Nat.le_trans hle (Nat.sub_le _ _), fun _ => hle⟩
    | _ => cases hturn
  | false =>
    have hplace : (t.step sw e).place = t.place := by
      rcases step_place sw t hturn with hsame | ⟨rfl, -, -⟩
      · exact hsame
      · cases he
    rw [hplace, (step_history sw t hturn).1, (step_history sw t hturn).2.1]
    exact ⟨Nat.le_refl _, nofun⟩

theorem due_le {k : Nat} {t : StreamThread C S L M} (hp : t.Placed rank bound) :
    due rank bound k t.place t.fetched.length t.composed.length ≤ 2 * bound + 9 := by
  cases h : t.place with
  | case l =>
    have hle : rank l ≤ bound := hp.rank_le l h
    simp only [due]
    split_ifs <;> omega
  | _ => simp only [due]; split_ifs <;> omega

/-- When no turn is due any more, the commands are served. -/
theorem served_of_due {k : Nat} {t : StreamThread C S L M} (hk : t.Awake replyTo code rank bound k)
    (hd : due rank bound k t.place t.fetched.length t.composed.length = 0) : t.Served k := by
  have hfetched := hk.ordered.fetched_length
  unfold Served
  cases hp : t.place with
  | ended => exact absurd hk.runs (hk.placed.running hp)
  | _ =>
    simp only [inCase, hp, List.length_nil, List.length_singleton] at hfetched
    simp only [due, posting, hp] at hd ⊢
    split_ifs at hd <;> omega

/-- A client that wakes the thread is answered: the commands in its queue by
then are served after so many turns, whatever it does meanwhile. -/
theorem served_of_wake (ha : sw.Answers replyTo code) (hb : sw.Bounded rank bound) (memory : M) (mStatus : S)
    (es es' : List (ThreadEvent C H D)) :
    let t := Runs.run (step sw) (started memory mStatus) es
    t.closing = .no → (∀ e ∈ es', Undisturbed e) → 2 * bound + 9 ≤ es'.countP isThread →
      (Runs.run (step sw) (t.step sw .wake) es').Served t.sent.length := by
  intro t hc hes hturns
  have hordered : t.Ordered replyTo code := Runs.run_inv (ordered_step ha) ⟨rfl, rfl⟩ es
  have hplaced : t.Placed rank bound := placed_run hb memory mStatus es
  have hawake : (t.step sw .wake).Awake replyTo code rank bound t.sent.length :=
    ⟨ordered_step ha t .wake hordered, placed_step hb t .wake hplaced, hc, Nat.le_refl _, fun _ => .inl rfl⟩
  let remaining (t' : StreamThread C S L M) : Nat :=
    due rank bound t.sent.length t'.place t'.fetched.length t'.composed.length
  have hmeasure : remaining (Runs.run (step sw) (t.step sw .wake) es') ≤
      remaining (t.step sw .wake) - es'.countP isThread :=
    Runs.run_measure (C := Undisturbed) (J := fun t' => t'.Awake replyTo code rank bound t.sent.length)
      (m := remaining) (fun t' e h he => awake_step ha hb t' e h he) (fun _ _ h he => (due_step hb h he).1)
      (fun _ _ h he hturn => (due_step hb h he).2 hturn) hawake hes
  have hall : (Runs.run (step sw) (t.step sw .wake) es').Awake replyTo code rank bound t.sent.length := by
    have hkept : Runs.Always (step sw) (fun t' => t'.Awake replyTo code rank bound t.sent.length) (t.step sw .wake)
        es' :=
      Runs.always_of_along (C := fun _ => Undisturbed) (fun t' e h he => awake_step ha hb t' e h he)
        (fun _ h => h) hawake (Runs.along_forall_iff.2 hes)
    exact Runs.always_iff.1 hkept es' [] (List.append_nil es').symm
  have hle : remaining (t.step sw .wake) ≤ 2 * bound + 9 := due_le hawake.placed
  have hnone : remaining (Runs.run (step sw) (t.step sw .wake) es') = 0 := by omega
  exact served_of_due hall hnone

end StreamThread

end PhhTreble.AudioHal

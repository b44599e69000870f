import Mathlib.Data.List.Range
import PhhTreble.Lib.Polling
/-!
# PCM transfer

`OutWritePcmData` and `InReadPcmData` of `BluetoothAudioSession`, which are the
same loop in the AIDL and in the HIDL session. The lock is released between two
rounds, so that each finds a session and a `data_mq_` of its own.
-/

namespace PhhTreble.Audio
open Polling

def kFmqSendTimeoutMs : Nat := 1000
def kFmqReceiveTimeoutMs : Nat := 1000
def kWritePollMs : Nat := 1
def kReadPollMs : Nat := 1

/-- What a round finds: whether the session is ready, its queue, and whether the
queue takes part in a transfer of what is available. -/
structure Poll (Q : Type) where
  ready : Bool
  queue : Q
  ok : Bool
deriving DecidableEq, Repr

/-- The locals of the loop, with what the transfers have done so far. -/
structure Transfer (M : Type) where
  total : Nat
  timeout_ms : Nat
  moved : M
deriving DecidableEq, Repr

namespace Transfer

variable {M Q : Type}

/-- The condition of the `do … while`. -/
def endRound (bytes : Nat) (t : Transfer M) : Round (Transfer M) (Transfer M) :=
  if t.total < bytes then .again t else .ended t

/-- A round. `available` is what the queue reports, and `move` transfers so many
bytes at an offset of the buffer. -/
def round (bytes poll_ms : Nat) (available : Q → Nat) (move : M → Q → Nat → Nat → M) (t : Transfer M) (p : Poll Q) :
    Round (Transfer M) (Transfer M) :=
  if !p.ready then .ended t
  else if available p.queue ≠ 0 then
    let num_bytes := if available p.queue > bytes - t.total then bytes - t.total else available p.queue
    if !p.ok then .ended t
    else endRound bytes { t with total := t.total + num_bytes, moved := move t.moved p.queue t.total num_bytes }
  else if t.timeout_ms ≥ poll_ms then endRound bytes { t with timeout_ms := t.timeout_ms - poll_ms }
  else .ended t

/-- The loop, with rounds enough for it to end. -/
def transfer (bytes timeout_ms poll_ms : Nat) (available : Q → Nat) (move : M → Q → Nat → Nat → M) (moved : M)
    (schedule : Nat → Poll Q) : Option (Nat × Transfer M) :=
  loop (round bytes poll_ms available move) schedule (bytes + timeout_ms + 1) 0 ⟨0, timeout_ms, moved⟩

end Transfer

section
variable {B : Type}

/-- `size` bytes of the memory from `offset` on. -/
def slice (memory : Nat → B) (offset size : Nat) : List B := (List.range size).map fun i => memory (offset + i)

/-- The memory with the bytes `bs` from `offset` on. -/
def fill (memory : Nat → B) (offset : Nat) (bs : List B) : Nat → B :=
  fun i => if offset ≤ i then bs[i - offset]?.getD (memory i) else memory i

/-- The bytes put into the queue, one list for each write; a null pointer is
`none`. `schedule` says how many bytes are available to write. -/
def outWritePcmData (buffer : Option (Nat → B)) (bytes : Nat) (schedule : Nat → Poll Nat) :
    Option (Nat × Transfer (List (List B))) :=
  match buffer with
  | none => some (0, ⟨0, kFmqSendTimeoutMs, []⟩)
  | some buffer =>
    if bytes ≤ 0 then some (0, ⟨0, kFmqSendTimeoutMs, []⟩)
    else
      Transfer.transfer bytes kFmqSendTimeoutMs kWritePollMs id
        (fun put _ offset size => put ++ [slice buffer offset size]) [] schedule

/-- The buffer of a reader, and the bytes taken from the queue, one list for each read. -/
structure Received (B : Type) where
  buffer : Option (Nat → B)
  taken : List (List B)

/-- `schedule` has the bytes available to read. -/
def inReadPcmData (buffer : Option (Nat → B)) (bytes : Nat) (schedule : Nat → Poll (List B)) :
    Option (Nat × Transfer (Received B)) :=
  match buffer with
  | none => some (0, ⟨0, kFmqReceiveTimeoutMs, ⟨none, []⟩⟩)
  | some buffer =>
    if bytes ≤ 0 then some (0, ⟨0, kFmqReceiveTimeoutMs, ⟨some buffer, []⟩⟩)
    else
      Transfer.transfer bytes kFmqReceiveTimeoutMs kReadPollMs List.length
        (fun r queue offset size =>
          ⟨r.buffer.map (fill · offset (queue.take size)), r.taken ++ [queue.take size]⟩) ⟨some buffer, []⟩ schedule

/-! ## Memory -/

theorem slice_append (memory : Nat → B) (offset size size' : Nat) :
    slice memory offset size ++ slice memory (offset + size) size' = slice memory offset (size + size') := by
  simp [slice, List.range_add, Nat.add_assoc]

@[simp] theorem fill_nil (memory : Nat → B) (offset : Nat) : fill memory offset [] = memory := by
  funext i
  simp [fill]

/-- Filled in two parts. -/
theorem fill_append (memory : Nat → B) (offset : Nat) (bs bs' : List B) :
    fill (fill memory offset bs) (offset + bs.length) bs' = fill memory offset (bs ++ bs') := by
  funext i
  unfold fill
  by_cases hlt : i < offset + bs.length
  · rw [if_neg (Nat.not_le.2 hlt)]
    by_cases hle : offset ≤ i
    · rw [if_pos hle, if_pos hle, List.getElem?_append_left (by omega)]
    · rw [if_neg hle, if_neg hle]
  · have hle : offset ≤ i := by omega
    rw [if_pos (Nat.not_lt.1 hlt), if_pos hle, if_pos hle, List.getElem?_append_right (by omega),
      List.getElem?_eq_none (by omega : bs.length ≤ i - offset), Nat.sub_sub]
    rfl

end

/-! ## The loop -/

namespace Transfer

variable {M Q : Type}

/-- A round ends the loop, or transfers up to what is available, or waits. -/
theorem round_cases {bytes : Nat} {t : Transfer M} (ht : t.total < bytes) (poll_ms : Nat) (available : Q → Nat)
    (move : M → Q → Nat → Nat → M) (p : Poll Q) :
    round bytes poll_ms available move t p = .ended t ∨
      (∃ size, 0 < size ∧ size ≤ available p.queue ∧ t.total + size ≤ bytes ∧
        round bytes poll_ms available move t p =
          endRound bytes { t with total := t.total + size, moved := move t.moved p.queue t.total size }) ∨
      (poll_ms ≤ t.timeout_ms ∧
        round bytes poll_ms available move t p = endRound bytes { t with timeout_ms := t.timeout_ms - poll_ms }) := by
  unfold round
  split
  · exact .inl rfl
  · split
    · dsimp only
      split
      · exact .inl rfl
      · refine .inr (.inl ⟨_, ?_, ?_, ?_, rfl⟩)
        all_goals split <;> omega
    · split
      · rename_i h
        exact .inr (.inr ⟨h, rfl⟩)
      · exact .inl rfl

theorem endRound_again {bytes : Nat} {t t' : Transfer M} (h : endRound bytes t = .again t') : t' = t ∧ t.total < bytes := by
  unfold endRound at h
  split at h
  · cases h
    exact ⟨rfl, ‹_›⟩
  · cases h

theorem endRound_ended {bytes : Nat} {t t' : Transfer M} (h : endRound bytes t = .ended t') : t' = t := by
  unfold endRound at h
  split at h
  · cases h
  · cases h
    rfl

/-- The loop before a round: with `J` of `k` transfers, and `rounds` behind it that
each transferred or waited. -/
def Going (bytes timeout_ms poll_ms : Nat) (J : Nat → Nat → M → Prop) (rounds : Nat) (t : Transfer M) : Prop :=
  t.total < bytes ∧ ∃ k waits, J t.total k t.moved ∧ waits * poll_ms + t.timeout_ms = timeout_ms ∧ rounds = waits + k

/-- The loop at its end. The last of its rounds need not transfer or wait. -/
def Ended (bytes timeout_ms poll_ms : Nat) (J : Nat → Nat → M → Prop) (rounds : Nat) (t : Transfer M) : Prop :=
  t.total ≤ bytes ∧ ∃ k waits, J t.total k t.moved ∧ waits * poll_ms ≤ timeout_ms ∧ rounds ≤ waits + k + 1

section
variable {bytes timeout_ms poll_ms : Nat} {available : Q → Nat} {move : M → Q → Nat → Nat → M} {J : Nat → Nat → M → Prop}
  (hmove : ∀ total k m queue size, J total k m → size ≤ available queue → total + size ≤ bytes →
    J (total + size) (k + 1) (move m queue total size))
include hmove

theorem round_again (hpoll : 0 < poll_ms) {rounds : Nat} {t t' : Transfer M} {p : Poll Q}
    (ht : Going bytes timeout_ms poll_ms J rounds t) (h : round bytes poll_ms available move t p = .again t') :
    (bytes - t'.total) + t'.timeout_ms < (bytes - t.total) + t.timeout_ms ∧
      Going bytes timeout_ms poll_ms J (rounds + 1) t' := by
  obtain ⟨hlt, k, waits, hj, hw, hr⟩ := ht
  rcases round_cases hlt poll_ms available move p with ho | ⟨size, hpos, hav, hle, ho⟩ | ⟨hp, ho⟩
  · rw [ho] at h
    cases h
  · obtain ⟨rfl, hlt'⟩ := endRound_again (ho.symm.trans h)
    dsimp only at hlt' ⊢
    refine ⟨by omega, hlt', k + 1, waits, hmove _ _ _ _ _ hj hav hle, hw, by omega⟩
  · obtain ⟨rfl, hlt'⟩ := endRound_again (ho.symm.trans h)
    dsimp only at hlt' ⊢
    refine ⟨by omega, hlt', k, waits + 1, hj, ?_, by omega⟩
    dsimp only
    rw [Nat.add_one_mul]
    omega

theorem round_ended {rounds : Nat} {t t' : Transfer M} {p : Poll Q} (ht : Going bytes timeout_ms poll_ms J rounds t)
    (h : round bytes poll_ms available move t p = .ended t') : Ended bytes timeout_ms poll_ms J (rounds + 1) t' := by
  obtain ⟨hlt, k, waits, hj, hw, hr⟩ := ht
  rcases round_cases hlt poll_ms available move p with ho | ⟨size, hpos, hav, hle, ho⟩ | ⟨hp, ho⟩
  · cases ho.symm.trans h
    exact ⟨hlt.le, k, waits, hj, by omega, by omega⟩
  · obtain rfl := endRound_ended (ho.symm.trans h)
    exact ⟨hle, k + 1, waits, hmove _ _ _ _ _ hj hav hle, by omega, by omega⟩
  · obtain rfl := endRound_ended (ho.symm.trans h)
    exact ⟨hlt.le, k, waits, hj, by omega, by omega⟩

/-- The loop ends, whatever it finds. -/
theorem transfer_spec (hpoll : 0 < poll_ms) (hbytes : 0 < bytes) {moved : M} (h0 : J 0 0 moved)
    (schedule : Nat → Poll Q) : ∃ rounds t, transfer bytes timeout_ms poll_ms available move moved schedule =
      some (rounds, t) ∧ Ended bytes timeout_ms poll_ms J rounds t := by
  apply loop_spec (fun t => (bytes - t.total) + t.timeout_ms) (Going bytes timeout_ms poll_ms J)
  · intro rounds t p t' ht h
    exact round_again hmove hpoll ht h
  · intro rounds t p t' ht h
    exact round_ended hmove ht h
  · exact ⟨hbytes, 0, 0, h0, by simp, rfl⟩
  · simp

end

/-- An empty queue is polled at each timeout down to 0. -/
theorem loop_empty {bytes : Nat} (available : Q → Nat) (move : M → Q → Nat → Nat → M) {p : Poll Q}
    (hready : p.ready = true) (hempty : available p.queue = 0) {fuel i : Nat} {t : Transfer M} (ht : t.total < bytes)
    (hfuel : t.timeout_ms < fuel) :
    loop (round bytes 1 available move) (fun _ => p) fuel i t =
      some (i + t.timeout_ms + 1, { t with timeout_ms := 0 }) := by
  induction fuel generalizing i t with
  | zero => exact absurd hfuel (Nat.not_lt_zero _)
  | succ fuel ih =>
    have hround : round bytes 1 available move t p =
        if 1 ≤ t.timeout_ms then .again { t with timeout_ms := t.timeout_ms - 1 } else .ended t := by
      simp [round, endRound, hready, hempty, ht]
    rw [loop, hround]
    obtain ⟨total, timeout_ms, moved⟩ := t
    cases timeout_ms with
    | zero => rfl
    | succ timeout_ms =>
      rw [if_pos (Nat.le_add_left 1 timeout_ms)]
      have hfuel' : timeout_ms < fuel := Nat.lt_of_succ_lt_succ hfuel
      refine (ih (t := ⟨total, timeout_ms, moved⟩) ht hfuel').trans ?_
      have hrounds : i + 1 + timeout_ms = i + (timeout_ms + 1) := by omega
      rw [hrounds]

end Transfer

/-! ## The two directions -/

section
variable {B : Type}

/-- The first bytes of a buffer; a null pointer has none. -/
def firstBytes : Option (Nat → B) → Nat → List B
  | none, _ => []
  | some memory, n => slice memory 0 n

/-- `k` writes have put the first `total` bytes into the queues. -/
def Sent (memory : Nat → B) (total k : Nat) (put : List (List B)) : Prop :=
  put.length = k ∧ put.flatten = slice memory 0 total

/-- The `total` bytes of `k` reads are at the start of the buffer. -/
def Filled (memory : Nat → B) (total k : Nat) (r : Received B) : Prop :=
  r.taken.length = k ∧ r.taken.flatten.length = total ∧ r.buffer = some (fill memory 0 r.taken.flatten)

theorem Sent.write {memory : Nat → B} {total k : Nat} {put : List (List B)} (h : Sent memory total k put) (size : Nat) :
    Sent memory (total + size) (k + 1) (put ++ [slice memory total size]) := by
  obtain ⟨rfl, hput⟩ := h
  refine ⟨by simp, ?_⟩
  rw [List.flatten_concat, hput, ← slice_append, Nat.zero_add]

theorem Filled.read {memory : Nat → B} {total k : Nat} {r : Received B} (h : Filled memory total k r) (bs : List B) :
    Filled memory (total + bs.length) (k + 1) ⟨r.buffer.map (fill · total bs), r.taken ++ [bs]⟩ := by
  obtain ⟨rfl, rfl, hr⟩ := h
  refine ⟨by simp, by simp, ?_⟩
  have happend := fill_append memory 0 r.taken.flatten bs
  rw [Nat.zero_add] at happend
  rw [List.flatten_concat, ← happend, hr]
  rfl

theorem outWritePcmData_spec (buffer : Option (Nat → B)) (bytes : Nat) (schedule : Nat → Poll Nat) :
    ∃ rounds t, outWritePcmData buffer bytes schedule = some (rounds, t) ∧ t.total ≤ bytes ∧
      t.moved.flatten = firstBytes buffer t.total ∧ rounds ≤ 1001 + t.moved.length := by
  cases buffer with
  | none => exact ⟨0, _, rfl, Nat.zero_le _, rfl, Nat.zero_le _⟩
  | some memory =>
    unfold outWritePcmData
    dsimp only
    split
    · exact ⟨0, _, rfl, Nat.zero_le _, rfl, Nat.zero_le _⟩
    · rename_i hbytes
      have hwrite : ∀ (total k : Nat) (put : List (List B)) (queue size : Nat), Sent memory total k put →
          size ≤ id queue → total + size ≤ bytes → Sent memory (total + size) (k + 1) (put ++ [slice memory total size]) :=
        fun total k put queue size hsent _ _ => hsent.write size
      have hstart : Sent memory 0 0 [] := ⟨rfl, rfl⟩
      obtain ⟨rounds, t, h, hle, k, waits, ⟨rfl, hflat⟩, hw, hr⟩ :=
        Transfer.transfer_spec hwrite Nat.one_pos (Nat.not_le.1 hbytes) hstart schedule
      refine ⟨rounds, t, h, hle, hflat, ?_⟩
      rw [Nat.mul_one, kFmqSendTimeoutMs] at hw
      omega

theorem inReadPcmData_spec (buffer : Option (Nat → B)) (bytes : Nat) (schedule : Nat → Poll (List B)) :
    ∃ rounds t, inReadPcmData buffer bytes schedule = some (rounds, t) ∧ t.total ≤ bytes ∧
      t.moved.taken.flatten.length = t.total ∧ t.moved.buffer = buffer.map (fill · 0 t.moved.taken.flatten) ∧
      rounds ≤ 1001 + t.moved.taken.length := by
  cases buffer with
  | none => exact ⟨0, _, rfl, Nat.zero_le _, rfl, rfl, Nat.zero_le _⟩
  | some memory =>
    unfold inReadPcmData
    dsimp only
    split
    · refine ⟨0, _, rfl, Nat.zero_le _, rfl, ?_, Nat.zero_le _⟩
      simp
    · rename_i hbytes
      have hread : ∀ (total k : Nat) (r : Received B) (queue : List B) (size : Nat), Filled memory total k r →
          size ≤ queue.length → total + size ≤ bytes → Filled memory (total + size) (k + 1)
            ⟨r.buffer.map (fill · total (queue.take size)), r.taken ++ [queue.take size]⟩ := by
        intro total k r queue size hr hav _
        have hfilled := hr.read (queue.take size)
        rwa [List.length_take, Nat.min_eq_left hav] at hfilled
      have hstart : Filled memory 0 0 ⟨some memory, []⟩ := ⟨rfl, rfl, by simp⟩
      obtain ⟨rounds, t, h, hle, k, waits, ⟨rfl, hlen, hfill⟩, hw, hr⟩ :=
        Transfer.transfer_spec hread Nat.one_pos (Nat.not_le.1 hbytes) hstart schedule
      refine ⟨rounds, t, h, hle, hlen, hfill, ?_⟩
      rw [Nat.mul_one, kFmqReceiveTimeoutMs] at hw
      omega

/-- A transfer ends, after at most 1001 empty polls and a round for each
transfer, and has moved the first bytes of the buffer in order. -/
theorem pcmData_transfer (buffer : Option (Nat → B)) (bytes : Nat) :
    (∀ schedule, ∃ rounds t, outWritePcmData buffer bytes schedule = some (rounds, t) ∧ t.total ≤ bytes ∧
      t.moved.flatten = firstBytes buffer t.total ∧ rounds ≤ 1001 + t.moved.length) ∧
    (∀ schedule, ∃ rounds t, inReadPcmData buffer bytes schedule = some (rounds, t) ∧ t.total ≤ bytes ∧
      t.moved.taken.flatten.length = t.total ∧ t.moved.buffer = buffer.map (fill · 0 t.moved.taken.flatten) ∧
      rounds ≤ 1001 + t.moved.taken.length) :=
  ⟨outWritePcmData_spec buffer bytes, inReadPcmData_spec buffer bytes⟩

/-- A queue that stays empty is polled once more after the last of 1000 waits. -/
theorem pcmData_transfer_empty :
    ¬ ∀ schedule, ∃ rounds t, outWritePcmData (some fun _ => ()) 1 schedule = some (rounds, t) ∧
      rounds ≤ 1000 + t.moved.length := by
  intro h
  obtain ⟨rounds, t, ht, hle⟩ := h fun _ => ⟨true, 0, true⟩
  unfold outWritePcmData Transfer.transfer kFmqSendTimeoutMs kWritePollMs at ht
  dsimp only at ht
  have hfuel : (1000 : Nat) < 1 + 1000 + 1 := by omega
  rw [if_neg (Nat.not_le.2 Nat.one_pos),
    Transfer.loop_empty (t := ⟨0, 1000, []⟩) id _ rfl rfl Nat.one_pos hfuel, Option.some.injEq, Prod.mk.injEq] at ht
  obtain ⟨rfl, rfl⟩ := ht
  simp at hle

end

end PhhTreble.Audio

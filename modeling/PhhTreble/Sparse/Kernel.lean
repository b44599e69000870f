import Mathlib.Data.List.Basic
import Mathlib.Tactic.Linarith
/-!
# simg2img_simple and the kernel

The process reads a stream on stdin and writes to stdout. How much a call is
granted is up to the kernel, which answers by the position in the stream: every
call that succeeds moves on, so each position sees at most one `splice` and one
`read` of stdin and one `write` to stdout. The result of a function is the
process after it, or the code it exits with.
-/

namespace PhhTreble.Sparse

abbrev Bytes := List UInt8

/-- The kernel's answer to a call: -1, at most so many bytes, or all it can. -/
inductive Answer where
  | error
  | upTo (n : Nat)
  | full
deriving DecidableEq, Repr

/-- The bytes granted of `size`, with `none` for -1. -/
def Answer.grant (size : Nat) : Answer → Option Nat
  | error => none
  | upTo n => some (min n size)
  | full => some size

/-- Its answers to the `read`s and `splice`s of stdin and the `write`s to
stdout, by the bytes read or written before. -/
structure Kernel where
  read : Nat → Answer
  splice : Nat → Answer
  write : Nat → Answer

structure Proc where
  /-- What is left on stdin. -/
  stdin : Bytes
  /-- The bytes read so far. -/
  pos : Nat
  stdout : Bytes
  disable_splice : Bool
deriving DecidableEq, Repr

namespace Proc

/-- The process has taken the next `n` bytes of stdin. -/
def take (p : Proc) (n : Nat) : Proc := { p with stdin := p.stdin.drop n, pos := p.pos + n }

@[simp] theorem take_stdin (p : Proc) (n : Nat) : (p.take n).stdin = p.stdin.drop n := rfl
@[simp] theorem take_pos (p : Proc) (n : Nat) : (p.take n).pos = p.pos + n := rfl
@[simp] theorem take_stdout (p : Proc) (n : Nat) : (p.take n).stdout = p.stdout := rfl

end Proc

variable (k : Kernel)

/-- `read(0, buf, size)`. -/
def readStdin (p : Proc) (size : Nat) : Option Bytes × Proc :=
  match (k.read p.pos).grant (min size p.stdin.length) with
  | none => (none, p)
  | some n => (some (p.stdin.take n), p.take n)

/-- `splice(0, NULL, 1, NULL, size, 0)`. -/
def spliceStdin (p : Proc) (size : Nat) : Option Nat × Proc :=
  match (k.splice p.pos).grant (min size p.stdin.length) with
  | none => (none, p)
  | some n => (some n, { p.take n with stdout := p.stdout ++ p.stdin.take n })

/-- `if(write(1, buf, size) != size) exit(code)`. -/
def writeStdout (p : Proc) (buf : Bytes) (code : Nat) : Except Nat Proc :=
  if (k.write p.stdout.length).grant buf.length = some buf.length then .ok { p with stdout := p.stdout ++ buf }
  else .error code

/-- `if(read(0, buf, size) != size) exit(code)`. -/
def readExact (p : Proc) (size code : Nat) : Except Nat (Bytes × Proc) :=
  match readStdin k p size with
  | (some buf, p) => if buf.length = size then .ok (buf, p) else .error code
  | (none, _) => .error code

/-! ## nsendfile -/

/-- The splice of one turn, -1 when splicing is disabled. -/
def maySplice (p : Proc) (count : Nat) : Option Nat × Proc :=
  if p.disable_splice then (none, p) else spliceStdin k p count

/-- `if(count > 16*1024 && res < 1024) disable_splice = 1`. -/
def noteSplice (count : Nat) (res : Option Nat) (p : Proc) : Proc :=
  if count > 16 * 1024 ∧ ∀ n ∈ res, n < 1024 then { p with disable_splice := true } else p

def trySplice (p : Proc) (count : Nat) : Option Nat × Proc :=
  let (res, p) := maySplice k p count
  (res, noteSplice count res p)

/-- `nsendfile(1, 0, count)`. A `read` that fails makes the `write` of -1 bytes
fail as well, so that branch, like the end of the stream, exits with 112. -/
def nsendfile (count : Nat) (p : Proc) : Except Nat Proc :=
  if count = 0 then .ok p else
  match trySplice k p count with
  | (some res, p) => if res = 0 then .error 112 else nsendfile (count - res) p
  | (none, p) =>
    match readStdin k p (min count (1024 * 1024)) with
    | (none, _) => .error 112
    | (some buf, p) =>
      match writeStdout k p buf 114 with
      | .error code => .error code
      | .ok p => if buf.length = 0 then .error 112 else nsendfile (count - buf.length) p
termination_by count
decreasing_by all_goals omega

/-! ## Results in sequence -/

@[simp] theorem ok_bind {α β : Type} (a : α) (f : α → Except Nat β) : (Except.ok a >>= f) = f a := rfl

@[simp] theorem error_bind {α β : Type} (code : Nat) (f : α → Except Nat β) :
    ((.error code : Except Nat α) >>= f) = .error code := rfl

theorem bind_eq_ok {α β : Type} {x : Except Nat α} {f : α → Except Nat β} {b : β} :
    (x >>= f) = .ok b ↔ ∃ a, x = .ok a ∧ f a = .ok b := by
  cases x with
  | error code => simp
  | ok a => simp

/-! ## What the calls do -/

/-- `n` bytes went from stdin to stdout, in order. -/
structure Moved (p q : Proc) (n : Nat) : Prop where
  le : n ≤ p.stdin.length
  stdin : q.stdin = p.stdin.drop n
  pos : q.pos = p.pos + n
  stdout : q.stdout = p.stdout ++ p.stdin.take n

theorem Moved.zero {p q : Proc} (hin : q.stdin = p.stdin) (hpos : q.pos = p.pos) (hout : q.stdout = p.stdout) :
    Moved p q 0 := ⟨Nat.zero_le _, by simpa using hin, by simpa using hpos, by simpa using hout⟩

theorem Moved.trans {p q r : Proc} {a b : Nat} (h : Moved p q a) (h' : Moved q r b) : Moved p r (a + b) where
  le := by
    have := h'.le
    rw [h.stdin, List.length_drop] at this
    have := h.le
    omega
  stdin := by rw [h'.stdin, h.stdin, List.drop_drop]
  pos := by rw [h'.pos, h.pos, Nat.add_assoc]
  stdout := by rw [h'.stdout, h.stdout, h.stdin, List.append_assoc, List.take_add]

variable {k}

theorem grant_le {a : Answer} {size n : Nat} (h : a.grant size = some n) : n ≤ size := by
  cases a with
  | error => cases h
  | upTo m => simp only [Answer.grant, Option.some.injEq] at h; omega
  | full => simp only [Answer.grant, Option.some.injEq] at h; omega

theorem grant_pos {a : Answer} {size n : Nat} (h : a.grant size = some n) (ha : a ≠ .upTo 0) (hs : 0 < size) : 0 < n := by
  cases a with
  | error => cases h
  | upTo m =>
    simp only [Answer.grant, Option.some.injEq] at h
    have : m ≠ 0 := fun hm => ha (by rw [hm])
    omega
  | full => simp only [Answer.grant, Option.some.injEq] at h; omega

theorem readStdin_some {p q : Proc} {size : Nat} {buf : Bytes} (h : readStdin k p size = (some buf, q)) :
    buf = p.stdin.take buf.length ∧ buf.length ≤ size ∧ buf.length ≤ p.stdin.length ∧ q = p.take buf.length := by
  unfold readStdin at h
  split at h
  · cases h
  · rename_i n hn
    have := grant_le hn
    cases h
    rw [List.length_take, Nat.min_eq_left (by omega)]
    exact ⟨rfl, by omega, by omega, rfl⟩

theorem writeStdout_ok {p q : Proc} {buf : Bytes} {code : Nat} (h : writeStdout k p buf code = .ok q) :
    q = { p with stdout := p.stdout ++ buf } := by
  unfold writeStdout at h
  split at h
  · cases h; rfl
  · cases h

theorem readExact_ok {p q : Proc} {size code : Nat} {buf : Bytes} (h : readExact k p size code = .ok (buf, q)) :
    size ≤ p.stdin.length ∧ buf = p.stdin.take size ∧ q = p.take size := by
  unfold readExact at h
  split at h
  · rename_i buf' q' hr
    split at h
    · rename_i hlen
      cases h
      obtain ⟨h1, -, h3, h4⟩ := readStdin_some hr
      rw [hlen] at h1 h3 h4
      exact ⟨h3, h1, h4⟩
    · cases h
  · cases h

/-- A splice that succeeds moves what it reports, which is something unless the
stream has ended or the kernel grants nothing. -/
theorem maySplice_cases (k : Kernel) (p : Proc) (count : Nat) :
    maySplice k p count = (none, p) ∨ ∃ n q, maySplice k p count = (some n, q) ∧ n ≤ count ∧ Moved p q n ∧
      (k.splice p.pos ≠ .upTo 0 → 0 < min count p.stdin.length → 0 < n) := by
  unfold maySplice spliceStdin
  split
  · exact .inl rfl
  · split
    · exact .inl rfl
    · rename_i n hn
      have := grant_le hn
      exact .inr ⟨n, _, rfl, by omega, ⟨by omega, rfl, rfl, rfl⟩, fun ha hs => grant_pos hn ha hs⟩

/-- Setting `disable_splice` moves nothing. -/
theorem noteSplice_moved {p q : Proc} {n : Nat} (h : Moved p q n) (count : Nat) (res : Option Nat) :
    Moved p (noteSplice count res q) n := by
  unfold noteSplice
  split
  · exact ⟨h.le, h.stdin, h.pos, h.stdout⟩
  · exact h

theorem trySplice_some {p q : Proc} {count res : Nat} (h : trySplice k p count = (some res, q)) :
    res ≤ count ∧ Moved p q res ∧ (k.splice p.pos ≠ .upTo 0 → 0 < min count p.stdin.length → 0 < res) := by
  unfold trySplice at h
  obtain hs | ⟨n, p', hs, hle, hm, hpos⟩ := maySplice_cases k p count
  · rw [hs] at h
    cases h
  · rw [hs] at h
    cases h
    exact ⟨hle, noteSplice_moved hm _ _, hpos⟩

theorem trySplice_none {p q : Proc} {count : Nat} (h : trySplice k p count = (none, q)) : Moved p q 0 := by
  unfold trySplice at h
  obtain hs | ⟨n, p', hs, -, -, -⟩ := maySplice_cases k p count
  · rw [hs] at h
    have hq : noteSplice count none p = q := (Prod.mk.inj h).2
    rw [← hq]
    exact noteSplice_moved (.zero rfl rfl rfl) _ _
  · rw [hs] at h
    cases h

/-- `nsendfile` returns only after moving `count` bytes in order, whatever the kernel grants. -/
theorem nsendfile_ok {count : Nat} {p q : Proc} (h : nsendfile k count p = .ok q) : Moved p q count := by
  induction count using Nat.strong_induction_on generalizing p with
  | _ count ih =>
    rw [nsendfile] at h
    split at h
    · rename_i h0
      cases h
      rw [h0]
      exact .zero rfl rfl rfl
    · split at h
      · rename_i res p' hs
        obtain ⟨hle, hm, -⟩ := trySplice_some hs
        split at h
        · cases h
        · rw [← Nat.add_sub_cancel' hle]
          exact hm.trans (ih (count - res) (by omega) h)
      · rename_i p' hs
        have hz := trySplice_none hs
        split at h
        · cases h
        · rename_i buf p'' hr
          obtain ⟨hbuf, hle, hle', rfl⟩ := readStdin_some hr
          split at h
          · cases h
          · rename_i p'' hw
            have hm : Moved p' p'' buf.length := by
              rw [writeStdout_ok hw]
              exact ⟨hle', rfl, rfl, by rw [← hbuf]; rfl⟩
            split at h
            · cases h
            · have hsum : 0 + (buf.length + (count - buf.length)) = count := by omega
              have := hz.trans (hm.trans (ih (count - buf.length) (by omega) h))
              rwa [hsum] at this

/-! ## A kernel that makes progress -/

/-- Every `read`, and every `splice` that succeeds, moves on while there is
data, and a `write` to stdout completes. -/
structure Fair (k : Kernel) : Prop where
  read : ∀ pos, k.read pos ≠ .error ∧ k.read pos ≠ .upTo 0
  splice : ∀ pos, k.splice pos ≠ .upTo 0
  write : ∀ pos, k.write pos = .full

namespace Fair
variable (hk : Fair k)
include hk

theorem writeStdout_eq (p : Proc) (buf : Bytes) (code : Nat) :
    writeStdout k p buf code = .ok { p with stdout := p.stdout ++ buf } := by
  rw [writeStdout, hk.write]
  exact if_pos rfl

theorem readStdin_eq (p : Proc) (size : Nat) (h : 0 < min size p.stdin.length) :
    ∃ buf q, readStdin k p size = (some buf, q) ∧ 0 < buf.length := by
  obtain ⟨herr, hzero⟩ := hk.read p.pos
  cases hg : (k.read p.pos).grant (min size p.stdin.length) with
  | none =>
    cases ha : k.read p.pos with
    | error => exact absurd ha herr
    | upTo n => rw [ha] at hg; cases hg
    | full => rw [ha] at hg; cases hg
  | some n =>
    have hpos := grant_pos hg hzero h
    exact ⟨p.stdin.take n, p.take n, by rw [readStdin, hg], by rw [List.length_take]; omega⟩

/-- With a fair kernel `nsendfile` moves all the bytes that are there. -/
theorem nsendfile_total {count : Nat} {p : Proc} (h : count ≤ p.stdin.length) : ∃ q, nsendfile k count p = .ok q := by
  induction count using Nat.strong_induction_on generalizing p with
  | _ count ih =>
    rw [nsendfile]
    by_cases h0 : count = 0
    · exact ⟨p, by rw [if_pos h0]⟩
    · rw [if_neg h0]
      cases hs : trySplice k p count with
      | mk r p' =>
        cases r with
        | some res =>
          obtain ⟨hle, hm, hprog⟩ := trySplice_some hs
          have hpos := hprog (hk.splice p.pos) (by omega)
          obtain ⟨q, hq⟩ := ih (count - res) (by omega) (p := p') (by rw [hm.stdin, List.length_drop]; omega)
          exact ⟨q, by dsimp only; rw [if_neg (by omega), hq]⟩
        | none =>
          -- Splicing is off or has failed, so nothing has moved and the read decides.
          have hin : p'.stdin = p.stdin := by simpa using (trySplice_none hs).stdin
          obtain ⟨buf, p'', hr, hpos⟩ := hk.readStdin_eq p' (min count (1024 * 1024)) (by rw [hin]; omega)
          obtain ⟨-, hle, -, rfl⟩ := readStdin_some hr
          obtain ⟨q, hq⟩ := ih (count - buf.length) (by omega)
            (p := { p'.take buf.length with stdout := (p'.take buf.length).stdout ++ buf })
            (by simp only [Proc.take_stdin, hin, List.length_drop]; omega)
          exact ⟨q, by dsimp only; rw [hr]; dsimp only; rw [hk.writeStdout_eq]; dsimp only; rw [if_neg (by omega), hq]⟩

end Fair

end PhhTreble.Sparse

import PhhTreble.Sparse.Kernel
/-!
# How nsendfile ends

`nsendfile` turn by turn. A turn that does not exit moves some bytes of those
that remain, by `splice` or by `read` and `write`, so the loop ends after at most
`count` turns, and only when all the bytes have been moved.
-/

namespace PhhTreble.Sparse

variable (k : Kernel)

/-- The body of the loop: how many bytes it moved, or the code it exits with. -/
def turn (count : Nat) (p : Proc) : Except Nat (Nat × Proc) :=
  match trySplice k p count with
  | (some res, p) => if res = 0 then .error 112 else .ok (res, p)
  | (none, p) =>
    match readStdin k p (min count (1024 * 1024)) with
    | (none, _) => .error 112
    | (some buf, p) =>
      match writeStdout k p buf 114 with
      | .error code => .error code
      | .ok p => if buf.length = 0 then .error 112 else .ok (buf.length, p)

/-- `while(count)`, with so many turns left; `none` if it takes more. -/
def nsendfileLoop : Nat → Nat → Proc → Option (Except Nat Proc)
  | 0, _, _ => none
  | turns + 1, count, p =>
    if count = 0 then some (.ok p) else
    match turn k count p with
    | .error code => some (.error code)
    | .ok (res, p) => nsendfileLoop turns (count - res) p

/-- What `nsendfile` exits with: the input has ended or a call failed, or a
write was cut short. -/
def ExitCode (code : Nat) : Prop := code = 112 ∨ code = 114

variable {k}

theorem writeStdout_error {p : Proc} {buf : Bytes} {code code' : Nat} (h : writeStdout k p buf code = .error code') :
    code' = code := by
  unfold writeStdout at h
  split at h
  · cases h
  · cases h
    rfl

/-- A turn exits, or moves at least one byte and none too many. -/
theorem turn_cases (k : Kernel) (count : Nat) (p : Proc) :
    (∃ code, turn k count p = .error code ∧ ExitCode code) ∨
      ∃ res q, turn k count p = .ok (res, q) ∧ 0 < res ∧ res ≤ count ∧ Moved p q res := by
  unfold turn
  cases hs : trySplice k p count with
  | mk r p' =>
    cases r with
    | some res =>
      obtain ⟨hle, hm, -⟩ := trySplice_some hs
      dsimp only
      split
      · exact .inl ⟨112, rfl, .inl rfl⟩
      · exact .inr ⟨res, p', rfl, by omega, hle, hm⟩
    | none =>
      have hz := trySplice_none hs
      dsimp only
      cases hr : readStdin k p' (min count (1024 * 1024)) with
      | mk b p'' =>
        cases b with
        | none => exact .inl ⟨112, rfl, .inl rfl⟩
        | some buf =>
          obtain ⟨hbuf, hle, hle', rfl⟩ := readStdin_some hr
          dsimp only
          cases hw : writeStdout k (p'.take buf.length) buf 114 with
          | error code => exact .inl ⟨code, rfl, .inr (writeStdout_error hw)⟩
          | ok q =>
            have hm : Moved p' q buf.length := by
              rw [writeStdout_ok hw]
              exact ⟨hle', rfl, rfl, by rw [← hbuf]; rfl⟩
            have hmoved := hz.trans hm
            rw [Nat.zero_add] at hmoved
            dsimp only
            split
            · exact .inl ⟨112, rfl, .inl rfl⟩
            · exact .inr ⟨buf.length, q, rfl, by omega, by omega, hmoved⟩

/-- `nsendfile` is its first turn and the rest. -/
theorem nsendfile_eq_turn {count : Nat} (h : count ≠ 0) (p : Proc) :
    nsendfile k count p = (turn k count p).bind fun r => nsendfile k (count - r.1) r.2 := by
  rw [nsendfile, if_neg h, turn]
  cases trySplice k p count with
  | mk r p' =>
    cases r with
    | some res =>
      dsimp only
      split <;> rfl
    | none =>
      dsimp only
      cases readStdin k p' (min count (1024 * 1024)) with
      | mk b p'' =>
        cases b with
        | none => rfl
        | some buf =>
          dsimp only
          cases writeStdout k p'' buf 114 with
          | error code => rfl
          | ok q =>
            dsimp only
            split <;> rfl

/-- The loop ends within `count` turns and a last look at the condition. -/
theorem nsendfileLoop_eq {turns count : Nat} (h : count < turns) (p : Proc) :
    nsendfileLoop k turns count p = some (nsendfile k count p) := by
  induction turns generalizing count p with
  | zero => omega
  | succ turns ih =>
    rw [nsendfileLoop]
    by_cases h0 : count = 0
    · rw [if_pos h0, nsendfile, if_pos h0]
    · rw [if_neg h0, nsendfile_eq_turn h0]
      obtain ⟨code, ht, -⟩ | ⟨res, q, ht, hpos, hle, -⟩ := turn_cases k count p
      · rw [ht]
        rfl
      · rw [ht]
        exact ih (by omega) q

theorem nsendfile_error {count code : Nat} {p : Proc} (h : nsendfile k count p = .error code) : ExitCode code := by
  induction count using Nat.strong_induction_on generalizing p with
  | _ count ih =>
    by_cases h0 : count = 0
    · rw [nsendfile, if_pos h0] at h
      cases h
    · rw [nsendfile_eq_turn h0] at h
      obtain ⟨code', ht, hexit⟩ | ⟨res, q, ht, hpos, hle, -⟩ := turn_cases k count p
      · rw [ht] at h
        cases h
        exact hexit
      · rw [ht] at h
        exact ih (count - res) (by omega) h

/-- Whatever the kernel grants, the loop ends. It returns when exactly `count`
bytes have gone from one stream to the other in order; otherwise the process
exits with a code that is not zero. -/
theorem nsendfile_ends (k : Kernel) (count : Nat) (p : Proc) :
    (∀ turns > count, nsendfileLoop k turns count p = some (nsendfile k count p)) ∧
      ((∃ q, nsendfile k count p = .ok q ∧ Moved p q count) ∨
        ∃ code, nsendfile k count p = .error code ∧ ExitCode code) := by
  refine ⟨fun turns h => nsendfileLoop_eq h p, ?_⟩
  cases h : nsendfile k count p with
  | ok q => exact .inl ⟨q, rfl, nsendfile_ok h⟩
  | error code => exact .inr ⟨code, rfl, nsendfile_error h⟩

end PhhTreble.Sparse

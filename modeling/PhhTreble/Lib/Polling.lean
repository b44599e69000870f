/-!
# Loops that poll

A loop whose body asks its environment and goes round again or ends. What the
environment answers from one round to the next is the schedule, so a theorem
about every schedule holds whatever happens between two polls.
-/

namespace Polling

/-- How a round ends: the loop goes on with the state, or is over. -/
inductive Round (S R : Type) where
  | again (s : S)
  | ended (r : R)

variable {S A R : Type} (body : S → A → Round S R) (schedule : Nat → A)

/-- The loop with `i` rounds behind it: how many rounds it takes in all and its
result, `none` when the rounds run out before. -/
def loop : Nat → Nat → S → Option (Nat × R)
  | 0, _, _ => none
  | rounds + 1, i, s =>
    match body s (schedule i) with
    | .again s => loop rounds (i + 1) s
    | .ended r => some (i + 1, r)

variable {body schedule}

/-- The rule of the loop: a body that keeps `I` and lets `m` decrease ends, and
with `Q`. -/
theorem loop_spec (m : S → Nat) (I : Nat → S → Prop) (Q : Nat → R → Prop)
    (hagain : ∀ i s a s', I i s → body s a = .again s' → m s' < m s ∧ I (i + 1) s')
    (hended : ∀ i s a r, I i s → body s a = .ended r → Q (i + 1) r) {rounds i : Nat} {s : S} (h0 : I i s) (hm : m s < rounds) :
    ∃ j r, loop body schedule rounds i s = some (j, r) ∧ Q j r := by
  induction rounds generalizing i s with
  | zero => exact absurd hm (Nat.not_lt_zero _)
  | succ rounds ih =>
    cases hb : body s (schedule i) with
    | again s' =>
      obtain ⟨hlt, hI⟩ := hagain i s _ s' h0 hb
      obtain ⟨j, r, hr, hq⟩ := ih hI (by omega)
      refine ⟨j, r, ?_, hq⟩
      rw [loop, hb]
      exact hr
    | ended r =>
      refine ⟨i + 1, r, ?_, hended i s _ r h0 hb⟩
      rw [loop, hb]

end Polling

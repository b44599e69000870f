import PhhTreble.Lib.Runs
/-!
# Corrections of a stored setting

A system picks a value every time it comes up, and where what it has stored does
not match, it corrects the store. `Settled v` says that the store matches `v`.
If a correction settles the value it was made for and only a settled store of
another value needs the next one, corrections are at most one more than changes
of the value.
-/

namespace Settling

/-! ## Counting -/

/-- How often two consecutive values differ. -/
def changes {V : Type} [DecidableEq V] : List V → Nat
  | v :: w :: vs => changes (w :: vs) + if v = w then 0 else 1
  | _ => 0

@[simp] theorem changes_cons_self {V : Type} [DecidableEq V] (v : V) (vs : List V) :
    changes (v :: v :: vs) = changes (v :: vs) := by
  simp [changes]

theorem changes_cons_ne {V : Type} [DecidableEq V] {v w : V} (h : v ≠ w) (vs : List V) :
    changes (v :: w :: vs) = changes (w :: vs) + 1 := by
  simp [changes, h]

theorem changes_cons_le {V : Type} [DecidableEq V] (v : V) (vs : List V) : changes vs ≤ changes (v :: vs) := by
  cases vs with
  | nil => exact Nat.le_refl _
  | cons w vs => exact Nat.le_add_right _ _

variable {V St Ev : Type}

/-- The values picked. -/
def values (os : List (V × Bool)) : List V := os.map (·.1)

/-- The number of corrections. -/
def corrections (os : List (V × Bool)) : Nat := os.countP (·.2)

@[simp] theorem values_cons (o : V × Bool) (os : List (V × Bool)) : values (o :: os) = o.1 :: values os := rfl

@[simp] theorem corrections_cons_false (v : V) (os : List (V × Bool)) : corrections ((v, false) :: os) = corrections os := by
  simp [corrections]

@[simp] theorem corrections_cons_true (v : V) (os : List (V × Bool)) :
    corrections ((v, true) :: os) = corrections os + 1 := by
  simp [corrections]

/-! ## The bound -/

variable (step : St → Ev → St) (out : St → Ev → Option (V × Bool))

/-- The value picked, and whether the store was corrected, each time. -/
def picks : St → List Ev → List (V × Bool)
  | _, [] => []
  | s, e :: es => (out s e).toList ++ picks (step s e) es

/-- A correction is made for a value that was not settled, and settles it;
everything else leaves the store. -/
structure Settles (Settled : V → St → Prop) : Prop where
  settles : ∀ s e v, out s e = some (v, true) → Settled v (step s e)
  needed : ∀ s e v, out s e = some (v, true) → ¬ Settled v s
  stays : ∀ s e w, (∀ v, out s e ≠ some (v, true)) → Settled w s → Settled w (step s e)

variable {step out}

/-- From a store settled for `w`, a correction needs a change away from `w`. -/
theorem corrections_bound [DecidableEq V] {Settled : V → St → Prop} (h : Settles step out Settled) (s : St) (es : List Ev) :
    corrections (picks step out s es) ≤ 1 + changes (values (picks step out s es)) ∧
      ∀ w, Settled w s → corrections (picks step out s es) ≤ changes (w :: values (picks step out s es)) := by
  induction es generalizing s with
  | nil => exact ⟨Nat.zero_le _, fun _ _ => Nat.zero_le _⟩
  | cons e es ih =>
    obtain ⟨hany, hsettled⟩ := ih (step s e)
    rcases ho : out s e with _ | ⟨v, _ | _⟩
    · -- No value is picked, and the store stays.
      have hnone : ∀ v, out s e ≠ some (v, true) := by simp [ho]
      simp only [picks, ho, Option.toList_none, List.nil_append]
      exact ⟨hany, fun w hw => hsettled w (h.stays s e w hnone hw)⟩
    · -- A value without a correction: where another one is settled, it is a change.
      have hnone : ∀ v, out s e ≠ some (v, true) := by simp [ho]
      have hv := changes_cons_le v (values (picks step out (step s e) es))
      simp only [picks, ho, Option.toList_some, List.singleton_append, values_cons, corrections_cons_false]
      refine ⟨by omega, fun w hw => ?_⟩
      by_cases hwv : w = v
      · subst hwv
        rw [changes_cons_self]
        exact hsettled w (h.stays s e w hnone hw)
      · rw [changes_cons_ne hwv]
        omega
    · -- A correction: its value is settled after it, and was not before.
      have hv := hsettled v (h.settles s e v ho)
      simp only [picks, ho, Option.toList_some, List.singleton_append, values_cons, corrections_cons_true]
      refine ⟨by omega, fun w hw => ?_⟩
      have hwv : w ≠ v := by
        rintro rfl
        exact h.needed s e w ho hw
      rw [changes_cons_ne hwv]
      omega

/-- Corrections are at most one more than changes of the value. -/
theorem corrections_le [DecidableEq V] {Settled : V → St → Prop} (h : Settles step out Settled) (s : St) (es : List Ev) :
    corrections (picks step out s es) ≤ 1 + changes (values (picks step out s es)) :=
  (corrections_bound h s es).1

end Settling

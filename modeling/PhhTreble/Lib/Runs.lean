import Mathlib.Data.List.Basic
/-!
# Runs of a transition function

A system is a `step` on states and events; what its environment decides (a
failed call, a short read, which party acts next) is part of the event, so a
run is a list of events and the state it starts in. A theorem about every list
of events holds for every interleaving of the parties.

`Along` says something of every step of a run, `Always` of every state in it.
`along_congr` and `always_iff_along` lift an equivalence about one step to runs.
-/

namespace Runs

variable {St Ev : Type} (step : St → Ev → St)

/-- The state after the events of `es`, the first event first. -/
def run (s : St) (es : List Ev) : St := es.foldl step s

/-- `P` holds of every step of the run: of the state before it and its event. -/
def Along (P : St → Ev → Prop) : St → List Ev → Prop
  | _, [] => True
  | s, e :: es => P s e ∧ Along P (step s e) es

/-- `I` holds in every state of the run, its first state included. -/
def Always (I : St → Prop) : St → List Ev → Prop
  | s, [] => I s
  | s, e :: es => I s ∧ Always I (step s e) es

/-- How many steps of the run meet `T`. -/
def count (T : St → Ev → Bool) : St → List Ev → Nat
  | _, [] => 0
  | s, e :: es => (if T s e then 1 else 0) + count T (step s e) es

instance decidableAlong (P : St → Ev → Prop) [∀ s e, Decidable (P s e)] :
    ∀ (s : St) (es : List Ev), Decidable (Along step P s es)
  | _, [] => inferInstanceAs (Decidable True)
  | s, e :: es =>
    have := decidableAlong P (step s e) es
    inferInstanceAs (Decidable (P s e ∧ Along step P (step s e) es))

instance decidableAlways (I : St → Prop) [DecidablePred I] :
    ∀ (s : St) (es : List Ev), Decidable (Always step I s es)
  | s, [] => inferInstanceAs (Decidable (I s))
  | s, e :: es =>
    have := decidableAlways I (step s e) es
    inferInstanceAs (Decidable (I s ∧ Always step I (step s e) es))

@[simp] theorem run_nil (s : St) : run step s [] = s := rfl

@[simp] theorem run_cons (s : St) (e : Ev) (es : List Ev) : run step s (e :: es) = run step (step s e) es := rfl

theorem run_append (s : St) (es es' : List Ev) : run step s (es ++ es') = run step (run step s es) es' :=
  List.foldl_append

variable {step}

theorem Always.head {I : St → Prop} {s : St} {es : List Ev} (h : Always step I s es) : I s := by
  cases es with
  | nil => exact h
  | cons e es => exact h.1

theorem Along.mono {P Q : St → Ev → Prop} (h : ∀ s e, P s e → Q s e) {s : St} {es : List Ev} (hp : Along step P s es) :
    Along step Q s es := by
  induction es generalizing s with
  | nil => exact trivial
  | cons e es ih => exact ⟨h s e hp.1, ih hp.2⟩

theorem always_iff {I : St → Prop} {s : St} {es : List Ev} :
    Always step I s es ↔ ∀ pre post, es = pre ++ post → I (run step s pre) := by
  induction es generalizing s with
  | nil =>
    constructor
    · intro h pre post he
      obtain ⟨rfl, -⟩ := List.append_eq_nil_iff.1 he.symm
      exact h
    · intro h; exact h [] [] rfl
  | cons e es ih =>
    rw [Always, ih]
    constructor
    · rintro ⟨h0, h⟩ pre post he
      cases pre with
      | nil => exact h0
      | cons a pre => cases he; exact h pre post rfl
    · intro h
      exact ⟨h [] (e :: es) rfl, fun pre post he => h (e :: pre) post (by rw [he]; rfl)⟩

/-! ## From one step to a run -/

/-- An invariant of the steps holds after a run. -/
theorem run_inv {J : St → Prop} (hJ : ∀ s e, J s → J (step s e)) {s : St} (h0 : J s) (es : List Ev) :
    J (run step s es) := by
  induction es generalizing s with
  | nil => exact h0
  | cons e es ih => exact ih (hJ s e h0)

/-- What an invariant of the steps implies holds in every state. -/
theorem always_of_inv {J I : St → Prop} (hJ : ∀ s e, J s → J (step s e)) (hI : ∀ s, J s → I s) {s : St} (h0 : J s)
    (es : List Ev) : Always step I s es := by
  induction es generalizing s with
  | nil => exact hI s h0
  | cons e es ih => exact ⟨hI s h0, ih (hJ s e h0)⟩

/-- What an invariant of the steps implies of each step holds along every run. -/
theorem along_of_inv {J : St → Prop} {P : St → Ev → Prop} (hJ : ∀ s e, J s → J (step s e)) (hP : ∀ s e, J s → P s e)
    {s : St} (h0 : J s) (es : List Ev) : Along step P s es := by
  induction es generalizing s with
  | nil => exact trivial
  | cons e es ih => exact ⟨hP s e h0, ih (hJ s e h0)⟩

/-- What the steps with `C` keep holds in every state of a run of such steps. -/
theorem always_of_along {J I : St → Prop} {C : St → Ev → Prop} (hJ : ∀ s e, J s → C s e → J (step s e))
    (hI : ∀ s, J s → I s) {s : St} (h0 : J s) {es : List Ev} (h : Along step C s es) : Always step I s es := by
  induction es generalizing s with
  | nil => exact hI s h0
  | cons e es ih => exact ⟨hI s h0, ih (hJ s e h0 h.1) h.2⟩

/-- What the steps with `C` keep holds of every step of a run of such steps. -/
theorem along_of_along {J : St → Prop} {P C : St → Ev → Prop} (hJ : ∀ s e, J s → C s e → J (step s e))
    (hP : ∀ s e, J s → P s e) {s : St} (h0 : J s) {es : List Ev} (h : Along step C s es) : Along step P s es := by
  induction es generalizing s with
  | nil => exact trivial
  | cons e es ih => exact ⟨hP s e h0, ih (hJ s e h0 h.1) h.2⟩

/-- A property of the events alone. -/
theorem along_forall_iff {C : Ev → Prop} {es : List Ev} {s : St} : Along step (fun _ => C) s es ↔ ∀ e ∈ es, C e := by
  induction es generalizing s with
  | nil => exact iff_of_true trivial fun e he => absurd he List.not_mem_nil
  | cons e es ih => rw [Along, ih, List.forall_mem_cons]

/-- Two step properties that agree wherever the invariant `I` holds, which a
step with them keeps, agree on every run from such a state. -/
theorem along_congr_of {I : St → Prop} {P Q : St → Ev → Prop} (h : ∀ s e, I s → (P s e ↔ Q s e))
    (hI : ∀ s e, I s → Q s e → I (step s e)) {s : St} (h0 : I s) (es : List Ev) :
    Along step P s es ↔ Along step Q s es := by
  induction es generalizing s with
  | nil => exact Iff.rfl
  | cons e es ih =>
    simp only [Along]
    constructor
    · rintro ⟨hp, hps⟩
      have hq := (h s e h0).1 hp
      exact ⟨hq, (ih (hI s e h0 hq)).1 hps⟩
    · rintro ⟨hq, hqs⟩
      exact ⟨(h s e h0).2 hq, (ih (hI s e h0 hq)).2 hqs⟩

/-- The same for an invariant that every step keeps. -/
theorem along_congr {J : St → Prop} {P Q : St → Ev → Prop} (hJ : ∀ s e, J s → J (step s e))
    (h : ∀ s e, J s → (P s e ↔ Q s e)) {s : St} (h0 : J s) (es : List Ev) :
    Along step P s es ↔ Along step Q s es :=
  along_congr_of h (fun s e hs _ => hJ s e hs) h0 es

/-- If from a state with `J` and `I` a step meets `T` and ends in `I` exactly
when it meets `C`, then a run stays in `I` and meets `T` exactly when all its
steps meet `C`. -/
theorem always_iff_along {J I : St → Prop} {T C : St → Ev → Prop} (hJ : ∀ s e, J s → J (step s e))
    (h : ∀ s e, J s → I s → (I (step s e) ∧ T s e ↔ C s e)) {s : St} (hj : J s) (h0 : I s) (es : List Ev) :
    Always step I s es ∧ Along step T s es ↔ Along step C s es := by
  induction es generalizing s with
  | nil => exact ⟨fun _ => trivial, fun _ => ⟨h0, trivial⟩⟩
  | cons e es ih =>
    simp only [Always, Along]
    constructor
    · rintro ⟨⟨-, ha⟩, ht, hts⟩
      have hi : I (step s e) := ha.head
      exact ⟨(h s e hj h0).1 ⟨hi, ht⟩, (ih (hJ s e hj) hi).1 ⟨ha, hts⟩⟩
    · rintro ⟨hc, hcs⟩
      obtain ⟨hi, ht⟩ := (h s e hj h0).2 hc
      obtain ⟨ha, hts⟩ := (ih (hJ s e hj) hi).2 hcs
      exact ⟨⟨h0, ha⟩, ht, hts⟩

/-- A measure that no step raises, and that each step with `T` lowers. -/
theorem run_measure_count {J : St → Prop} {C : Ev → Prop} {m : St → Nat} {T : St → Ev → Bool}
    (hJ : ∀ s e, J s → C e → J (step s e)) (hle : ∀ s e, J s → C e → m (step s e) ≤ m s)
    (hlt : ∀ s e, J s → C e → T s e = true → m (step s e) ≤ m s - 1) {s : St} (h0 : J s) {es : List Ev}
    (hC : ∀ e ∈ es, C e) : m (run step s es) ≤ m s - count step T s es := by
  induction es generalizing s with
  | nil => exact Nat.le_refl _
  | cons e es ih =>
    rw [List.forall_mem_cons] at hC
    have hrest := ih (hJ s e h0 hC.1) hC.2
    rw [run_cons, count]
    cases he : T s e with
    | true =>
      have hstep := hlt s e h0 hC.1 he
      rw [if_pos rfl]
      omega
    | false =>
      have hstep := hle s e h0 hC.1
      rw [if_neg Bool.false_ne_true]
      omega

/-- A property of the events alone. -/
theorem count_event (turn : Ev → Bool) (s : St) (es : List Ev) : count step (fun _ => turn) s es = es.countP turn := by
  induction es generalizing s with
  | nil => rfl
  | cons e es ih =>
    rw [count, ih, List.countP_cons, Nat.add_comm]

/-- The same of the turns of some party. -/
theorem run_measure {J : St → Prop} {C : Ev → Prop} {m : St → Nat} {turn : Ev → Bool}
    (hJ : ∀ s e, J s → C e → J (step s e)) (hle : ∀ s e, J s → C e → m (step s e) ≤ m s)
    (hturn : ∀ s e, J s → C e → turn e = true → m (step s e) ≤ m s - 1) {s : St} (h0 : J s) {es : List Ev}
    (hC : ∀ e ∈ es, C e) : m (run step s es) ≤ m s - es.countP turn := by
  rw [← @count_event St Ev step turn s es]
  exact run_measure_count (T := fun _ => turn) hJ hle hturn h0 hC

end Runs

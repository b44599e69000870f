import Mathlib.Data.List.Basic
/-!
# Loops that may throw

A loop whose body throws nothing on the elements it meets is the loop without
exceptions.
-/

namespace Throwing

variable {α β ε : Type}

theorem filterMapM_ok {f : α → Except ε (Option β)} {g : α → Option β} {l : List α} (h : ∀ a ∈ l, f a = .ok (g a)) :
    l.filterMapM f = .ok (l.filterMap g) := by
  induction l with
  | nil => rfl
  | cons a l ih =>
    rw [List.forall_mem_cons] at h
    rw [List.filterMapM_cons, h.1, ih h.2]
    cases hg : g a with
    | none =>
      rw [List.filterMap_cons_none hg]
      rfl
    | some b =>
      rw [List.filterMap_cons_some hg]
      rfl

/-- A loop that returns has thrown nothing on the way. -/
theorem forall_ok_of_filterMapM {f : α → Except ε (Option β)} {l : List α} {r : List β} (h : l.filterMapM f = .ok r) :
    ∀ a ∈ l, ∃ b, f a = .ok b := by
  induction l generalizing r with
  | nil =>
    intro a ha
    cases ha
  | cons a l ih =>
    rw [List.filterMapM_cons] at h
    cases hf : f a with
    | error e =>
      rw [hf] at h
      cases h
    | ok b =>
      rw [List.forall_mem_cons]
      refine ⟨⟨b, hf⟩, ?_⟩
      rw [hf] at h
      cases b with
      | none => exact ih h
      | some b =>
        cases hl : l.filterMapM f with
        | error e =>
          change (l.filterMapM f).bind (fun bs => Except.ok (b :: bs)) = _ at h
          rw [hl] at h
          cases h
        | ok bs => exact ih hl

theorem flatMapM_ok {f : α → Except ε (List β)} {g : α → List β} {l : List α} (h : ∀ a ∈ l, f a = .ok (g a)) :
    l.flatMapM f = .ok (l.flatMap g) := by
  induction l with
  | nil => rfl
  | cons a l ih =>
    rw [List.forall_mem_cons] at h
    rw [List.flatMapM_cons, h.1, ih h.2]
    rfl

theorem anyM_ok {f : α → Except ε Bool} {g : α → Bool} {l : List α} (h : ∀ a ∈ l, f a = .ok (g a)) :
    l.anyM f = .ok (l.any g) := by
  induction l with
  | nil => rfl
  | cons a l ih =>
    rw [List.forall_mem_cons] at h
    rw [List.anyM, h.1, List.any_cons]
    cases g a with
    | true => rfl
    | false => exact ih h.2

/-- A loop throws what its body throws on the first element. -/
theorem flatMapM_error {f : α → Except ε (List β)} {a : α} {e : ε} (h : f a = .error e) (l : List α) :
    (a :: l).flatMapM f = .error e := by
  rw [List.flatMapM_cons, h]
  rfl

end Throwing

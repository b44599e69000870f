import Mathlib.Data.List.Forall2
import Mathlib.Data.List.ReduceOption
/-!
# Selections from a list

Two selections compared element by element, where one takes no more than the
other, the first match, and the map that a list fills when later entries
overwrite earlier ones.
-/

namespace Selection

variable {α β κ : Type}

/-! ## Selections -/

theorem length_filterMap_le {f : α → Option β} {g : α → Option κ} {l : List α} (h : ∀ a ∈ l, (f a).isSome → (g a).isSome) :
    (l.filterMap f).length ≤ (l.filterMap g).length := by
  induction l with
  | nil => exact Nat.le_refl _
  | cons a l ih =>
    obtain ⟨ha, hl⟩ := List.forall_mem_cons.1 h
    have ih := ih hl
    cases hf : f a with
    | none =>
      rw [List.filterMap_cons_none hf]
      cases hg : g a with
      | none => rwa [List.filterMap_cons_none hg]
      | some b =>
        rw [List.filterMap_cons_some hg]
        exact Nat.le_succ_of_le ih
    | some b =>
      obtain ⟨c, hg⟩ := Option.isSome_iff_exists.1 (ha (by rw [hf]; rfl))
      rw [List.filterMap_cons_some hf, List.filterMap_cons_some hg]
      exact Nat.succ_le_succ ih

/-- A selection that takes nothing where the other takes nothing has the same
result only if it agrees everywhere. -/
theorem filterMap_eq_iff {f g : α → Option β} {l : List α} (h : ∀ a ∈ l, (f a).isSome → (g a).isSome) :
    l.filterMap f = l.filterMap g ↔ ∀ a ∈ l, f a = g a := by
  refine ⟨?_, fun he => List.filterMap_congr he⟩
  induction l with
  | nil =>
    intro _ a ha
    cases ha
  | cons a l ih =>
    obtain ⟨ha, hl⟩ := List.forall_mem_cons.1 h
    intro he
    have hle := length_filterMap_le hl
    cases hf : f a with
    | none =>
      cases hg : g a with
      | none =>
        rw [List.filterMap_cons_none hf, List.filterMap_cons_none hg] at he
        exact List.forall_mem_cons.2 ⟨hf.trans hg.symm, ih hl he⟩
      | some b =>
        -- The other one would be longer.
        rw [List.filterMap_cons_none hf, List.filterMap_cons_some hg] at he
        rw [he, List.length_cons] at hle
        omega
    | some b =>
      obtain ⟨c, hg⟩ := Option.isSome_iff_exists.1 (ha (by rw [hf]; rfl))
      rw [List.filterMap_cons_some hf, List.filterMap_cons_some hg] at he
      injection he with hb ht
      exact List.forall_mem_cons.2 ⟨by rw [hf, hg, hb], ih hl ht⟩

/-- Two filters with one result agree on the list. -/
theorem filter_eq_iff {p q : α → Bool} {l : List α} : l.filter p = l.filter q ↔ ∀ a ∈ l, p a = q a := by
  refine ⟨?_, List.filter_congr⟩
  intro he a ha
  have hiff : a ∈ l.filter p ↔ a ∈ l.filter q := by rw [he]
  simp only [List.mem_filter, ha, true_and] at hiff
  exact Bool.eq_iff_iff.2 hiff

/-- A selection that takes something of all that a filter keeps corresponds to it
only if it takes nothing else. -/
theorem forall₂_filter_filterMap_iff {R : α → β → Prop} {p : α → Bool} {f : α → Option β} {l : List α}
    (h : ∀ a ∈ l, p a = true → (f a).isSome) :
    List.Forall₂ R (l.filter p) (l.filterMap f) ↔ ∀ a ∈ l, p a = (f a).isSome ∧ ∀ b, f a = some b → R a b := by
  induction l with
  | nil => simp
  | cons a l ih =>
    obtain ⟨ha, hl⟩ := List.forall_mem_cons.1 h
    rw [List.forall_mem_cons, ← ih hl]
    cases hp : p a with
    | true =>
      obtain ⟨b, hb⟩ := Option.isSome_iff_exists.1 (ha hp)
      rw [List.filter_cons_of_pos hp, List.filterMap_cons_some hb, List.forall₂_cons]
      simp [hb]
    | false =>
      rw [List.filter_cons_of_neg (by simp [hp])]
      cases hf : f a with
      | none =>
        rw [List.filterMap_cons_none hf]
        simp
      | some b =>
        -- The other one would be longer.
        rw [List.filterMap_cons_some hf]
        refine iff_of_false (fun hboth => ?_) (by simp)
        have hle : (l.filter p).length ≤ (l.filterMap f).length := by
          rw [← List.filterMap_eq_filter]
          exact length_filterMap_le fun a ha hsome => hl a ha (by simpa using hsome)
        have hlength := hboth.length_eq
        rw [List.length_cons] at hlength
        omega

/-! ## The first match -/

/-- `a` is the first element with the property. -/
def First (P : α → Prop) (l : List α) (a : α) : Prop := ∃ pre post, l = pre ++ a :: post ∧ P a ∧ ∀ b ∈ pre, ¬ P b

theorem First.prop {P : α → Prop} {l : List α} {a : α} (h : First P l a) : P a := by
  obtain ⟨-, -, -, ha, -⟩ := h
  exact ha

theorem first_iff_find? {P : α → Prop} {p : α → Bool} (h : ∀ a, p a = true ↔ P a) (l : List α) (a : α) :
    First P l a ↔ l.find? p = some a := by
  rw [List.find?_eq_some_iff_append, h]
  constructor
  · rintro ⟨pre, post, hl, ha, hpre⟩
    refine ⟨ha, pre, post, hl, ?_⟩
    intro b hb
    rw [Bool.not_eq_true', Bool.eq_false_iff]
    exact fun hp => hpre b hb ((h b).1 hp)
  · rintro ⟨ha, pre, post, hl, hpre⟩
    refine ⟨pre, post, hl, ha, ?_⟩
    intro b hb hP
    have hp := hpre b hb
    rw [(h b).2 hP] at hp
    cases hp

/-- There is a first match where there is any. -/
theorem exists_first_iff {P : α → Prop} {l : List α} : (∃ a, First P l a) ↔ ∃ a ∈ l, P a := by
  classical
  simp only [first_iff_find? (p := fun a => decide (P a)) (fun a => decide_eq_true_iff)]
  rw [← Option.isSome_iff_exists, List.find?_isSome]
  simp

theorem First.mem {P : α → Prop} {l : List α} {a : α} (h : First P l a) : a ∈ l := by
  obtain ⟨pre, post, rfl, -, -⟩ := h
  exact List.mem_append_right pre List.mem_cons_self

/-- There is at most one first match. -/
theorem First.unique {P : α → Prop} {l : List α} {a b : α} (ha : First P l a) (hb : First P l b) : a = b := by
  classical
  rw [first_iff_find? (p := fun a => decide (P a)) fun a => decide_eq_true_iff] at ha hb
  exact Option.some.inj (ha.symm.trans hb)

/-- The first match is also that of a stronger property that it has. -/
theorem First.strengthen {P Q : α → Prop} {l : List α} {a : α} (h : First P l a) (hQ : Q a) (himp : ∀ b, Q b → P b) :
    First Q l a := by
  obtain ⟨pre, post, hl, -, hpre⟩ := h
  exact ⟨pre, post, hl, hQ, fun b hb hQb => hpre b hb (himp b hQb)⟩

theorem first_congr {P Q : α → Prop} {l : List α} (h : ∀ a ∈ l, P a ↔ Q a) (a : α) : First P l a ↔ First Q l a := by
  refine exists_congr fun pre => exists_congr fun post => and_congr_right ?_
  rintro rfl
  refine and_congr (h a (by simp)) (forall₂_congr fun b hb => not_congr (h b (by simp [hb])))

theorem not_first_nil {P : α → Prop} {a : α} : ¬ First P [] a := by
  intro h
  obtain ⟨b, hb, -⟩ := exists_first_iff.1 ⟨a, h⟩
  cases hb

theorem first_cons_iff {P : α → Prop} {a b : α} {l : List α} :
    First P (a :: l) b ↔ (P a ∧ b = a) ∨ (¬ P a ∧ First P l b) := by
  constructor
  · rintro ⟨pre, post, hl, hb, hpre⟩
    cases pre with
    | nil =>
      cases hl
      exact .inl ⟨hb, rfl⟩
    | cons c pre =>
      cases hl
      exact .inr ⟨hpre a List.mem_cons_self, pre, post, rfl, hb, fun d hd => hpre d (List.mem_cons_of_mem a hd)⟩
  · rintro (⟨ha, rfl⟩ | ⟨ha, pre, post, rfl, hb, hpre⟩)
    · exact ⟨[], l, rfl, ha, fun c hc => absurd hc List.not_mem_nil⟩
    · exact ⟨a :: pre, post, rfl, hb, List.forall_mem_cons.2 ⟨ha, hpre⟩⟩

/-- A search through lists within a list. -/
theorem findSome?_flatMap (f : α → List β) (g : β → Option κ) (l : List α) :
    (l.flatMap f).findSome? g = l.findSome? fun a => (f a).findSome? g := by
  rw [← List.head?_filterMap, List.filterMap_flatMap, List.head?_flatMap]
  simp only [List.head?_filterMap]

theorem findSome?_reduceOption (g : α → Option β) (l : List (Option α)) :
    l.reduceOption.findSome? g = l.findSome? fun o => o.bind g := by
  rw [← List.head?_filterMap, List.reduceOption, List.filterMap_filterMap, List.head?_filterMap]
  rfl

theorem findSome?_filter (p : α → Bool) (g : α → Option β) (l : List α) :
    (l.filter p).findSome? g = l.findSome? fun a => if p a then g a else none := by
  rw [← List.head?_filterMap, List.filterMap_filter, List.head?_filterMap]

/-- A search that gives what a match is mapped to. -/
theorem findSome?_ite (p : α → Bool) (g : α → β) (l : List α) :
    (l.findSome? fun a => if p a then some (g a) else none) = (l.find? p).map g := by
  induction l with
  | nil => rfl
  | cons a l ih =>
    rw [List.findSome?_cons, ih, List.find?_cons]
    cases p a <;> rfl

/-! ## Overwriting -/

variable [DecidableEq κ]

/-- The map after `m[key(a)] = a` for each element. -/
def overwrite (key : α → κ) (l : List α) : κ → Option α :=
  l.foldl (fun m a => Function.update m (key a) (some a)) fun _ => none

/-- The last element of each key remains. -/
theorem overwrite_eq (key : α → κ) (l : List α) (k : κ) : overwrite key l k = l.reverse.find? (key · = k) := by
  have hfold : ∀ m : κ → Option α, l.foldl (fun m a => Function.update m (key a) (some a)) m k =
      (l.reverse.find? (key · = k)).or (m k) := by
    induction l with
    | nil =>
      intro m
      rfl
    | cons a l ih =>
      intro m
      rw [List.foldl_cons, ih, List.reverse_cons, List.find?_append, Option.or_assoc]
      by_cases hk : key a = k
      · subst hk
        simp
      · have hne : k ≠ key a := fun h => hk h.symm
        simp [hk, Function.update_of_ne hne]
  rw [overwrite, hfold, Option.or_none]

theorem overwrite_mem {key : α → κ} {l : List α} {k : κ} {a : α} (h : overwrite key l k = some a) : a ∈ l ∧ key a = k := by
  rw [overwrite_eq] at h
  refine ⟨List.mem_reverse.1 (List.mem_of_find?_eq_some h), ?_⟩
  simpa using List.find?_some h

end Selection

import Mathlib.Data.List.Infix
/-!
# Rewriting text

Patterns that are a fixed number of character classes, and the substitution of
all their matches. When the replacement makes no match with the text around it,
the result has none, and a second substitution changes nothing.
-/

namespace Rewriting

variable {α : Type}

/-- A class for each character of a match. -/
abbrev Pattern (α : Type) := List (α → Bool)

/-- The pattern matches at the start of the text. -/
def starts : Pattern α → List α → Bool
  | [], _ => true
  | _ :: _, [] => false
  | f :: p, c :: s => f c && starts p s

/-- The pattern matches somewhere in the text. -/
def occurs (p : Pattern α) : List α → Bool
  | [] => starts p []
  | c :: s => starts p (c :: s) || occurs p s

/-- The rest of the text, once `skip` characters of it have been replaced. -/
def replaceFrom (p : Pattern α) (rep : List α) : Nat → List α → List α
  | _, [] => []
  | skip + 1, _ :: s => replaceFrom p rep skip s
  | 0, c :: s => if starts p (c :: s) then rep ++ replaceFrom p rep (p.length - 1) s else c :: replaceFrom p rep 0 s

/-- Every match, from left to right, replaced: `s/p/rep/g`. -/
def replaceAll (p : Pattern α) (rep : List α) (s : List α) : List α := replaceFrom p rep 0 s

/-- The pattern could match a text that starts with `t`. -/
def agrees : Pattern α → List α → Bool
  | f :: p, c :: t => f c && agrees p t
  | _, _ => true

/-- The replacement starts with a character that is in no class, and no match
starts inside it. -/
def fresh (p : Pattern α) (rep : List α) : Bool :=
  rep.head?.any (fun d => p.all fun f => !f d) && rep.tails.all fun t => t.isEmpty || !agrees p t

/-! ## Matches -/

theorem starts_append {p : Pattern α} {t s : List α} (h : starts p (t ++ s) = true) : agrees p t = true := by
  induction p generalizing t with
  | nil => rfl
  | cons f p ih =>
    cases t with
    | nil => rfl
    | cons c t =>
      rw [List.cons_append, starts, Bool.and_eq_true] at h
      rw [agrees, Bool.and_eq_true]
      exact ⟨h.1, ih h.2⟩

/-- A match of a longer pattern is one of its start. -/
theorem starts_of_append {p q : Pattern α} {s : List α} (h : starts (p ++ q) s = true) : starts p s = true := by
  induction p generalizing s with
  | nil => rfl
  | cons f p ih =>
    cases s with
    | nil => cases h
    | cons c s =>
      rw [List.cons_append, starts, Bool.and_eq_true] at h
      rw [starts, Bool.and_eq_true]
      exact ⟨h.1, ih h.2⟩

theorem occurs_of_append {p q : Pattern α} {s : List α} (h : occurs (p ++ q) s = true) : occurs p s = true := by
  induction s with
  | nil => exact starts_of_append h
  | cons c s ih =>
    rw [occurs, Bool.or_eq_true] at h ⊢
    exact h.imp starts_of_append ih

theorem starts_append_right {p : Pattern α} {s : List α} (h : starts p s = true) (t : List α) :
    starts p (s ++ t) = true := by
  induction p generalizing s with
  | nil => rfl
  | cons f p ih =>
    cases s with
    | nil => cases h
    | cons c s =>
      rw [starts, Bool.and_eq_true] at h
      rw [List.cons_append, starts, Bool.and_eq_true]
      exact ⟨h.1, ih h.2⟩

theorem occurs_iff {p : Pattern α} {s : List α} : occurs p s = true ↔ ∃ l r, s = l ++ r ∧ starts p r = true := by
  induction s with
  | nil =>
    constructor
    · intro h
      exact ⟨[], [], rfl, h⟩
    · rintro ⟨l, r, hs, h⟩
      obtain ⟨-, rfl⟩ := List.append_eq_nil_iff.1 hs.symm
      exact h
  | cons c s ih =>
    rw [occurs, Bool.or_eq_true, ih]
    constructor
    · rintro (h | ⟨l, r, rfl, h⟩)
      · exact ⟨[], c :: s, rfl, h⟩
      · exact ⟨c :: l, r, rfl, h⟩
    · rintro ⟨l, r, hs, h⟩
      cases l with
      | nil =>
        left
        rwa [hs]
      | cons d l =>
        obtain ⟨-, rfl⟩ := List.cons.inj hs
        exact .inr ⟨l, r, rfl, h⟩

theorem occurs_append_right {p : Pattern α} {s : List α} (h : occurs p s = true) (t : List α) :
    occurs p (s ++ t) = true := by
  obtain ⟨l, r, rfl, hr⟩ := occurs_iff.1 h
  exact occurs_iff.2 ⟨l, r ++ t, List.append_assoc l r t, starts_append_right hr t⟩

theorem starts_split {p : Pattern α} {d : α} (hd : ∀ f ∈ p, f d = false) {l r : List α}
    (h : starts p (l ++ d :: r) = true) : starts p l = true := by
  induction p generalizing l with
  | nil => rfl
  | cons f p ih =>
    rw [List.forall_mem_cons] at hd
    cases l with
    | nil =>
      rw [List.nil_append, starts, hd.1] at h
      exact absurd h Bool.false_ne_true
    | cons c l =>
      rw [List.cons_append, starts, Bool.and_eq_true] at h
      rw [starts, Bool.and_eq_true]
      exact ⟨h.1, ih hd.2 h.2⟩

theorem not_starts_of_head {p : Pattern α} (hp : p ≠ []) {d : α} (hd : ∀ f ∈ p, f d = false) (s : List α) :
    ¬ starts p (d :: s) = true := by
  cases p with
  | nil => exact absurd rfl hp
  | cons f p =>
    rw [starts, hd f List.mem_cons_self]
    exact Bool.false_ne_true

/-- No match lies across a character that is in no class. -/
theorem occurs_split {p : Pattern α} (hp : p ≠ []) {d : α} (hd : ∀ f ∈ p, f d = false) {l r : List α}
    (h : occurs p (l ++ d :: r) = true) : occurs p l = true ∨ occurs p r = true := by
  induction l with
  | nil =>
    rw [List.nil_append, occurs, Bool.or_eq_true] at h
    exact .inr (h.resolve_left (not_starts_of_head hp hd r))
  | cons c l ih =>
    rw [List.cons_append, occurs, Bool.or_eq_true] at h
    rw [occurs, Bool.or_eq_true]
    rcases h with h | h
    · exact .inl (.inl (starts_split (l := c :: l) hd h))
    · exact (ih h).imp_left .inr

/-! ## Substitution -/

@[simp] theorem replaceAll_nil (p : Pattern α) (rep : List α) : replaceAll p rep [] = [] := rfl

theorem replaceFrom_eq_drop (p : Pattern α) (rep : List α) (skip : Nat) (s : List α) :
    replaceFrom p rep skip s = replaceAll p rep (s.drop skip) := by
  induction skip generalizing s with
  | zero => rw [replaceAll, List.drop_zero]
  | succ skip ih =>
    cases s with
    | nil => rfl
    | cons c s => rw [replaceFrom, ih, List.drop_succ_cons]

theorem replaceAll_of_starts {p : Pattern α} {c : α} {s : List α} (h : starts p (c :: s) = true) (rep : List α) :
    replaceAll p rep (c :: s) = rep ++ replaceAll p rep (s.drop (p.length - 1)) := by
  rw [replaceAll, replaceFrom, if_pos h, replaceFrom_eq_drop]

theorem replaceAll_of_not_starts {p : Pattern α} {c : α} {s : List α} (h : ¬ starts p (c :: s) = true) (rep : List α) :
    replaceAll p rep (c :: s) = c :: replaceAll p rep s := by
  rw [replaceAll, replaceFrom, if_neg h]
  rfl

/-- Without a match nothing is replaced. -/
theorem replaceAll_of_not_occurs {p : Pattern α} {s : List α} (h : ¬ occurs p s = true) (rep : List α) :
    replaceAll p rep s = s := by
  induction s with
  | nil => rfl
  | cons c s ih =>
    rw [occurs, Bool.or_eq_true, not_or] at h
    rw [replaceAll_of_not_starts h.1, ih h.2]

theorem replaceAll_ne_nil {p : Pattern α} {rep s : List α} (hrep : rep ≠ []) (hs : s ≠ []) : replaceAll p rep s ≠ [] := by
  cases s with
  | nil => exact absurd rfl hs
  | cons c s =>
    by_cases h : starts p (c :: s) = true
    · rw [replaceAll_of_starts h]
      exact List.append_ne_nil_of_left_ne_nil hrep _
    · rw [replaceAll_of_not_starts h]
      exact List.cons_ne_nil _ _

theorem mem_replaceAll {p : Pattern α} {rep s : List α} {c : α} (h : c ∈ replaceAll p rep s) : c ∈ rep ∨ c ∈ s := by
  have hfrom : ∀ skip, c ∈ replaceFrom p rep skip s → c ∈ rep ∨ c ∈ s := by
    clear h
    induction s with
    | nil =>
      intro skip h
      cases skip <;> cases h
    | cons a s ih =>
      intro skip h
      cases skip with
      | succ skip => exact (ih skip h).imp_right (List.mem_cons_of_mem a)
      | zero =>
        rw [replaceFrom] at h
        split at h
        · rcases List.mem_append.1 h with h | h
          · exact .inl h
          · exact (ih _ h).imp_right (List.mem_cons_of_mem a)
        · rcases List.mem_cons.1 h with rfl | h
          · exact .inr List.mem_cons_self
          · exact (ih 0 h).imp_right (List.mem_cons_of_mem a)
  exact hfrom 0 h

section
variable {p : Pattern α} {d : α} {rep : List α}

/-- Where a pattern has no class for the start of the replacement, it matches
nothing at the start of the result that it did not match before. -/
theorem starts_of_replaceAll {q : Pattern α} (hq : ∀ f ∈ q, f d = false) {s : List α}
    (h : starts q (replaceAll p (d :: rep) s) = true) : starts q s = true := by
  induction q generalizing s with
  | nil => rfl
  | cons f q ih =>
    cases s with
    | nil => exact h
    | cons c s =>
      by_cases hs : starts p (c :: s) = true
      · rw [replaceAll_of_starts hs, List.cons_append] at h
        exact absurd h (not_starts_of_head (List.cons_ne_nil f q) hq _)
      · rw [replaceAll_of_not_starts hs, starts, Bool.and_eq_true] at h
        rw [List.forall_mem_cons] at hq
        rw [starts, Bool.and_eq_true]
        exact ⟨h.1, ih hq.2 h.2⟩

theorem occurs_append_of_not_agrees {t s : List α} (ht : ∀ u ∈ t.tails, u ≠ [] → ¬ agrees p u = true)
    (h : occurs p (t ++ s) = true) : occurs p s = true := by
  induction t with
  | nil => exact h
  | cons c t ih =>
    rw [List.tails_cons, List.forall_mem_cons] at ht
    rw [List.cons_append, occurs, Bool.or_eq_true] at h
    rcases h with h | h
    · exact absurd (starts_append (t := c :: t) h) (ht.1 (List.cons_ne_nil c t))
    · exact ih ht.2 h

/-- A fresh replacement leaves no match. -/
theorem not_occurs_replaceAll (hp : p ≠ []) {rep : List α} (hf : fresh p rep = true) (s : List α) :
    ¬ occurs p (replaceAll p rep s) = true := by
  rw [fresh, Bool.and_eq_true, Option.any_eq_true] at hf
  obtain ⟨⟨d, hd, hall⟩, htails⟩ := hf
  obtain ⟨rep, rfl⟩ := List.head?_eq_some_iff.1 hd
  have hclass : ∀ f ∈ p, f d = false := fun f hf => by simpa using List.all_eq_true.1 hall f hf
  have hinside : ∀ u ∈ (d :: rep).tails, u ≠ [] → ¬ agrees p u = true := by
    intro u hu hne
    have hagrees := List.all_eq_true.1 htails u hu
    simpa [List.isEmpty_iff, hne] using hagrees
  have hfrom : ∀ skip, ¬ occurs p (replaceFrom p (d :: rep) skip s) = true := by
    induction s with
    | nil =>
      intro skip
      cases p with
      | nil => exact absurd rfl hp
      | cons f p => cases skip <;> exact Bool.false_ne_true
    | cons c s ih =>
      intro skip
      cases skip with
      | succ skip => exact ih skip
      | zero =>
        rw [replaceFrom]
        split
        · intro h
          exact ih _ (occurs_append_of_not_agrees hinside h)
        · rename_i hstarts
          intro h
          rw [occurs, Bool.or_eq_true] at h
          rcases h with h | h
          · -- a match there was one before the substitution
            have hsame : replaceAll p (d :: rep) (c :: s) = c :: replaceFrom p (d :: rep) 0 s :=
              replaceAll_of_not_starts hstarts (d :: rep)
            rw [← hsame] at h
            exact hstarts (starts_of_replaceAll hclass h)
          · exact ih 0 h
  exact hfrom 0

end

/-! ## The end of the text -/

/-- `s/suffix$/rep/`. -/
def replaceEnd [DecidableEq α] (suffix rep s : List α) : List α :=
  if suffix <:+ s then s.take (s.length - suffix.length) ++ rep else s

section
variable [DecidableEq α]

theorem replaceEnd_append (suffix rep l : List α) : replaceEnd suffix rep (l ++ suffix) = l ++ rep := by
  rw [replaceEnd, if_pos (List.suffix_append l suffix), List.length_append, Nat.add_sub_cancel, List.take_left']
  rfl

theorem replaceEnd_of_not_suffix {suffix s : List α} (h : ¬ suffix <:+ s) (rep : List α) :
    replaceEnd suffix rep s = s := if_neg h

/-- The text is as it was and does not end in the suffix, or ends in the replacement instead. -/
theorem replaceEnd_cases (suffix rep s : List α) :
    (¬ suffix <:+ s ∧ replaceEnd suffix rep s = s) ∨
      ∃ l, s = l ++ suffix ∧ replaceEnd suffix rep s = l ++ rep := by
  by_cases h : suffix <:+ s
  · obtain ⟨l, rfl⟩ := h
    exact .inr ⟨l, rfl, replaceEnd_append suffix rep l⟩
  · exact .inl ⟨h, replaceEnd_of_not_suffix h rep⟩

end

end Rewriting

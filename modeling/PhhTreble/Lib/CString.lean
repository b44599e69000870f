import Mathlib.Data.List.Infix
/-!
# Strings in a buffer

Searching a buffer for a pattern, and reading the string that starts at some
place of it. A string goes on up to a terminator; where the buffer ends without
one, reading it leaves the buffer.
-/

namespace CString

variable {α : Type}

/-- The first occurrence of `needle` is after `pre` and followed by `post`. -/
def FirstAt (needle pre post buf : List α) : Prop :=
  buf = pre ++ (needle ++ post) ∧ ∀ pre' post', buf = pre' ++ (needle ++ post') → pre.length ≤ pre'.length

theorem FirstAt.unique {needle pre post pre' post' buf : List α} (h : FirstAt needle pre post buf)
    (h' : FirstAt needle pre' post' buf) : pre = pre' ∧ post = post' := by
  have hlen := Nat.le_antisymm (h.2 _ _ h'.1) (h'.2 _ _ h.1)
  obtain ⟨hpre, hrest⟩ := List.append_inj (h.1.symm.trans h'.1) hlen
  exact ⟨hpre, (List.append_inj hrest rfl).2⟩

variable [DecidableEq α]

/-- What is left of the buffer after the first occurrence of `needle`. -/
def after (needle : List α) : List α → Option (List α)
  | [] => if needle = [] then some [] else none
  | c :: buf => if needle <+: c :: buf then some ((c :: buf).drop needle.length) else after needle buf

/-- The string at the start of the buffer; `none` if it is not terminated. -/
def read (nul : α) : List α → Option (List α)
  | [] => none
  | c :: buf => if c = nul then some [] else (read nul buf).map (c :: ·)

/-- The search stops at the first occurrence. -/
theorem after_eq_some_iff {needle buf post : List α} : after needle buf = some post ↔ ∃ pre, FirstAt needle pre post buf := by
  have hsound : ∀ {buf post : List α}, after needle buf = some post → ∃ pre, FirstAt needle pre post buf := by
    intro buf
    induction buf with
    | nil =>
      intro post h
      rw [after] at h
      split at h
      · rename_i hneedle
        cases h
        exact ⟨[], by rw [hneedle]; rfl, fun _ _ _ => Nat.zero_le _⟩
      · cases h
    | cons c buf ih =>
      intro post h
      rw [after] at h
      split at h
      · rename_i hprefix
        cases h
        exact ⟨[], (List.prefix_iff_eq_append.1 hprefix).symm, fun _ _ _ => Nat.zero_le _⟩
      · rename_i hprefix
        obtain ⟨pre, hbuf, hfirst⟩ := ih h
        refine ⟨c :: pre, by rw [hbuf]; rfl, fun pre' post' he => ?_⟩
        cases pre' with
        | nil => exact absurd ⟨post', he.symm⟩ hprefix
        | cons d pre' => exact Nat.succ_le_succ (hfirst pre' post' (List.cons.inj he).2)
  have hnone : ∀ {buf pre post : List α}, after needle buf = none → buf ≠ pre ++ (needle ++ post) := by
    intro buf
    induction buf with
    | nil =>
      rintro pre post h he
      rw [after] at h
      split at h
      · cases h
      · rename_i hneedle
        exact hneedle (List.append_eq_nil_iff.1 (List.append_eq_nil_iff.1 he.symm).2).1
    | cons c buf ih =>
      rintro pre post h he
      rw [after] at h
      split at h
      · cases h
      · rename_i hprefix
        cases pre with
        | nil => exact hprefix ⟨post, he.symm⟩
        | cons d pre => exact ih h (List.cons.inj he).2
  refine ⟨hsound, ?_⟩
  rintro ⟨pre, hpre⟩
  cases ha : after needle buf with
  | none => exact absurd hpre.1 (hnone ha)
  | some post' =>
    obtain ⟨pre', hpre'⟩ := hsound ha
    rw [(hpre.unique hpre').2]

theorem read_eq_some_iff {nul : α} {buf s : List α} : read nul buf = some s ↔ nul ∉ s ∧ ∃ rest, buf = s ++ nul :: rest := by
  induction buf generalizing s with
  | nil => simp [read]
  | cons c buf ih =>
    rw [read]
    split
    · rename_i hc
      subst hc
      constructor
      · intro h
        cases h
        exact ⟨List.not_mem_nil, buf, rfl⟩
      · rintro ⟨hs, rest, he⟩
        cases s with
        | nil => rfl
        | cons d s => exact absurd ((List.cons.inj he).1 ▸ List.mem_cons_self) hs
    · rename_i hc
      rw [Option.map_eq_some_iff]
      constructor
      · rintro ⟨t, ht, rfl⟩
        obtain ⟨hnul, rest, rfl⟩ := ih.1 ht
        refine ⟨?_, rest, rfl⟩
        rw [List.mem_cons, not_or]
        exact ⟨Ne.symm hc, hnul⟩
      · rintro ⟨hs, rest, he⟩
        cases s with
        | nil => exact absurd (List.cons.inj he).1 hc
        | cons d s =>
          obtain ⟨rfl, hrest⟩ := List.cons.inj he
          exact ⟨s, ih.2 ⟨fun hm => hs (List.mem_cons_of_mem _ hm), rest, hrest⟩, rfl⟩

/-- A string can be read where there is a terminator. -/
theorem exists_read_iff {nul : α} {buf : List α} : (∃ s, read nul buf = some s) ↔ nul ∈ buf := by
  constructor
  · rintro ⟨s, hs⟩
    obtain ⟨-, rest, rfl⟩ := read_eq_some_iff.1 hs
    exact List.mem_append_right s List.mem_cons_self
  · intro h
    obtain ⟨s, rest, rfl, hs⟩ := List.eq_append_cons_of_mem h
    exact ⟨s, read_eq_some_iff.2 ⟨hs, rest, rfl⟩⟩

end CString

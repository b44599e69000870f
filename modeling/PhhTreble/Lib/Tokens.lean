import Mathlib.Data.List.Basic
/-!
# Tokens

The tokens of a text as `strtok` finds them, against the text that is joined of
some tokens and may be cut.
-/

namespace Tokens

variable {α : Type} [BEq α] [LawfulBEq α] (sep : α)

/-- What `strtok` returns one after the other: separators in a row are one. -/
def tokens (s : List α) : List (List α) := (s.splitOn sep).filter fun t => !t.isEmpty

def join (ts : List (List α)) : List α := [sep].intercalate ts

/-- A token has some text, without a separator. -/
def IsToken (t : List α) : Prop := t ≠ [] ∧ sep ∉ t

variable {sep}

/-! ## Tokens are tokens -/

theorem sep_notMem_of_mem_splitOn {s t : List α} (h : t ∈ s.splitOn sep) : sep ∉ t := by
  induction s generalizing t with
  | nil =>
    rw [List.splitOn_nil, List.mem_singleton] at h
    rw [h]
    exact List.not_mem_nil
  | cons a s ih =>
    rw [List.splitOn_cons_eq_if_modifyHead] at h
    split at h
    · rcases List.mem_cons.1 h with rfl | h
      · exact List.not_mem_nil
      · exact ih h
    · rename_i ha
      obtain ⟨u, us, hu⟩ := List.exists_cons_of_ne_nil (List.splitOn_ne_nil sep s)
      rw [hu, List.modifyHead_cons] at h
      rcases List.mem_cons.1 h with rfl | h
      · rw [List.mem_cons, not_or]
        refine ⟨?_, ih (hu ▸ List.mem_cons_self)⟩
        rintro rfl
        exact ha BEq.rfl
      · exact ih (hu ▸ List.mem_cons_of_mem u h)

theorem isToken_of_mem {s t : List α} (h : t ∈ tokens sep s) : IsToken sep t := by
  obtain ⟨hmem, hne⟩ := List.mem_filter.1 h
  exact ⟨by simpa using hne, sep_notMem_of_mem_splitOn hmem⟩

theorem tokens_join {ts : List (List α)} (h : ∀ t ∈ ts, IsToken sep t) : tokens sep (join sep ts) = ts := by
  by_cases hts : ts = []
  · rw [hts]
    simp [tokens, join]
  · rw [tokens, join, List.splitOn_intercalate sep (fun t ht => (h t ht).2) hts, List.filter_eq_self]
    intro t ht
    simpa using (h t ht).1

/-! ## The length -/

omit [BEq α] [LawfulBEq α] in
theorem length_join_cons (t : List α) {ts : List (List α)} (h : ts ≠ []) :
    (join sep (t :: ts)).length = t.length + 1 + (join sep ts).length := by
  obtain ⟨u, us, rfl⟩ := List.exists_cons_of_ne_nil h
  simp [join, List.intercalate_cons_cons]
  omega

omit [BEq α] [LawfulBEq α] in
theorem length_join_le_cons (t : List α) (ts : List (List α)) : (join sep ts).length ≤ (join sep (t :: ts)).length := by
  by_cases h : ts = []
  · simp [h, join]
  · rw [length_join_cons t h]
    omega

omit [BEq α] [LawfulBEq α] in
theorem length_join_sublist {ts us : List (List α)} (h : ts.Sublist us) : (join sep ts).length ≤ (join sep us).length := by
  induction h with
  | slnil => exact Nat.le_refl _
  | cons u _ ih => exact Nat.le_trans ih (length_join_le_cons u _)
  | @cons_cons ts us u hsub ih =>
    by_cases hts : ts = []
    · subst hts
      by_cases hus : us = []
      · subst hus
        exact Nat.le_refl _
      · rw [length_join_cons u hus]
        simp [join]
        omega
    · have hus : us ≠ [] := by
        rintro rfl
        exact hts (List.sublist_nil.1 hsub)
      rw [length_join_cons u hts, length_join_cons u hus]
      omega

theorem length_join_tokens (s : List α) : (join sep (tokens sep s)).length ≤ s.length := by
  have hle : (join sep (tokens sep s)).length ≤ (join sep (s.splitOn sep)).length :=
    length_join_sublist List.filter_sublist
  rwa [join, join, List.intercalate_splitOn] at hle

/-- Joined tokens are found again in a text that may be cut exactly when they are
tokens and it is not. -/
theorem tokens_take_join_iff {ts : List (List α)} {n : Nat} :
    tokens sep ((join sep ts).take n) = ts ↔ (∀ t ∈ ts, IsToken sep t) ∧ (join sep ts).length ≤ n := by
  constructor
  · intro h
    constructor
    · intro t ht
      rw [← h] at ht
      exact isToken_of_mem ht
    · have hlen : (join sep (tokens sep ((join sep ts).take n))).length ≤ ((join sep ts).take n).length :=
        length_join_tokens _
      rw [h, List.length_take] at hlen
      omega
  · rintro ⟨htokens, hlen⟩
    rw [List.take_of_length_le hlen]
    exact tokens_join htokens

end Tokens

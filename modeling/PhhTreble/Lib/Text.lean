import Mathlib.Data.List.DropRight
/-!
# Lines of text

Text as a list of characters, the lines `sed` sees of it, and the newlines that
command substitution takes off its end.
-/

namespace Text

/-- `[[:space:]]`. -/
def isSpace (c : Char) : Bool := c = ' ' || ('\t' ≤ c && c ≤ '\r')

def trim (s : List Char) : List Char := (s.dropWhile isSpace).rdropWhile isSpace

/-- The lines of a text; a last one may lack its newline. -/
def lines : List Char → List (List Char)
  | [] => []
  | c :: cs =>
    if c = '\n' then [] :: lines cs else
    match lines cs with
    | [] => [[c]]
    | l :: ls => (c :: l) :: ls

def unlines (ls : List (List Char)) : List Char := ls.flatMap (· ++ ['\n'])

/-- `$(…)`. -/
def chomp (s : List Char) : List Char := s.rdropWhile (· = '\n')

/-! ## Newlines at the end -/

theorem rdropWhile_append_of_pos {α : Type} {p : α → Bool} {s t : List α} (h : ∀ a ∈ t, p a) :
    (s ++ t).rdropWhile p = s.rdropWhile p := by
  rw [List.rdropWhile, List.reverse_append, List.dropWhile_append_of_pos (fun a ha => h a (List.mem_reverse.1 ha))]
  rfl

theorem chomp_append_newlines (s : List Char) (k : Nat) : chomp (s ++ List.replicate k '\n') = chomp s :=
  rdropWhile_append_of_pos fun c hc => by simp [List.eq_of_mem_replicate hc]

theorem chomp_of_notMem {s : List Char} (h : '\n' ∉ s) : chomp s = s := by
  rw [chomp, List.rdropWhile_eq_self_iff]
  intro hs hl
  rw [decide_eq_true_eq] at hl
  exact h (hl ▸ List.getLast_mem hs)

/-- Command substitution takes newlines off. -/
theorem eq_chomp_append (s : List Char) : ∃ k, s = chomp s ++ List.replicate k '\n' := by
  refine ⟨(s.rtakeWhile (· = '\n')).length, ?_⟩
  conv_lhs => rw [← List.rdropWhile_append_rtakeWhile (p := (· = '\n')) (l := s)]
  congr 1
  exact List.eq_replicate_of_mem fun c hc => by simpa using List.mem_rtakeWhile_imp hc

/-! ## Lines -/

theorem lines_newline (s : List Char) : lines ('\n' :: s) = [] :: lines s := by simp [lines]

theorem lines_append_newline {l : List Char} (h : '\n' ∉ l) (s : List Char) :
    lines (l ++ '\n' :: s) = l :: lines s := by
  induction l with
  | nil => exact lines_newline s
  | cons c l ih =>
    rw [List.mem_cons, not_or] at h
    rw [List.cons_append, lines, if_neg (Ne.symm h.1), ih h.2]

theorem unlines_cons (l : List Char) (ls : List (List Char)) : unlines (l :: ls) = l ++ '\n' :: unlines ls := by
  simp [unlines]

/-- A line has no newline. -/
theorem newline_notMem_of_mem_lines {s l : List Char} (h : l ∈ lines s) : '\n' ∉ l := by
  induction s generalizing l with
  | nil => cases h
  | cons c s ih =>
    rw [lines] at h
    split at h
    · rcases List.mem_cons.1 h with rfl | h
      · exact List.not_mem_nil
      · exact ih h
    · rename_i hc
      split at h
      · rw [List.mem_singleton] at h
        rw [h, List.mem_singleton]
        exact Ne.symm hc
      · rename_i l' ls hls
        rcases List.mem_cons.1 h with rfl | h
        · rw [List.mem_cons, not_or]
          exact ⟨Ne.symm hc, ih (hls ▸ List.mem_cons_self)⟩
        · exact ih (hls ▸ List.mem_cons_of_mem _ h)

/-- Text without a newline is one line. -/
theorem lines_of_notMem {l : List Char} (h : '\n' ∉ l) (hl : l ≠ []) : lines l = [l] := by
  induction l with
  | nil => exact absurd rfl hl
  | cons c l ih =>
    rw [List.mem_cons, not_or] at h
    rw [lines, if_neg (Ne.symm h.1)]
    cases l with
    | nil => rfl
    | cons d l => rw [ih h.2 (List.cons_ne_nil d l)]

theorem unlines_append (ls ls' : List (List Char)) : unlines (ls ++ ls') = unlines ls ++ unlines ls' := List.flatMap_append

theorem lines_unlines_append {ls : List (List Char)} (h : ∀ l ∈ ls, '\n' ∉ l) (s : List Char) :
    lines (unlines ls ++ s) = ls ++ lines s := by
  induction ls with
  | nil => rfl
  | cons l ls ih =>
    rw [List.forall_mem_cons] at h
    rw [unlines_cons, List.append_assoc, List.cons_append, lines_append_newline h.1, ih h.2]
    rfl

/-- Lines read back from their text, but for empty ones at its end. -/
theorem lines_chomp_unlines {ls : List (List Char)} (h : ∀ l ∈ ls, '\n' ∉ l) :
    lines (chomp (unlines ls)) = ls.rdropWhile List.isEmpty ∧
      chomp (unlines (ls.rdropWhile List.isEmpty)) = chomp (unlines ls) := by
  induction ls using List.reverseRecOn with
  | nil => exact ⟨rfl, rfl⟩
  | append_singleton ls l ih =>
    have hls : ∀ m ∈ ls, '\n' ∉ m := fun m hm => h m (List.mem_append_left _ hm)
    have hl : '\n' ∉ l := h l (List.mem_append_right _ List.mem_cons_self)
    have hlast : unlines (ls ++ [l]) = unlines ls ++ l ++ List.replicate 1 '\n' := by
      rw [unlines_append, unlines_cons, List.append_assoc]
      rfl
    rw [hlast, chomp_append_newlines]
    cases l with
    | nil =>
      rw [List.append_nil, List.rdropWhile_concat_pos _ _ _ rfl]
      exact ih hls
    | cons c l =>
      have hchomp : chomp (unlines ls ++ c :: l) = unlines ls ++ c :: l := by
        rw [chomp, List.rdropWhile_eq_self_iff]
        intro hne heq
        rw [decide_eq_true_eq] at heq
        have hmem : '\n' ∈ c :: l := by
          rw [← heq, List.getLast_append_of_ne_nil _ (List.cons_ne_nil c l)]
          exact List.getLast_mem _
        exact hl hmem
      rw [List.rdropWhile_concat_neg _ _ _ Bool.false_ne_true, hchomp, hlast, chomp_append_newlines, hchomp,
        lines_unlines_append hls, lines_of_notMem hl (List.cons_ne_nil c l)]
      exact ⟨rfl, rfl⟩

theorem prefix_unlines_lines (s : List Char) : s <+: unlines (lines s) := by
  induction s with
  | nil => exact List.nil_prefix
  | cons c s ih =>
    rw [lines]
    split
    · rename_i hc
      rw [unlines_cons, hc]
      exact List.cons_prefix_cons.2 ⟨rfl, ih⟩
    · split
      · rename_i hls
        rw [hls] at ih
        rw [List.prefix_nil.1 ih]
        exact List.prefix_append [c] ['\n']
      · rename_i l ls hls
        rw [hls] at ih
        rw [unlines_cons] at ih ⊢
        exact List.cons_prefix_cons.2 ⟨rfl, ih⟩

theorem chomp_isPrefix (s : List Char) : chomp s <+: s := List.rdropWhile_prefix _ _

end Text

import PhhTreble.Lib.Rewriting
/-!
# Patches of one length

Substitutions whose replacement is as long as a match, so that nothing behind it
moves. Where no pattern can match across a replacement, positions tell what such
a substitution does, and a sequence of them acts as if each saw the text as it
was.
-/

namespace Patching

open Rewriting

variable {α : Type}

/-! ## Matches and positions -/

theorem starts_length {p : Pattern α} {s : List α} (h : starts p s = true) : p.length ≤ s.length := by
  induction p generalizing s with
  | nil => exact Nat.zero_le _
  | cons f p ih =>
    cases s with
    | nil => cases h
    | cons c s =>
      rw [starts, Bool.and_eq_true] at h
      exact Nat.succ_le_succ (ih h.2)

/-- A match depends on the characters it takes. -/
theorem starts_congr {p : Pattern α} {s t : List α} (h : ∀ i < p.length, s[i]? = t[i]?) : starts p s = starts p t := by
  induction p generalizing s t with
  | nil => cases s <;> cases t <;> rfl
  | cons f p ih =>
    have h0 := h 0 (Nat.succ_pos _)
    have hrest : ∀ i < p.length, s.tail[i]? = t.tail[i]? := by
      intro i hi
      simpa using h (i + 1) (Nat.succ_lt_succ hi)
    cases s with
    | nil =>
      cases t with
      | nil => rfl
      | cons d t => cases h0
    | cons c s =>
      cases t with
      | nil => cases h0
      | cons d t =>
        obtain rfl : c = d := Option.some.inj h0
        have htail : starts p s = starts p t := ih hrest
        rw [starts, starts, htail]

theorem starts_drop {p : Pattern α} {s : List α} (h : starts p s = true) (n : Nat) :
    starts (p.drop n) (s.drop n) = true := by
  induction n generalizing p s with
  | zero => exact h
  | succ n ih =>
    cases p with
    | nil => cases s <;> rfl
    | cons f p =>
      cases s with
      | nil => cases h
      | cons c s =>
        rw [starts, Bool.and_eq_true] at h
        exact ih h.2

theorem occurs_iff_drop {p : Pattern α} {s : List α} : occurs p s = true ↔ ∃ j, starts p (s.drop j) = true := by
  rw [occurs_iff]
  constructor
  · rintro ⟨l, r, rfl, h⟩
    exact ⟨l.length, by rwa [List.drop_left]⟩
  · rintro ⟨j, h⟩
    exact ⟨s.take j, s.drop j, (List.take_append_drop j s).symm, h⟩

/-- No match of the pattern shares a character with the replacement. -/
def apart (p : Pattern α) (rep : List α) : Bool :=
  (rep.tails.all fun t => t.isEmpty || !agrees p t) && p.tails.all fun q => q.isEmpty || !agrees q rep

theorem not_agrees_drop {p : Pattern α} {rep : List α} (h : apart p rep = true) {n : Nat} (hn : n < rep.length) :
    agrees p (rep.drop n) = false := by
  rw [apart, Bool.and_eq_true, List.all_eq_true] at h
  have hd := h.1 (rep.drop n) (List.mem_tails _ _ |>.2 (List.drop_suffix n rep))
  have hne : (rep.drop n).isEmpty = false := by simpa using hn
  simpa [hne] using hd

theorem not_drop_agrees {p : Pattern α} {rep : List α} (h : apart p rep = true) {n : Nat} (hn : n < p.length) :
    agrees (p.drop n) rep = false := by
  rw [apart, Bool.and_eq_true, List.all_eq_true, List.all_eq_true] at h
  have hd := h.2 (p.drop n) (List.mem_tails _ _ |>.2 (List.drop_suffix n p))
  have hne : (p.drop n).isEmpty = false := by simpa using hn
  simpa [hne] using hd

/-! ## One substitution -/

/-- `s'` is `s` with the blocks that start at `B` replaced, in which each match
starts. -/
structure Patched (p : Pattern α) (rep : List α) (B : Nat → Prop) (s s' : List α) : Prop where
  length : s'.length = s.length
  block : ∀ k, B k → starts p (s.drop k) = true ∧ ∃ rest, s'.drop k = rep ++ rest
  outside : ∀ i, (∀ k, B k → k ≤ i → k + p.length ≤ i) → s'[i]? = s[i]?
  covers : ∀ j, starts p (s.drop j) = true → ∃ k, B k ∧ k ≤ j ∧ j < k + p.length

theorem patched_replaceAll {p : Pattern α} {rep : List α} (hp : p ≠ []) (hlen : rep.length = p.length) (s : List α) :
    ∃ B, Patched p rep B s (replaceAll p rep s) := by
  have hpos : 0 < p.length := List.length_pos_iff.2 hp
  induction hn : s.length using Nat.strong_induction_on generalizing s with
  | _ n ih =>
    cases s with
    | nil =>
      refine ⟨fun _ => False, rfl, fun _ h => h.elim, fun _ _ => rfl, fun j hj => ?_⟩
      have hle := starts_length hj
      simp at hle
      exact absurd hle hp
    | cons c s =>
      by_cases h : starts p (c :: s) = true
      · -- the block at the start, and those of the rest behind it
        have hle := starts_length h
        have hdrop : s.drop (p.length - 1) = (c :: s).drop p.length := by
          obtain ⟨m, hm⟩ := Nat.exists_eq_succ_of_ne_zero hpos.ne'
          rw [hm]
          rfl
        rw [replaceAll_of_starts h, hdrop]
        generalize htext : c :: s = text at *
        obtain ⟨B, hB⟩ := ih (text.drop p.length).length (by rw [List.length_drop, ← hn]; omega) (text.drop p.length) rfl
        refine ⟨fun k => k = 0 ∨ ∃ j, B j ∧ k = p.length + j, ?_, ?_, ?_, ?_⟩
        · rw [List.length_append, hB.length, List.length_drop, hlen]
          omega
        · rintro k (rfl | ⟨j, hj, rfl⟩)
          · exact ⟨h, _, rfl⟩
          · obtain ⟨hs, rest, hrest⟩ := hB.block j hj
            refine ⟨by rwa [List.drop_drop] at hs, rest, ?_⟩
            rw [← hrest, ← List.drop_drop, ← hlen, List.drop_left, hlen]
        · intro i hi
          have hle' : p.length ≤ i := by simpa using hi 0 (.inl rfl) (Nat.zero_le _)
          rw [List.getElem?_append_right (by omega), hB.outside, List.getElem?_drop, hlen, Nat.add_sub_cancel' hle']
          intro k hk hki
          have hnext := hi (p.length + k) (.inr ⟨k, hk, rfl⟩) (by omega)
          omega
        · intro j hj
          by_cases hjp : j < p.length
          · exact ⟨0, .inl rfl, Nat.zero_le _, by omega⟩
          · obtain ⟨k, hk, h1, h2⟩ := hB.covers (j - p.length) (by
              rw [List.drop_drop, Nat.add_sub_cancel' (Nat.le_of_not_lt hjp)]
              exact hj)
            exact ⟨p.length + k, .inr ⟨k, hk, rfl⟩, by omega, by omega⟩
      · obtain ⟨B, hB⟩ := ih s.length (by rw [← hn]; exact Nat.lt_succ_self _) s rfl
        rw [replaceAll_of_not_starts h]
        refine ⟨fun k => ∃ j, B j ∧ k = j + 1, ?_, ?_, ?_, ?_⟩
        · rw [List.length_cons, List.length_cons, hB.length]
        · rintro k ⟨j, hj, rfl⟩
          exact hB.block j hj
        · intro i hi
          cases i with
          | zero => rfl
          | succ i =>
            rw [List.getElem?_cons_succ, List.getElem?_cons_succ]
            refine hB.outside i fun k hk hki => ?_
            have hnext := hi (k + 1) ⟨k, hk, rfl⟩ (Nat.succ_le_succ hki)
            omega
        · intro j hj
          cases j with
          | zero => exact absurd hj h
          | succ j =>
            obtain ⟨k, hk, h1, h2⟩ := hB.covers j hj
            exact ⟨k + 1, ⟨k, hk, rfl⟩, Nat.succ_le_succ h1, by omega⟩

section
variable {p : Pattern α} {rep s s' : List α} {B : Nat → Prop}

/-- A match behind the substitution was there before it, clear of each block. -/
theorem Patched.starts_before (h : Patched p rep B s s') (hlen : rep.length = p.length) {q : Pattern α}
    (ha : apart q rep = true) {j : Nat} (hq : starts q (s'.drop j) = true) :
    starts q (s.drop j) = true ∧ ∀ k, B k → j + q.length ≤ k ∨ k + p.length ≤ j := by
  have hclear : ∀ k, B k → j + q.length ≤ k ∨ k + p.length ≤ j := by
    intro k hk
    by_contra hno
    rw [not_or, Nat.not_le, Nat.not_le] at hno
    obtain ⟨-, rest, hrest⟩ := h.block k hk
    by_cases hkj : k ≤ j
    · -- the match starts in the replacement
      have hin : j - k < rep.length := by omega
      have hsplit : s'.drop j = rep.drop (j - k) ++ rest := by
        rw [← Nat.add_sub_cancel' hkj, ← List.drop_drop, hrest, List.drop_append_of_le_length hin.le,
          Nat.add_sub_cancel_left]
      rw [hsplit] at hq
      exact absurd (starts_append hq) (by rw [not_agrees_drop ha hin]; exact Bool.false_ne_true)
    · -- the replacement starts in the match
      have hin : k - j < q.length := by omega
      have hdrop := starts_drop hq (k - j)
      rw [List.drop_drop, Nat.add_sub_cancel' (by omega), hrest] at hdrop
      exact absurd (starts_append hdrop) (by rw [not_drop_agrees ha hin]; exact Bool.false_ne_true)
  refine ⟨?_, hclear⟩
  rw [← hq]
  apply starts_congr
  intro i hi
  rw [List.getElem?_drop, List.getElem?_drop]
  refine (h.outside (j + i) fun k hk hki => ?_).symm
  rcases hclear k hk with hc | hc <;> omega

/-- Nothing is left to be replaced. -/
theorem Patched.not_occurs (h : Patched p rep B s s') (hp : p ≠ []) (hlen : rep.length = p.length)
    (ha : apart p rep = true) : ¬ occurs p s' = true := by
  intro hocc
  obtain ⟨j, hat⟩ := occurs_iff_drop.1 hocc
  obtain ⟨hs, hclear⟩ := h.starts_before hlen ha hat
  obtain ⟨k, hk, h1, h2⟩ := h.covers _ hs
  have hpos : 0 < p.length := List.length_pos_iff.2 hp
  rcases hclear k hk with hc | hc <;> omega

/-- A character that changes is in a match. -/
theorem Patched.changed (h : Patched p rep B s s') {i : Nat} (hi : s'[i]? ≠ s[i]?) :
    ∃ k, k ≤ i ∧ i < k + p.length ∧ starts p (s.drop k) = true := by
  by_contra hno
  refine hi (h.outside i fun k hk hki => ?_)
  by_contra hlt
  exact hno ⟨k, hki, Nat.lt_of_not_le hlt, (h.block k hk).1⟩

end

/-! ## A sequence of them -/

/-- A substitution with a replacement of the length of a match. -/
structure Edit (α : Type) where
  pattern : Pattern α
  replacement : List α
  pattern_ne : pattern ≠ []
  length_eq : replacement.length = pattern.length

def patch (es : List (Edit α)) (s : List α) : List α := es.foldl (fun s e => replaceAll e.pattern e.replacement s) s

/-- No match of one of the patterns meets a replacement. -/
def Sound (es : List (Edit α)) : Prop := ∀ e ∈ es, ∀ e' ∈ es, apart e.pattern e'.replacement = true

instance (es : List (Edit α)) : Decidable (Sound es) :=
  inferInstanceAs (Decidable (∀ e ∈ es, ∀ e' ∈ es, apart e.pattern e'.replacement = true))

/-- The edit takes the character at `i`. -/
def Edit.Takes (e : Edit α) (s : List α) (i : Nat) : Prop :=
  ∃ k, k ≤ i ∧ i < k + e.pattern.length ∧ starts e.pattern (s.drop k) = true

theorem Edit.patched (e : Edit α) (s : List α) : ∃ B, Patched e.pattern e.replacement B s (replaceAll e.pattern e.replacement s) :=
  patched_replaceAll e.pattern_ne e.length_eq s

theorem patch_append (es es' : List (Edit α)) (s : List α) : patch (es ++ es') s = patch es' (patch es s) :=
  List.foldl_append

theorem patch_length (es : List (Edit α)) (s : List α) : (patch es s).length = s.length := by
  induction es generalizing s with
  | nil => rfl
  | cons e es ih =>
    obtain ⟨B, hB⟩ := e.patched s
    exact (ih _).trans hB.length

theorem patch_starts {es : List (Edit α)} {q : Pattern α} (hq : ∀ e ∈ es, apart q e.replacement = true) {s : List α}
    {j : Nat} (h : starts q ((patch es s).drop j) = true) : starts q (s.drop j) = true := by
  induction es generalizing s with
  | nil => exact h
  | cons e es ih =>
    rw [List.forall_mem_cons] at hq
    obtain ⟨B, hB⟩ := e.patched s
    exact (hB.starts_before e.length_eq hq.1 (ih hq.2 h)).1

theorem patch_not_occurs {es : List (Edit α)} (hs : Sound es) {e : Edit α} (he : e ∈ es) (s : List α) :
    ¬ occurs e.pattern (patch es s) = true := by
  obtain ⟨before, after, rfl⟩ := List.append_of_mem he
  obtain ⟨B, hB⟩ := e.patched (patch before s)
  intro hocc
  rw [patch_append] at hocc
  obtain ⟨j, hat⟩ := occurs_iff_drop.1 hocc
  have hafter : ∀ e' ∈ after, apart e.pattern e'.replacement = true :=
    fun e' he' => hs e he e' (List.mem_append_right _ (List.mem_cons_of_mem _ he'))
  have hstill : starts e.pattern ((replaceAll e.pattern e.replacement (patch before s)).drop j) = true :=
    patch_starts hafter hat
  exact hB.not_occurs e.pattern_ne e.length_eq (hs e he e he) (occurs_iff_drop.2 ⟨j, hstill⟩)

/-- A character that changes is taken by one of the edits in the text as it was. -/
theorem patch_changed {es : List (Edit α)} (hs : Sound es) {s : List α} {i : Nat} (hi : (patch es s)[i]? ≠ s[i]?) :
    ∃ e ∈ es, e.Takes s i := by
  suffices h : ∀ before after, es = before ++ after → (patch before s)[i]? ≠ s[i]? → ∃ e ∈ es, e.Takes s i from
    h es [] (List.append_nil es).symm hi
  intro before
  induction before using List.reverseRecOn with
  | nil => exact fun _ _ h => absurd rfl h
  | append_singleton before e ih =>
    intro after hes hne
    have hmem : ∀ e' ∈ before ++ [e], e' ∈ es := fun e' he' => hes ▸ List.mem_append_left after he'
    by_cases hsame : (patch before s)[i]? = s[i]?
    · obtain ⟨B, hB⟩ := e.patched (patch before s)
      rw [patch_append, ← hsame] at hne
      obtain ⟨k, h1, h2, hk⟩ := hB.changed hne
      have he : e ∈ es := hmem e (List.mem_append_right _ (List.mem_singleton_self e))
      exact ⟨e, he, k, h1, h2, patch_starts (fun e' he' => hs e he e' (hmem e' (List.mem_append_left _ he'))) hk⟩
    · exact ih (e :: after) (by rw [hes, List.append_assoc]; rfl) hsame

/-- Without a match nothing changes. -/
theorem patch_of_not_occurs {es : List (Edit α)} {s : List α} (h : ∀ e ∈ es, ¬ occurs e.pattern s = true) :
    patch es s = s := by
  induction es with
  | nil => rfl
  | cons e es ih =>
    rw [List.forall_mem_cons] at h
    change patch es (replaceAll e.pattern e.replacement s) = s
    rw [replaceAll_of_not_occurs h.1, ih h.2]

theorem patch_patch {es : List (Edit α)} (hs : Sound es) (s : List α) : patch es (patch es s) = patch es s :=
  patch_of_not_occurs fun _ he => patch_not_occurs hs he s

/-! ## Line by line -/

/-- No match lies across a character that is in no class. -/
theorem replaceAll_split {p : Pattern α} (hp : p ≠ []) {d : α} (hd : ∀ f ∈ p, f d = false) (rep l r : List α) :
    replaceAll p rep (l ++ d :: r) = replaceAll p rep l ++ d :: replaceAll p rep r := by
  induction hn : l.length using Nat.strong_induction_on generalizing l with
  | _ n ih =>
    cases l with
    | nil => exact replaceAll_of_not_starts (not_starts_of_head hp hd r) rep
    | cons c l =>
      have hlt : l.length < n := by rw [← hn]; exact Nat.lt_succ_self _
      rw [List.cons_append]
      by_cases h : starts p (c :: (l ++ d :: r)) = true
      · have hs : starts p (c :: l) = true := starts_split hd h
        have hle : p.length - 1 ≤ l.length := by
          have hlen := starts_length hs
          rw [List.length_cons] at hlen
          omega
        have hrest := ih (l.drop (p.length - 1)).length (by rw [List.length_drop]; omega) (l.drop (p.length - 1)) rfl
        rw [replaceAll_of_starts h, replaceAll_of_starts hs, List.drop_append_of_le_length hle, hrest,
          List.append_assoc]
      · have hs : ¬ starts p (c :: l) = true := fun hs => h (starts_append_right hs _)
        rw [replaceAll_of_not_starts h, replaceAll_of_not_starts hs, ih _ hlt l rfl, List.cons_append]

theorem replaceAll_intercalate {p : Pattern α} (hp : p ≠ []) {d : α} (hd : ∀ f ∈ p, f d = false) (rep : List α)
    (ls : List (List α)) :
    replaceAll p rep ([d].intercalate ls) = [d].intercalate (ls.map (replaceAll p rep)) := by
  induction ls with
  | nil => rfl
  | cons l ls ih =>
    cases ls with
    | nil => simp
    | cons l' ls =>
      rw [List.map_cons, List.map_cons, List.intercalate_cons_cons, List.intercalate_cons_cons, ← List.map_cons, ← ih,
        List.append_assoc, List.append_assoc]
      exact replaceAll_split hp hd rep l _

/-- Line by line or all at once: a sequence of edits that match no line end. -/
theorem patch_intercalate {es : List (Edit α)} {d : α} (hd : ∀ e ∈ es, ∀ f ∈ e.pattern, f d = false)
    (ls : List (List α)) : [d].intercalate (ls.map (patch es)) = patch es ([d].intercalate ls) := by
  induction es generalizing ls with
  | nil => exact congrArg _ (List.map_id ls)
  | cons e es ih =>
    rw [List.forall_mem_cons] at hd
    have hmap : ls.map (patch (e :: es)) = (ls.map (replaceAll e.pattern e.replacement)).map (patch es) := by
      rw [List.map_map]
      rfl
    rw [hmap, ih hd.2, ← replaceAll_intercalate e.pattern_ne hd.1]
    rfl

end Patching

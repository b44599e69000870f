import PhhTreble.Lib.Text
/-!
# Searching a text at the starts of its lines

All matches of an expression that starts with `^`, from left to right, where `^`
matches at the start of each line. The expression is given by what it matches at
a place: the item that is read there, and how long it is.
-/

namespace Scanning

open Text

variable {A : Type} (item : List Char → Option (A × Nat))

/-- The items from here on, behind `skip` characters that are matched already;
`start` tells whether this is the start of a line. -/
def scan : Nat → Bool → List Char → List A
  | _, _, [] => []
  | skip + 1, _, c :: s => scan skip (c == '\n') s
  | 0, start, c :: s =>
    match if start then item (c :: s) else none with
    | some (a, n) => a :: scan (n - 1) (c == '\n') s
    | none => scan 0 (c == '\n') s

/-- `re.findall` with `re.MULTILINE`. -/
def findall (s : List Char) : List A := scan item 0 true s

variable {item}

/-- The search goes on behind the line that the match ends with. -/
theorem scan_line (hblank : ∀ s, item ('\n' :: s) = none) (l : List Char) (start : Bool) (s : List Char) :
    scan item l.length start (l ++ '\n' :: s) = findall item s := by
  induction l generalizing start with
  | nil => simp [scan, findall, hblank]
  | cons c l ih => exact ih (c == '\n')

theorem findall_line (hblank : ∀ s, item ('\n' :: s) = none) {a : A} {l : List Char} (hl : l ≠ []) {s : List Char}
    (h : item (l ++ '\n' :: s) = some (a, l.length)) : findall item (l ++ '\n' :: s) = a :: findall item s := by
  obtain ⟨c, l, rfl⟩ := List.exists_cons_of_ne_nil hl
  rw [List.cons_append] at h
  rw [findall, List.cons_append, scan, if_pos rfl, h]
  exact congrArg (a :: ·) (scan_line hblank l (c == '\n') s)

/-- Lines that each are an item are read back. -/
theorem findall_unlines (hblank : ∀ s, item ('\n' :: s) = none) (text : A → List Char) {as : List A}
    (h : ∀ a ∈ as, text a ≠ [] ∧ ∀ s, item (text a ++ '\n' :: s) = some (a, (text a).length)) :
    findall item (unlines (as.map text)) = as := by
  induction as with
  | nil => rfl
  | cons a as ih =>
    obtain ⟨hne, hitem⟩ := h a List.mem_cons_self
    rw [List.map_cons, unlines_cons, findall_line hblank hne (hitem _)]
    rw [ih fun b hb => h b (List.mem_cons_of_mem a hb)]

theorem mem_scan {skip : Nat} {start : Bool} {s : List Char} {a : A} (h : a ∈ scan item skip start s) :
    ∃ t n, t <:+ s ∧ item t = some (a, n) := by
  induction s generalizing skip start with
  | nil => simp [scan] at h
  | cons c s ih =>
    have hrest : ∀ skip', a ∈ scan item skip' (c == '\n') s → ∃ t n, t <:+ c :: s ∧ item t = some (a, n) := by
      intro skip' h'
      obtain ⟨t, n, ht, hitem⟩ := ih h'
      exact ⟨t, n, ht.trans (List.suffix_cons c s), hitem⟩
    cases skip with
    | succ skip => exact hrest skip h
    | zero =>
      rw [scan] at h
      split at h
      · rename_i b n hb
        rcases List.mem_cons.1 h with rfl | h
        · refine ⟨c :: s, n, List.suffix_rfl, ?_⟩
          cases start with
          | true => exact hb
          | false => simp at hb
        · exact hrest _ h
      · exact hrest 0 h

/-- What is found was read somewhere. -/
theorem mem_findall {s : List Char} {a : A} (h : a ∈ findall item s) : ∃ t n, t <:+ s ∧ item t = some (a, n) :=
  mem_scan h

end Scanning

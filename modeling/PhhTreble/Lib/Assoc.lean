import Mathlib.Data.List.Nodup
import PhhTreble.Lib.Selection
/-!
# Maps as association lists

Maps that are filled from a list of entries, by assignments, where a later entry
of a key overwrites an earlier one, or by insertions, where the earlier stays.
-/

namespace Assoc

open Selection (First)

variable {α κ β : Type}

/-- `value` comes with the last entry of `key`. -/
def Last (entries : List (κ × β)) (key : κ) (value : β) : Prop :=
  ∃ pre post, entries = pre ++ (key, value) :: post ∧ ∀ entry ∈ post, entry.1 ≠ key

/-- With distinct keys each entry is the last of its key. -/
theorem last_iff_mem {entries : List (κ × β)} (h : (entries.map Prod.fst).Nodup) {key : κ} {value : β} :
    Last entries key value ↔ (key, value) ∈ entries := by
  constructor
  · rintro ⟨pre, post, rfl, -⟩
    exact List.mem_append_right pre List.mem_cons_self
  · intro hmem
    obtain ⟨pre, post, rfl⟩ := List.append_of_mem hmem
    refine ⟨pre, post, rfl, fun entry he hkey => ?_⟩
    rw [List.map_append, List.map_cons] at h
    have hfirst := (List.nodup_cons.1 (List.nodup_append.1 h).2.1).1
    exact hfirst (List.mem_map.2 ⟨entry, he, hkey⟩)

/-- With distinct keys each entry is found. -/
theorem lookup_iff_mem {m : List (κ × β)} [BEq κ] [LawfulBEq κ] (h : (m.map Prod.fst).Nodup) {key : κ} {value : β} :
    m.lookup key = some value ↔ (key, value) ∈ m := by
  rw [List.lookup_eq_some_iff]
  constructor
  · rintro ⟨pre, post, rfl, -⟩
    exact List.mem_append_right pre List.mem_cons_self
  · intro hmem
    obtain ⟨pre, post, rfl⟩ := List.append_of_mem hmem
    refine ⟨pre, post, rfl, fun entry he => ?_⟩
    rw [List.map_append, List.map_cons] at h
    have hne : entry.1 ≠ key := (List.nodup_append.1 h).2.2 entry.1 (List.mem_map_of_mem he) key List.mem_cons_self
    exact bne_iff_ne.2 hne.symm

/-- `value` comes with the first element whose entry is of `key`. -/
def FirstOf (entry : α → Option (κ × β)) (l : List α) (key : κ) (value : β) : Prop :=
  ∃ a, First (fun a => ∃ v, entry a = some (key, v)) l a ∧ entry a = some (key, value)

variable [DecidableEq κ]

theorem lookup_cons_ite (entry : κ × β) (m : List (κ × β)) (k : κ) :
    (entry :: m).lookup k = if entry.1 = k then some entry.2 else m.lookup k := by
  rw [List.lookup_cons]
  by_cases hk : entry.1 = k
  · simp [hk]
  · have hne : (k == entry.1) = false := by simpa using Ne.symm hk
    rw [hne, if_neg hk]

/-! ## Assignments -/

/-- `m[key] = value`. -/
def assign (m : List (κ × β)) (key : κ) (value : β) : List (κ × β) :=
  (key, value) :: m.filter fun entry => entry.1 != key

/-- The entries assigned one after the other. -/
def assignAll (m entries : List (κ × β)) : List (κ × β) := entries.foldl (fun m entry => assign m entry.1 entry.2) m

@[simp] theorem assignAll_nil (m : List (κ × β)) : assignAll m [] = m := rfl

@[simp] theorem assignAll_cons (m : List (κ × β)) (entry : κ × β) (entries : List (κ × β)) :
    assignAll m (entry :: entries) = assignAll (assign m entry.1 entry.2) entries := rfl

theorem lookup_filter_ne {key k : κ} (h : k ≠ key) (m : List (κ × β)) :
    (m.filter fun entry => entry.1 != key).lookup k = m.lookup k := by
  induction m with
  | nil => rfl
  | cons entry m ih =>
    rw [List.filter_cons]
    split
    · rw [lookup_cons_ite, lookup_cons_ite, ih]
    · rename_i he
      have hkey : entry.1 = key := by simpa using he
      rw [ih, lookup_cons_ite, hkey, if_neg (Ne.symm h)]

theorem lookup_assign (m : List (κ × β)) (key : κ) (value : β) (k : κ) :
    (assign m key value).lookup k = if key = k then some value else m.lookup k := by
  rw [assign, lookup_cons_ite]
  by_cases hk : key = k
  · simp [hk]
  · rw [if_neg hk, if_neg hk, lookup_filter_ne (Ne.symm hk)]

/-- An assignment keeps the keys distinct. -/
theorem nodup_assign {m : List (κ × β)} (h : (m.map Prod.fst).Nodup) (key : κ) (value : β) :
    ((assign m key value).map Prod.fst).Nodup := by
  rw [assign, List.map_cons, List.nodup_cons]
  constructor
  · simp
  · exact h.sublist (List.filter_sublist.map _)

theorem nodup_assignAll (entries : List (κ × β)) {m : List (κ × β)} (h : (m.map Prod.fst).Nodup) :
    ((assignAll m entries).map Prod.fst).Nodup := by
  induction entries generalizing m with
  | nil => exact h
  | cons entry entries ih => exact ih (nodup_assign h entry.1 entry.2)

/-- The last entry of a key decides. -/
theorem lookup_assignAll (m entries : List (κ × β)) (k : κ) :
    (assignAll m entries).lookup k = (entries.reverse.lookup k).or (m.lookup k) := by
  induction entries generalizing m with
  | nil => rfl
  | cons entry entries ih =>
    rw [assignAll_cons, ih, lookup_assign, List.reverse_cons, List.lookup_append, lookup_cons_ite, Option.or_assoc]
    by_cases hk : entry.1 = k
    · simp [hk]
    · simp [hk]

theorem lookup_assignAll_nil_iff {entries : List (κ × β)} {key : κ} {value : β} :
    (assignAll [] entries).lookup key = some value ↔ Last entries key value := by
  rw [lookup_assignAll, List.lookup_nil, Option.or_none, List.lookup_eq_some_iff]
  constructor
  · rintro ⟨pre, post, hentries, hpre⟩
    refine ⟨post.reverse, pre.reverse, ?_, fun entry he => ?_⟩
    · simpa using congrArg List.reverse hentries
    · simpa using Ne.symm (by simpa using hpre entry (List.mem_reverse.1 he))
  · rintro ⟨pre, post, rfl, hpost⟩
    refine ⟨post.reverse, pre.reverse, by simp, fun entry he => ?_⟩
    simpa using Ne.symm (hpost entry (List.mem_reverse.1 he))

/-! ## Insertions -/

/-- `m.insert({key, value})`. -/
def insertNew (m : List (κ × β)) (entry : κ × β) : List (κ × β) := if (m.lookup entry.1).isSome then m else m ++ [entry]

theorem lookup_insertNew (m : List (κ × β)) (entry : κ × β) (k : κ) :
    (insertNew m entry).lookup k = (m.lookup k).or (if entry.1 = k then some entry.2 else none) := by
  unfold insertNew
  split
  · rename_i hsome
    by_cases hk : entry.1 = k
    · obtain ⟨value, hvalue⟩ := Option.isSome_iff_exists.1 (hk ▸ hsome)
      simp [hvalue]
    · simp [hk]
  · rw [List.lookup_append, lookup_cons_ite]
    rfl

/-- The first entry of a key decides. -/
theorem lookup_foldl_insertNew (m entries : List (κ × β)) (k : κ) :
    (entries.foldl insertNew m).lookup k = (m.lookup k).or (entries.lookup k) := by
  induction entries generalizing m with
  | nil => simp
  | cons entry entries ih =>
    rw [List.foldl_cons, ih, lookup_insertNew, lookup_cons_ite, Option.or_assoc]
    by_cases hk : entry.1 = k <;> simp [hk]

theorem insertNew_ne_nil (m : List (κ × β)) (entry : κ × β) : insertNew m entry ≠ [] := by
  intro h
  have hlookup := lookup_insertNew m entry entry.1
  rw [h, if_pos rfl] at hlookup
  cases hm : m.lookup entry.1 <;> simp [hm] at hlookup

theorem foldl_insertNew_eq_nil_iff {m entries : List (κ × β)} :
    entries.foldl insertNew m = [] ↔ m = [] ∧ entries = [] := by
  induction entries generalizing m with
  | nil => simp
  | cons entry entries ih =>
    rw [List.foldl_cons, ih]
    simp [insertNew_ne_nil]

theorem lookup_filterMap_eq_some_iff {entry : α → Option (κ × β)} {l : List α} {key : κ} {value : β} :
    (l.filterMap entry).lookup key = some value ↔ FirstOf entry l key value := by
  unfold FirstOf
  induction l with
  | nil => simp [Selection.not_first_nil]
  | cons a l ih =>
    simp only [Selection.first_cons_iff]
    by_cases ha : ∃ v, entry a = some (key, v)
    · obtain ⟨v, hv⟩ := ha
      rw [List.filterMap_cons_some hv, lookup_cons_ite, if_pos rfl]
      simp [hv]
    · simp only [ha, false_and, false_or, not_false_eq_true, true_and]
      rw [← ih, List.filterMap_cons]
      cases he : entry a with
      | none => rfl
      | some e =>
        have hkey : e.1 ≠ key := fun h => ha ⟨e.2, by rw [he, ← h]⟩
        rw [lookup_cons_ite, if_neg hkey]

/-! ## Updates in place -/

/-- The entries of `key` with another value. -/
def modify (m : List (κ × β)) (key : κ) (f : β → β) : List (κ × β) :=
  m.map fun entry => if entry.1 = key then (entry.1, f entry.2) else entry

theorem mem_modify {m : List (κ × β)} {key : κ} {f : β → β} {entry : κ × β} (h : entry ∈ modify m key f) :
    ∃ value, (entry.1, value) ∈ m ∧ entry.2 = if entry.1 = key then f value else value := by
  obtain ⟨before, hmem, rfl⟩ := List.mem_map.1 h
  refine ⟨before.2, ?_, ?_⟩
  · split <;> exact hmem
  · split <;> simp_all

end Assoc

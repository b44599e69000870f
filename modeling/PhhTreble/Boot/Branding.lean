import PhhTreble.Boot.Selector
import PhhTreble.Lib.Rewriting
/-!
# dumberos-build-properties.sh

The script that rw-system.sh sources to present the build, and what a run of it
leaves in the property store.
-/

namespace PhhTreble.Boot

open Text Rewriting

/-! ## The value -/

/-- A letter in a bracket expression, as in `[Ll]`. -/
def letter (c : Char) : Char → Bool := fun d => d == c || d == c.toUpper

/-- `[Ll][Ii][Nn][Ee][Aa][Gg][Ee]`. -/
def lineage : Pattern Char := "lineage".toList.map letter

def lineageos : Pattern Char := "lineageos".toList.map letter

/-- The expressions of the `sed` call, on one line. -/
def brand (line : List Char) : List Char :=
  let line := replaceAll lineageos "DumberOS".toList line
  let line := replaceAll lineage "dumberos".toList line
  let line := replaceEnd "-userdebug".toList "-user".toList line
  replaceEnd "-eng".toList "-user".toList line

/-- `"$(printf '%s' "$dumberos_value" | sed …)"`. -/
def rewrite (value : Value) : Value := chomp (unlines ((lines value).map brand))

/-! ## The script -/

/-- The properties that are set. -/
abbrev Store := String → Option Value

def Store.getprop (s : Store) (key : String) : Value := got ((s key).getD [])

/-- A store, and the properties that a run has written so far, the last one first. -/
structure Run where
  store : Store
  written : List String

/-- `resetprop_phh`. -/
def Run.resetprop (r : Run) (key : String) (value : Value) : Run :=
  ⟨Function.update r.store key (some value), key :: r.written⟩

/-- `dumberos_set_build_property`. -/
def Run.setBuildProperty (r : Run) (key : String) (value : Value) : Run :=
  if r.store.getprop key ≠ value then r.resetprop key value else r

/-- The body of the loop. -/
def Run.brandProperty (r : Run) (key : String) : Run :=
  let value := rewrite (r.store.getprop key)
  if value ≠ [] then r.setBuildProperty key value else r

def displayKeys : List String := ["ro.build.display.id", "ro.build.flavor"]

def buildProperties (s : Store) : Run :=
  displayKeys.foldl Run.brandProperty (Run.setBuildProperty ⟨s, []⟩ "ro.build.type" "user".toList)

example : brand "LineageOS 21 lineage_vanilla31-userdebug".toList = "DumberOS 21 dumberos_vanilla31-user".toList := by
  decide

/-! ## A line -/

theorem lineageos_eq : lineageos = lineage ++ "os".toList.map letter := rfl

theorem hyphen_not_letter : ∀ f ∈ lineage, f '-' = false := by decide

/-- Neither the name nor the suffixes that are rewritten. -/
structure Branded (line : List Char) : Prop where
  lineage : ¬ occurs lineage line = true
  userdebug : ¬ "-userdebug".toList <:+ line
  eng : ¬ "-eng".toList <:+ line

theorem brand_eq (line : List Char) :
    brand line = replaceEnd "-eng".toList "-user".toList (replaceEnd "-userdebug".toList "-user".toList
      (replaceAll lineage "dumberos".toList (replaceAll lineageos "DumberOS".toList line))) := rfl

theorem brand_of_branded {line : List Char} (h : Branded line) : brand line = line := by
  have hos : ¬ occurs lineageos line = true := fun hos => h.lineage (occurs_of_append (lineageos_eq ▸ hos))
  rw [brand_eq, replaceAll_of_not_occurs hos, replaceAll_of_not_occurs h.lineage, replaceEnd_of_not_suffix h.userdebug,
    replaceEnd_of_not_suffix h.eng]

/-- What ends in `-user` ends in neither suffix. -/
theorem not_suffix_user {suffix : List Char} (h : ¬ suffix <:+ "-user".toList) (h' : ¬ "-user".toList <:+ suffix)
    (l : List Char) : ¬ suffix <:+ l ++ "-user".toList := by
  intro hs
  rcases List.suffix_or_suffix_of_suffix hs (List.suffix_append l _) with hs | hs
  · exact h hs
  · exact h' hs

/-- A suffix that is replaced makes no match: `-` is no letter of the name. -/
theorem not_occurs_replaceEnd {line : List Char} (h : ¬ occurs lineage line = true) (suffix : List Char) :
    ¬ occurs lineage (replaceEnd suffix "-user".toList line) = true := by
  rcases replaceEnd_cases suffix "-user".toList line with ⟨-, hs⟩ | ⟨l, rfl, hs⟩
  · rwa [hs]
  · rw [hs]
    intro ho
    rcases occurs_split (r := "user".toList) (by decide) hyphen_not_letter ho with ho | ho
    · exact h (occurs_append_right ho suffix)
    · exact absurd ho (by decide)

/-- A suffix that is missing stays so, and the one that is replaced is gone. -/
theorem not_suffix_replaceEnd {s suffix line : List Char} (h : s = suffix ∨ ¬ s <:+ line) (hs : ¬ s <:+ "-user".toList)
    (hs' : ¬ "-user".toList <:+ s) : ¬ s <:+ replaceEnd suffix "-user".toList line := by
  rcases replaceEnd_cases suffix "-user".toList line with ⟨hn, hr⟩ | ⟨l, -, hr⟩
  · rw [hr]
    rcases h with rfl | h
    · exact hn
    · exact h
  · rw [hr]
    exact not_suffix_user hs hs' l

theorem branded_brand (line : List Char) : Branded (brand line) := by
  rw [brand_eq]
  have hname : ¬ occurs lineage (replaceAll lineage "dumberos".toList (replaceAll lineageos "DumberOS".toList line)) = true :=
    not_occurs_replaceAll (by decide) (by decide) _
  generalize replaceAll lineage "dumberos".toList (replaceAll lineageos "DumberOS".toList line) = named at hname
  refine ⟨?_, ?_, ?_⟩
  · apply not_occurs_replaceEnd
    exact not_occurs_replaceEnd hname "-userdebug".toList
  · apply not_suffix_replaceEnd (.inr _) (by decide) (by decide)
    exact not_suffix_replaceEnd (.inl rfl) (by decide) (by decide)
  · exact not_suffix_replaceEnd (.inl rfl) (by decide) (by decide)

theorem brand_brand (line : List Char) : brand (brand line) = brand line := brand_of_branded (branded_brand line)

theorem replaceEnd_ne_nil {suffix line : List Char} (h : line ≠ []) : replaceEnd suffix "-user".toList line ≠ [] := by
  rcases replaceEnd_cases suffix "-user".toList line with ⟨-, hs⟩ | ⟨l, -, hs⟩
  · rwa [hs]
  · rw [hs]
    exact List.append_ne_nil_of_right_ne_nil l (by decide)

theorem brand_ne_nil {line : List Char} (h : line ≠ []) : brand line ≠ [] := by
  rw [brand_eq]
  apply replaceEnd_ne_nil
  apply replaceEnd_ne_nil
  apply replaceAll_ne_nil (by decide)
  apply replaceAll_ne_nil (by decide)
  exact h

theorem mem_replaceEnd {suffix line : List Char} {c : Char} (h : c ∈ replaceEnd suffix "-user".toList line) :
    c ∈ "-user".toList ∨ c ∈ line := by
  rcases replaceEnd_cases suffix "-user".toList line with ⟨-, hs⟩ | ⟨l, rfl, hs⟩
  · rw [hs] at h
    exact .inr h
  · rw [hs] at h
    rcases List.mem_append.1 h with h | h
    · exact .inr (List.mem_append_left _ h)
    · exact .inl h

theorem newline_notMem_brand {line : List Char} (h : '\n' ∉ line) : '\n' ∉ brand line := by
  rw [brand_eq]
  intro hm
  rcases mem_replaceEnd hm with hm | hm
  · exact absurd hm (by decide)
  rcases mem_replaceEnd hm with hm | hm
  · exact absurd hm (by decide)
  rcases mem_replaceAll hm with hm | hm
  · exact absurd hm (by decide)
  rcases mem_replaceAll hm with hm | hm
  · exact absurd hm (by decide)
  exact h hm

/-! ## A value -/

theorem newline_notMem_of_branded {v l : List Char} (h : l ∈ (lines v).map brand) : '\n' ∉ l := by
  obtain ⟨line, hline, rfl⟩ := List.mem_map.1 h
  exact newline_notMem_brand (newline_notMem_of_mem_lines hline)

/-- A line is rewritten by itself. -/
theorem rewrite_line {v : Value} (h : '\n' ∉ v) : rewrite v = brand v := by
  by_cases hv : v = []
  · rw [hv]
    rfl
  · rw [rewrite, lines_of_notMem h hv, List.map_singleton, unlines_cons]
    exact (chomp_append_newlines (brand v) 1).trans (chomp_of_notMem (newline_notMem_brand h))

theorem rewrite_rewrite (v : Value) : rewrite (rewrite v) = rewrite v := by
  have hlines : ∀ l ∈ (lines v).map brand, '\n' ∉ l := fun l => newline_notMem_of_branded
  obtain ⟨hread, hchomp⟩ := lines_chomp_unlines hlines
  have hsame : (((lines v).map brand).rdropWhile List.isEmpty).map brand =
      ((lines v).map brand).rdropWhile List.isEmpty := by
    refine (List.map_congr_left fun l hl => ?_).trans (List.map_id _)
    obtain ⟨line, -, rfl⟩ := List.mem_map.1 ((List.rdropWhile_prefix _ _).mem hl)
    exact brand_brand line
  rw [rewrite, rewrite, hread, hsame, hchomp]

theorem got_rewrite (v : Value) : got (rewrite v) = rewrite v := by
  rw [got_eq]
  exact List.rdropWhile_idempotent _ _

/-! ## A property -/

theorem Run.resetprop_getprop (r : Run) (key : String) (v : Value) : (r.resetprop key v).store.getprop key = got v := by
  simp [Store.getprop, Run.resetprop]

theorem Run.resetprop_getprop_ne (r : Run) {key other : String} (h : other ≠ key) (v : Value) :
    (r.resetprop key v).store.getprop other = r.store.getprop other := by
  simp [Store.getprop, Run.resetprop, h]

/-- The script has nothing to write to the property. -/
def Store.Presented (s : Store) (key : String) : Prop := rewrite (s.getprop key) = [] ∨ rewrite (s.getprop key) = s.getprop key

/-- The body of the loop leaves a presented property, or writes it. -/
theorem Run.brandProperty_cases (r : Run) (key : String) :
    (r.store.Presented key ∧ r.brandProperty key = r) ∨
      (rewrite (r.store.getprop key) ≠ [] ∧
        r.brandProperty key = r.resetprop key (rewrite (r.store.getprop key))) := by
  unfold Run.brandProperty Run.setBuildProperty
  dsimp only
  split
  · rename_i hne
    split
    · exact .inr ⟨hne, rfl⟩
    · rename_i heq
      exact .inl ⟨.inr (not_not.1 heq).symm, rfl⟩
  · rename_i heq
    exact .inl ⟨.inl (not_not.1 heq), rfl⟩

theorem Run.brandProperty_presented (r : Run) (key : String) : (r.brandProperty key).store.Presented key := by
  rcases r.brandProperty_cases key with ⟨hp, hr⟩ | ⟨-, hr⟩
  · rwa [hr]
  · rw [hr, Store.Presented, Run.resetprop_getprop, got_rewrite, rewrite_rewrite]
    exact .inr rfl

theorem Run.brandProperty_getprop_ne (r : Run) {key other : String} (h : other ≠ key) :
    (r.brandProperty key).store.getprop other = r.store.getprop other := by
  rcases r.brandProperty_cases key with ⟨-, hr⟩ | ⟨-, hr⟩
  · rw [hr]
  · rw [hr, Run.resetprop_getprop_ne r h]

theorem Run.brandProperty_of_presented {r : Run} {key : String} (h : r.store.Presented key) : r.brandProperty key = r := by
  unfold Run.brandProperty Run.setBuildProperty
  dsimp only
  split
  · rename_i hne
    exact if_neg (not_not.2 (h.resolve_left hne).symm)
  · rfl

/-! ## A run of the script -/

/-- The type is set unless it reads `user`. -/
theorem Run.setBuildProperty_cases (r : Run) (key : String) (v : Value) :
    (r.store.getprop key = v ∧ r.setBuildProperty key v = r) ∨
      (r.store.getprop key ≠ v ∧ r.setBuildProperty key v = r.resetprop key v) := by
  unfold Run.setBuildProperty
  by_cases h : r.store.getprop key = v
  · exact .inl ⟨h, if_neg (not_not.2 h)⟩
  · exact .inr ⟨h, if_pos h⟩

/-- The type reads `user`, and the two other properties are presented. -/
structure Store.Done (s : Store) : Prop where
  type : s.getprop "ro.build.type" = "user".toList
  display : s.Presented "ro.build.display.id"
  flavor : s.Presented "ro.build.flavor"

theorem buildProperties_eq (s : Store) :
    buildProperties s = ((Run.setBuildProperty ⟨s, []⟩ "ro.build.type" "user".toList).brandProperty
      "ro.build.display.id").brandProperty "ro.build.flavor" := by
  simp only [buildProperties, displayKeys, List.foldl_cons, List.foldl_nil]

theorem buildProperties_done (s : Store) : (buildProperties s).store.Done := by
  rw [buildProperties_eq]
  have htype : (Run.setBuildProperty ⟨s, []⟩ "ro.build.type" "user".toList).store.getprop "ro.build.type" =
      "user".toList := by
    rcases Run.setBuildProperty_cases ⟨s, []⟩ "ro.build.type" "user".toList with ⟨hv, hr⟩ | ⟨-, hr⟩
    · rw [hr]
      exact hv
    · rw [hr, Run.resetprop_getprop]
      decide
  generalize Run.setBuildProperty ⟨s, []⟩ "ro.build.type" "user".toList = typed at htype
  refine ⟨?_, ?_, Run.brandProperty_presented _ _⟩
  · rw [Run.brandProperty_getprop_ne _ (by decide), Run.brandProperty_getprop_ne _ (by decide), htype]
  · rw [Store.Presented, Run.brandProperty_getprop_ne _ (by decide)]
    exact Run.brandProperty_presented typed _

/-- A run on a store that is done writes nothing. -/
theorem buildProperties_of_done {s : Store} (h : s.Done) : buildProperties s = ⟨s, []⟩ := by
  have htype : Run.setBuildProperty ⟨s, []⟩ "ro.build.type" "user".toList = ⟨s, []⟩ := by
    rcases Run.setBuildProperty_cases ⟨s, []⟩ "ro.build.type" "user".toList with ⟨-, hr⟩ | ⟨hne, -⟩
    · exact hr
    · exact absurd h.type hne
  rw [buildProperties_eq, htype, Run.brandProperty_of_presented (r := ⟨s, []⟩) h.display,
    Run.brandProperty_of_presented (r := ⟨s, []⟩) h.flavor]

theorem Run.brandProperty_written (r : Run) (key : String) : (r.brandProperty key).written ⊆ key :: r.written := by
  rcases r.brandProperty_cases key with ⟨-, hr⟩ | ⟨-, hr⟩
  · rw [hr]
    exact List.subset_cons_self key r.written
  · rw [hr]
    exact List.Subset.refl _

theorem buildProperties_written (s : Store) : (buildProperties s).written ⊆ "ro.build.type" :: displayKeys := by
  have htype : (Run.setBuildProperty ⟨s, []⟩ "ro.build.type" "user".toList).written ⊆ ["ro.build.type"] := by
    rcases Run.setBuildProperty_cases ⟨s, []⟩ "ro.build.type" "user".toList with ⟨-, hr⟩ | ⟨-, hr⟩
    · rw [hr]
      exact List.nil_subset _
    · rw [hr]
      exact List.Subset.refl _
  rw [buildProperties_eq]
  intro key hkey
  rcases List.mem_cons.1 (Run.brandProperty_written _ _ hkey) with rfl | hkey
  · decide
  rcases List.mem_cons.1 (Run.brandProperty_written _ _ hkey) with rfl | hkey
  · decide
  rw [List.mem_singleton.1 (htype hkey)]
  decide

/-! ## The name in any case -/

/-- A letter is in the bracket expression of its lower case. -/
theorem letter_toLower (d : Char) : letter d.toLower d = true := by
  by_cases hd : d.toNat < 128
  · have hascii : ∀ n : Fin 128, letter (Char.ofNat n).toLower (Char.ofNat n) = true := by decide
    have h := hascii ⟨d.toNat, hd⟩
    rwa [Char.ofNat_toNat] at h
  · have hsame : d.toLower = d := by
      apply dif_neg
      rintro ⟨-, hz⟩
      have hz : d.val.toNat ≤ 90 := UInt32.le_iff_toNat_le.1 hz
      exact hd (show d.val.toNat < 128 by omega)
    rw [hsame, letter, beq_self_eq_true, Bool.true_or]

theorem starts_letters {s : List Char} : starts ((s.map Char.toLower).map letter) s = true := by
  induction s with
  | nil => rfl
  | cons c s ih =>
    rw [List.map_cons, List.map_cons, starts, letter_toLower, ih]
    rfl

theorem starts_lineage {s : List Char} (h : s.map Char.toLower = "lineage".toList) : starts lineage s = true := by
  have hl : lineage = (s.map Char.toLower).map letter := congrArg (List.map letter) h.symm
  rw [hl]
  exact starts_letters

/-- The rewriting of a line removes the name and the suffixes for good, and a run
of the script leaves nothing for another. -/
theorem branding_projection :
    (∀ v, '\n' ∉ v →
      (∀ s, s <:+: rewrite v → s.map Char.toLower ≠ "lineage".toList) ∧
        ¬ "-userdebug".toList <:+ rewrite v ∧ ¬ "-eng".toList <:+ rewrite v ∧
        (v ≠ [] → rewrite v ≠ []) ∧ rewrite (rewrite v) = rewrite v) ∧
      ∀ s, (buildProperties (buildProperties s).store).written = [] ∧
        ∀ key ∈ (buildProperties s).written, key ∈ ["ro.build.type", "ro.build.display.id", "ro.build.flavor"] := by
  constructor
  · intro v hv
    have hb := branded_brand v
    rw [← rewrite_line hv] at hb
    refine ⟨?_, hb.userdebug, hb.eng, ?_, rewrite_rewrite v⟩
    · rintro s ⟨l, r, hs⟩ hlower
      refine hb.lineage (occurs_iff.2 ⟨l, s ++ r, ?_, starts_append_right (starts_lineage hlower) r⟩)
      rw [← hs, List.append_assoc]
    · rw [rewrite_line hv]
      exact brand_ne_nil
  · intro s
    constructor
    · rw [buildProperties_of_done (buildProperties_done s)]
    · intro key hkey
      have hmem := buildProperties_written s hkey
      rwa [displayKeys] at hmem

end PhhTreble.Boot

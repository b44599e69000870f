import PhhTreble.Boot.Branding
/-!
# The ROM audit

`audit_properties` of audit_rom_compatibility.py, against what
dumberos-build-properties.sh leaves.
-/

namespace PhhTreble.Boot

open Text Rewriting

/-! ## str.lower -/

/-- The lower case of a character in Python. Of the ASCII characters only `i`,
before a combining dot, and `k` are in that of another. -/
structure PyLower where
  lower : Char → List Char
  ascii : ∀ c, c.toNat < 128 → lower c = [c.toLower]
  other : ∀ c, 128 ≤ c.toNat → lower c ≠ [] ∧
    ((∀ d ∈ lower c, 128 ≤ d.toNat) ∨ lower c = ['i', '\u0307'] ∨ lower c = ['k'])

/-- Without the letters of other alphabets, which no check looks for. -/
def PyLower.latin : PyLower where
  lower c :=
    if c.toNat < 128 then [c.toLower]
    else if c = '\u0130' then ['i', '\u0307']
    else if c = '\u212a' then ['k']
    else [c]
  ascii c hc := if_pos hc
  other c hc := by
    rw [if_neg (Nat.not_lt.2 hc)]
    split
    · exact ⟨List.cons_ne_nil _ _, .inr (.inl rfl)⟩
    · split
      · exact ⟨List.cons_ne_nil _ _, .inr (.inr rfl)⟩
      · refine ⟨List.cons_ne_nil _ _, .inl fun d hd => ?_⟩
        rwa [List.mem_singleton.1 hd]

def PyLower.str (py : PyLower) (s : Value) : Value := s.flatMap py.lower

/-! ## audit_properties -/

inductive Failure where
  | expected (key : String) (expected : Value) (got : Option Value)
  | legacy (key : String)
  | metadata (key : String) (value : Value)
  | adbRoot
  | migrated (key : String)
deriving DecidableEq, Repr

/-- The property that a failure is about. -/
def Failure.key : Failure → String
  | .expected key _ _ | .legacy key | .metadata key _ | .migrated key => key
  | .adbRoot => "service.adb.root"

/-- `RULES["lineage_properties"]`. -/
def lineage_properties : List String :=
  ["ro.lineage.build.version", "ro.lineage.build.version.plat.rev", "ro.lineage.build.version.plat.sdk",
    "ro.lineage.device", "ro.lineage.display.version", "ro.lineage.releasetype", "ro.lineage.version",
    "ro.lineagelegal.url"]

def expectedProperties : List (String × Value) :=
  [("ro.build.type", "user".toList), ("ro.build.tags", "release-keys".toList), ("ro.debuggable", "0".toList),
    ("ro.secure", "1".toList)]

/-- `props.get(key, "")`. -/
def Store.text (props : Store) (key : String) : Value := (props key).getD []

def auditProperties (py : PyLower) (props : Store) : List Failure :=
  (expectedProperties.filterMap fun (key, expected) =>
    if props key ≠ some expected then some (.expected key expected (props key)) else none) ++
  (lineage_properties.filterMap fun key => if props.text key ≠ [] then some (.legacy key) else none) ++
  (displayKeys.filterMap fun key =>
    if props.text key = [] ∨ "lineage".toList <:+: py.str (props.text key) then some (.metadata key (props.text key))
    else none) ++
  (if props.text "service.adb.root" ≠ [] ∧ props.text "service.adb.root" ≠ "0".toList then [.adbRoot] else []) ++
  ["ro.dumberos.version", "ro.build.product", "ro.dumberos.build.version.plat.sdk"].filterMap fun key =>
    if props.text key = [] then some (.migrated key) else none

/-- The properties that present the build. -/
def presentationKeys : List String := ["ro.build.type", "ro.build.tags", "ro.build.display.id", "ro.build.flavor"]

/-- No failure is about them. -/
def Passes (py : PyLower) (props : Store) : Prop := ∀ f ∈ auditProperties py props, f.key ∉ presentationKeys

/-- Where a check makes a failure about one key of the list, the list passes if
the check finds nothing of the presentation keys. -/
theorem filterMap_passes {A : Type} {xs : List A} {check : A → Option Failure} (key : A → String)
    (hkey : ∀ x f, check x = some f → f.key = key x) :
    (∀ f ∈ xs.filterMap check, f.key ∉ presentationKeys) ↔
      ∀ x ∈ xs, key x ∈ presentationKeys → check x = none := by
  constructor
  · intro h x hx hk
    cases hc : check x with
    | none => rfl
    | some f => exact absurd (hkey x f hc ▸ hk) (h f (List.mem_filterMap.2 ⟨x, hx, hc⟩))
  · intro h f hf hk
    obtain ⟨x, hx, hc⟩ := List.mem_filterMap.1 hf
    rw [h x hx (hkey x f hc ▸ hk)] at hc
    cases hc

theorem check_eq_none {P : Prop} [Decidable P] {f : Failure} : (if P then some f else none) = none ↔ ¬ P := by
  split
  · rename_i h
    constructor
    · intro hn
      cases hn
    · intro hn
      exact absurd h hn
  · rename_i h
    exact ⟨fun _ => h, fun _ => rfl⟩

theorem passes_iff (py : PyLower) (props : Store) : Passes py props ↔
    props "ro.build.type" = some "user".toList ∧ props "ro.build.tags" = some "release-keys".toList ∧
      ∀ key ∈ displayKeys, props.text key ≠ [] ∧ ¬ "lineage".toList <:+: py.str (props.text key) := by
  unfold Passes auditProperties
  simp only [List.forall_mem_append]
  rw [filterMap_passes Prod.fst, filterMap_passes id, filterMap_passes id, filterMap_passes id]
  · have hexpected : (∀ x ∈ expectedProperties, x.1 ∈ presentationKeys →
        (if props x.1 ≠ some x.2 then some (Failure.expected x.1 x.2 (props x.1)) else none) = none) ↔
        props "ro.build.type" = some "user".toList ∧ props "ro.build.tags" = some "release-keys".toList := by
      have hother : "ro.debuggable" ∉ presentationKeys ∧ "ro.secure" ∉ presentationKeys := by decide
      have hkeys : "ro.build.type" ∈ presentationKeys ∧ "ro.build.tags" ∈ presentationKeys := by decide
      simp only [expectedProperties, List.forall_mem_cons, check_eq_none, not_not, hkeys.1, hkeys.2, hother.1, hother.2,
        true_implies, false_implies, List.not_mem_nil, implies_true, and_true]
    have hlegacy : ∀ key ∈ lineage_properties, key ∉ presentationKeys := by decide
    have hmigrated : ∀ key ∈ ["ro.dumberos.version", "ro.build.product", "ro.dumberos.build.version.plat.sdk"],
        key ∉ presentationKeys := by decide
    have hdisplay : ∀ key ∈ displayKeys, key ∈ presentationKeys := by decide
    constructor
    · rintro ⟨⟨⟨⟨he, -⟩, hd⟩, -⟩, -⟩
      obtain ⟨htype, htags⟩ := hexpected.1 he
      refine ⟨htype, htags, fun key hkey => ?_⟩
      exact not_or.1 (check_eq_none.1 (hd key hkey (hdisplay key hkey)))
    · rintro ⟨htype, htags, hd⟩
      refine ⟨⟨⟨⟨hexpected.2 ⟨htype, htags⟩, ?_⟩, ?_⟩, ?_⟩, ?_⟩
      · exact fun key hkey hk => absurd hk (hlegacy key hkey)
      · intro key hkey _
        exact check_eq_none.2 (not_or.2 (hd key hkey))
      · intro f hf
        split at hf
        · rw [List.mem_singleton.1 hf]
          exact of_decide_eq_true rfl
        · cases hf
      · exact fun key hkey hk => absurd hk (hmigrated key hkey)
  all_goals
    intro x f hf
    split at hf
    · cases hf
      rfl
    · cases hf

/-! ## The name in lower case -/

/-- ASCII letters that are no part of the lower case of another character. -/
def Plain (w : List Char) : Prop := (∀ c ∈ w, c.toNat < 128 ∧ c ≠ 'k') ∧ ∀ l, w ≠ l ++ ['i']

theorem Plain.tail {c : Char} {w : List Char} (h : Plain (c :: w)) : Plain w :=
  ⟨fun d hd => h.1 d (List.mem_cons_of_mem c hd), fun l hl => h.2 (c :: l) (by rw [hl]; rfl)⟩

section
variable (py : PyLower)

theorem starts_of_lower {w : List Char} (hw : Plain w) {s : Value} (h : w <+: py.str s) :
    starts (w.map letter) s = true := by
  induction w generalizing s with
  | nil => rfl
  | cons a w ih =>
    obtain ⟨ha, hk⟩ := hw.1 a List.mem_cons_self
    cases s with
    | nil => exact absurd (List.prefix_nil.1 h) (List.cons_ne_nil a w)
    | cons c s =>
      rw [PyLower.str, List.flatMap_cons] at h
      by_cases hc : c.toNat < 128
      · rw [py.ascii c hc] at h
        obtain ⟨rfl, hrest⟩ := List.cons_prefix_cons.1 h
        rw [List.map_cons, starts, letter_toLower, ih hw.tail hrest]
        rfl
      · -- no other character has a lower case that the word goes through
        obtain ⟨hne, hbig | hi | hkelvin⟩ := py.other c (Nat.not_lt.1 hc)
        · obtain ⟨d, ds, hd⟩ := List.exists_cons_of_ne_nil hne
          rw [hd] at h hbig
          obtain ⟨rfl, -⟩ := List.cons_prefix_cons.1 h
          exact absurd ha (Nat.not_lt.2 (hbig a List.mem_cons_self))
        · rw [hi] at h
          obtain ⟨rfl, hrest⟩ := List.cons_prefix_cons.1 h
          cases w with
          | nil => exact absurd rfl (hw.2 [])
          | cons b w =>
            obtain ⟨rfl, -⟩ := List.cons_prefix_cons.1 hrest
            exact absurd (hw.1 _ (List.mem_cons_of_mem _ List.mem_cons_self)).1 (by decide)
        · rw [hkelvin] at h
          exact absurd (List.cons_prefix_cons.1 h).1 hk

/-- A word does not start inside text without its first character. -/
theorem infix_of_append {a : Char} {w u s : List Char} (ha : a ∉ u) (h : a :: w <:+: u ++ s) : a :: w <:+: s := by
  induction u with
  | nil => exact h
  | cons c u ih =>
    rw [List.mem_cons, not_or] at ha
    rw [List.cons_append, List.infix_cons_iff] at h
    rcases h with h | h
    · exact absurd (List.cons_prefix_cons.1 h).1 ha.1
    · exact ih ha.2 h

theorem occurs_of_lower {a : Char} {w : List Char} (hw : Plain (a :: w)) (ha : a ≠ 'i') {s : Value}
    (h : a :: w <:+: py.str s) : occurs ((a :: w).map letter) s = true := by
  obtain ⟨hascii, hk⟩ := hw.1 a List.mem_cons_self
  induction s with
  | nil => exact absurd (List.infix_nil.1 h) (List.cons_ne_nil a w)
  | cons c s ih =>
    rw [occurs, Bool.or_eq_true]
    rw [PyLower.str, List.flatMap_cons] at h
    by_cases hc : c.toNat < 128
    · rw [py.ascii c hc, List.singleton_append, List.infix_cons_iff] at h
      rcases h with h | h
      · left
        apply starts_of_lower py hw
        rwa [PyLower.str, List.flatMap_cons, py.ascii c hc]
      · exact .inr (ih h)
    · right
      apply ih
      apply infix_of_append _ h
      obtain ⟨-, hbig | hi | hkelvin⟩ := py.other c (Nat.not_lt.1 hc)
      · intro hmem
        exact absurd hascii (Nat.not_lt.2 (hbig a hmem))
      · rw [hi, List.mem_cons, List.mem_singleton, not_or]
        refine ⟨ha, ?_⟩
        rintro rfl
        exact absurd hascii (by decide)
      · rw [hkelvin, List.mem_singleton]
        exact hk

theorem plain_lineage : Plain "lineage".toList := by
  refine ⟨by simp, fun l hl => ?_⟩
  have hlast := congrArg List.getLast? hl
  rw [List.getLast?_concat] at hlast
  exact absurd hlast (by decide)

theorem occurs_lineage_of_lower {s : Value} (h : "lineage".toList <:+: py.str s) : occurs lineage s = true :=
  occurs_of_lower py plain_lineage (by decide) h

end

/-! ## What the script leaves -/

theorem newline_not_letter : ∀ f ∈ lineage, f '\n' = false := by decide

/-- No match lies across two lines. -/
theorem occurs_unlines {ls : List (List Char)} (h : occurs lineage (unlines ls) = true) :
    ∃ l ∈ ls, occurs lineage l = true := by
  induction ls with
  | nil => exact absurd h (by decide)
  | cons l ls ih =>
    rw [unlines_cons] at h
    rcases occurs_split (by decide) newline_not_letter h with h | h
    · exact ⟨l, List.mem_cons_self, h⟩
    · obtain ⟨m, hm, ho⟩ := ih h
      exact ⟨m, List.mem_cons_of_mem l hm, ho⟩

theorem occurs_of_isPrefix {s t : List Char} (hs : s <+: t) (h : occurs lineage s = true) : occurs lineage t = true := by
  obtain ⟨r, rfl⟩ := hs
  exact occurs_append_right h r

theorem not_occurs_rewrite (v : Value) : ¬ occurs lineage (rewrite v) = true := by
  intro h
  obtain ⟨l, hl, ho⟩ := occurs_unlines (occurs_of_isPrefix (chomp_isPrefix _) h)
  obtain ⟨line, -, rfl⟩ := List.mem_map.1 hl
  exact (branded_brand line).lineage ho

/-- Only text without the name is rewritten to nothing. -/
theorem not_occurs_of_rewrite_nil {v : Value} (h : rewrite v = []) : ¬ occurs lineage v = true := by
  intro ho
  obtain ⟨l, hl, ho⟩ := occurs_unlines (occurs_of_isPrefix (prefix_unlines_lines v) ho)
  have hlines : ∀ m ∈ (lines v).map brand, '\n' ∉ m := fun m => newline_notMem_of_branded
  have hnone := (lines_chomp_unlines hlines).1
  rw [show chomp (unlines ((lines v).map brand)) = [] from h] at hnone
  have hempty := List.rdropWhile_eq_nil_iff.1 hnone.symm (brand l) (List.mem_map_of_mem hl)
  have hne : l ≠ [] := by
    rintro rfl
    exact absurd ho (by decide)
  exact brand_ne_nil hne (List.isEmpty_iff.1 hempty)

/-- Newlines at the end make no match. -/
theorem occurs_got {v : Value} (h : occurs lineage v = true) : occurs lineage (got v) = true := by
  rw [got_eq]
  obtain ⟨k, hk⟩ := eq_chomp_append v
  generalize chomp v = t at hk
  subst hk
  induction k with
  | zero => rwa [List.replicate_zero, List.append_nil] at h
  | succ k ih =>
    rw [List.replicate_succ', ← List.append_assoc] at h
    rcases occurs_split (r := []) (by decide) newline_not_letter h with h | h
    · exact ih h
    · exact absurd h (by decide)

theorem Store.Presented.not_occurs {s : Store} {key : String} (h : s.Presented key) :
    ¬ occurs lineage (s.text key) = true := by
  intro ho
  have hgot : occurs lineage (s.getprop key) = true := occurs_got ho
  rcases h with h | h
  · exact not_occurs_of_rewrite_nil h hgot
  · rw [← h] at hgot
    exact not_occurs_rewrite _ hgot

theorem Run.resetprop_store (r : Run) (key : String) (v : Value) : (r.resetprop key v).store key = some v := by
  simp [Run.resetprop]

theorem Run.resetprop_store_ne (r : Run) {key other : String} (h : other ≠ key) (v : Value) :
    (r.resetprop key v).store other = r.store other := by
  simp [Run.resetprop, h]

theorem Run.setBuildProperty_store_ne (r : Run) {key other : String} (h : other ≠ key) (v : Value) :
    (r.setBuildProperty key v).store other = r.store other := by
  rcases r.setBuildProperty_cases key v with ⟨-, hr⟩ | ⟨-, hr⟩
  · rw [hr]
  · rw [hr, Run.resetprop_store_ne r h]

theorem Run.brandProperty_store_ne (r : Run) {key other : String} (h : other ≠ key) :
    (r.brandProperty key).store other = r.store other := by
  rcases r.brandProperty_cases key with ⟨-, hr⟩ | ⟨-, hr⟩
  · rw [hr]
  · rw [hr, Run.resetprop_store_ne r h]

/-- A value that is there stays, or another is there instead. -/
theorem Run.brandProperty_text (r : Run) {key : String} (h : r.store.text key ≠ []) :
    (r.brandProperty key).store.text key ≠ [] := by
  rcases r.brandProperty_cases key with ⟨-, hr⟩ | ⟨hne, hr⟩
  · rwa [hr]
  · rw [hr, Store.text, Run.resetprop_store]
    exact hne

/-- The script sets no tag, and the type only where it does not read `user`. -/
theorem buildProperties_tags (s : Store) : (buildProperties s).store "ro.build.tags" = s "ro.build.tags" := by
  rw [buildProperties_eq, Run.brandProperty_store_ne _ (by decide), Run.brandProperty_store_ne _ (by decide),
    Run.setBuildProperty_store_ne _ (by decide)]

/-- The type is `user` for the script but not for the audit: newlines follow. -/
def Store.PaddedType (s : Store) : Prop := s.getprop "ro.build.type" = "user".toList ∧ s "ro.build.type" ≠ some "user".toList

theorem buildProperties_type (s : Store) :
    (buildProperties s).store "ro.build.type" = some "user".toList ↔ ¬ s.PaddedType := by
  rw [buildProperties_eq, Run.brandProperty_store_ne _ (by decide), Run.brandProperty_store_ne _ (by decide)]
  unfold Store.PaddedType
  rcases Run.setBuildProperty_cases ⟨s, []⟩ "ro.build.type" "user".toList with ⟨hv, hr⟩ | ⟨hv, hr⟩
  · rw [hr]
    exact ⟨fun h hp => hp.2 h, fun h => by_contra fun hn => h ⟨hv, hn⟩⟩
  · rw [hr, Run.resetprop_store]
    exact ⟨fun _ hp => hv hp.1, fun _ => rfl⟩

theorem buildProperties_text (s : Store) {key : String} (hkey : key ∈ displayKeys) (h : s.text key ≠ []) :
    (buildProperties s).store.text key ≠ [] := by
  have htype : (Run.setBuildProperty ⟨s, []⟩ "ro.build.type" "user".toList).store.text key ≠ [] := by
    rw [Store.text, Run.setBuildProperty_store_ne]
    · exact h
    · rintro rfl
      exact absurd hkey (by decide)
  rw [buildProperties_eq]
  simp only [displayKeys, List.mem_cons, List.not_mem_nil, or_false] at hkey
  rcases hkey with rfl | rfl
  · rw [Store.text, Run.brandProperty_store_ne _ (by decide)]
    exact Run.brandProperty_text _ htype
  · apply Run.brandProperty_text
    rw [Store.text, Run.brandProperty_store_ne _ (by decide)]
    exact htype

/-- After the script the audit passes the presentation exactly when the tags,
which the script does not set, were right before. -/
theorem audit_passes_iff (py : PyLower) (s : Store) (h : ∀ key ∈ displayKeys, s.text key ≠ []) :
    Passes py (buildProperties s).store ↔ s "ro.build.tags" = some "release-keys".toList ∧ ¬ s.PaddedType := by
  rw [passes_iff, buildProperties_tags, buildProperties_type]
  constructor
  · rintro ⟨htype, htags, -⟩
    exact ⟨htags, htype⟩
  · rintro ⟨htags, htype⟩
    refine ⟨htype, htags, fun key hkey => ⟨buildProperties_text s hkey (h key hkey), fun hname => ?_⟩⟩
    have hdone := buildProperties_done s
    have hpresented : (buildProperties s).store.Presented key := by
      simp only [displayKeys, List.mem_cons, List.not_mem_nil, or_false] at hkey
      rcases hkey with rfl | rfl
      · exact hdone.display
      · exact hdone.flavor
    exact hpresented.not_occurs (occurs_lineage_of_lower py hname)

/-- A build with release keys. -/
theorem audit_passes_released :
    let s : Store := fun key => [("ro.build.type", "userdebug".toList), ("ro.build.tags", "release-keys".toList),
      ("ro.build.display.id", "LineageOS 21".toList), ("ro.build.flavor", "lineage_vanilla31-userdebug".toList)].lookup key
    Passes .latin (buildProperties s).store ↔ s "ro.build.tags" = some "release-keys".toList ∧ ¬ s.PaddedType := by
  apply audit_passes_iff
  decide

/-- The build of the regression test: its test keys stay. -/
theorem audit_test_keys :
    let s : Store := fun key => [("ro.build.type", "userdebug".toList), ("ro.build.tags", "test-keys".toList),
      ("ro.build.display.id", "LineageOS 21 20261105".toList),
      ("ro.build.flavor", "lineage_vanilla31-userdebug".toList)].lookup key
    (∀ key ∈ displayKeys, s.text key ≠ []) ∧ (buildProperties s).store "ro.build.tags" = some "test-keys".toList ∧
      ¬ Passes .latin (buildProperties s).store := by
  intro s
  have htags : (buildProperties s).store "ro.build.tags" = some "test-keys".toList := by
    rw [buildProperties_tags]
    decide
  refine ⟨by decide, htags, ?_⟩
  rw [passes_iff, htags]
  rintro ⟨-, h, -⟩
  exact absurd h (by decide)

end PhhTreble.Boot

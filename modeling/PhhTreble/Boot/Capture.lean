import PhhTreble.Boot.Secure
import PhhTreble.Lib.Assoc
import PhhTreble.Lib.Scanning
/-!
# The capture that is audited

`parse_properties` of audit_rom_compatibility.py, against the list of the
properties that `getprop` prints.
-/

namespace PhhTreble.Boot

open Text Rewriting Scanning

/-! ## The text -/

/-- `Path.read_text`: each way to end a line becomes a newline. -/
def readText : List Char → List Char
  | [] => []
  | '\r' :: '\n' :: s => '\n' :: readText s
  | '\r' :: s => '\n' :: readText s
  | c :: s => c :: readText s

/-- `getprop` without arguments prints a line like this for each property. -/
def propertyLine (p : String × Value) : List Char := '[' :: p.1.toList ++ "]: [".toList ++ p.2 ++ [']']

def capture (props : List (String × Value)) : List Char := unlines (props.map propertyLine)

/-! ## parse_properties -/

/-- `\[([^\]]+)\]: \[(.*)\]$` at a place of the text, and how long the match is.
The key may go over lines, the value may not. -/
def property : List Char → Option ((String × Value) × Nat)
  | '[' :: s =>
    let key := s.takeWhile (· ≠ ']')
    match s.dropWhile (· ≠ ']') with
    | ']' :: ':' :: ' ' :: '[' :: t =>
      let line := t.takeWhile (· ≠ '\n')
      if key ≠ [] ∧ line.getLast? = some ']' then
        some ((String.ofList key, line.dropLast), key.length + line.length + 5)
      else none
    | _ => none
  | _ => none

/-- `dict(re.findall(…))`. -/
def parseProperties (text : List Char) : Store := fun key => (Assoc.assignAll [] (findall property text)).lookup key

example : findall property "[a]: [b]\n[c]: []\nd: e\n[]: [f]\n[g]: [h] \n[i]: [j]]".toList =
    [("a", ['b']), ("c", []), ("i", "j]".toList)] := by decide

/-! ## A property that is listed -/

/-- What a line of the list can say. -/
structure Readable (p : String × Value) : Prop where
  key : p.1.toList ≠ []
  bracket : ']' ∉ p.1.toList
  newline : '\n' ∉ p.2

theorem property_propertyLine {p : String × Value} (h : Readable p) (s : List Char) :
    property (propertyLine p ++ '\n' :: s) = some (p, (propertyLine p).length) := by
  obtain ⟨key, value⟩ := p
  have hkey : ∀ c ∈ key.toList, (decide (c ≠ ']')) = true := by
    intro c hc
    simp only [decide_eq_true_eq]
    rintro rfl
    exact h.bracket hc
  have hvalue : ∀ c ∈ value ++ [']'], (decide (c ≠ '\n')) = true := by
    intro c hc
    simp only [decide_eq_true_eq]
    rintro rfl
    rcases List.mem_append.1 hc with hc | hc
    · exact h.newline hc
    · exact absurd hc (by decide)
  have hline : propertyLine (key, value) ++ '\n' :: s =
      '[' :: (key.toList ++ ']' :: ':' :: ' ' :: '[' :: ((value ++ [']']) ++ '\n' :: s)) := by
    simp [propertyLine]
  have htake : (key.toList ++ ']' :: ':' :: ' ' :: '[' :: ((value ++ [']']) ++ '\n' :: s)).takeWhile (· ≠ ']') =
      key.toList := by
    rw [List.takeWhile_append_of_pos hkey]
    simp
  have hdrop : (key.toList ++ ']' :: ':' :: ' ' :: '[' :: ((value ++ [']']) ++ '\n' :: s)).dropWhile (· ≠ ']') =
      ']' :: ':' :: ' ' :: '[' :: ((value ++ [']']) ++ '\n' :: s) := by
    rw [List.dropWhile_append_of_pos hkey]
    simp
  have hrest : ((value ++ [']']) ++ '\n' :: s).takeWhile (· ≠ '\n') = value ++ [']'] := by
    rw [List.takeWhile_append_of_pos hvalue]
    simp
  rw [hline, property, hdrop]
  simp only [htake, hrest]
  rw [if_pos ⟨h.key, by simp⟩]
  simp [propertyLine]
  omega

/-- The expression matches what a line can say, and nothing else. -/
theorem property_sound {s : List Char} {p : String × Value} {n : Nat} (h : property s = some (p, n)) :
    Readable p ∧ propertyLine p <+: s := by
  unfold property at h
  split at h
  · rename_i s
    dsimp only at h
    split at h
    · rename_i t ht
      split at h
      · rename_i hmatch
        obtain ⟨hkey, hlast⟩ := hmatch
        obtain rfl : (String.ofList (s.takeWhile (· ≠ ']')), (t.takeWhile (· ≠ '\n')).dropLast) = p :=
          congrArg Prod.fst (Option.some.inj h)
        constructor
        · constructor
          · simpa using hkey
          · intro hb
            rw [String.toList_ofList] at hb
            simpa using List.mem_takeWhile_imp hb
          · intro hn
            simpa using List.mem_takeWhile_imp (List.mem_of_mem_dropLast hn)
        · have hs : s.takeWhile (· ≠ ']') ++ ']' :: ':' :: ' ' :: '[' :: t = s := by
            rw [← ht, List.takeWhile_append_dropWhile]
          have hline : (t.takeWhile (· ≠ '\n')).dropLast ++ [']'] = t.takeWhile (· ≠ '\n') :=
            List.dropLast_append_getLast? _ hlast
          have hprefix : (t.takeWhile (· ≠ '\n')).dropLast ++ [']'] <+: t := by
            rw [hline]
            exact List.takeWhile_prefix _
          obtain ⟨rest, hrest⟩ := hprefix
          refine ⟨rest, ?_⟩
          calc propertyLine (String.ofList (s.takeWhile (· ≠ ']')), (t.takeWhile (· ≠ '\n')).dropLast) ++ rest
              _ = '[' :: (s.takeWhile (· ≠ ']') ++ ']' :: ':' :: ' ' :: '[' ::
                  ((t.takeWhile (· ≠ '\n')).dropLast ++ [']'] ++ rest)) := by simp [propertyLine]
              _ = '[' :: s := by rw [hrest, hs]
      · cases h
    · cases h
  · cases h

/-! ## A list that is read back -/

theorem carriage_notMem_readText (s : List Char) : '\r' ∉ readText s := by
  fun_induction readText s with
  | case1 => simp
  | case2 s ih => simpa using ih
  | case3 s h ih => simpa using ih
  | case4 c s h h' ih =>
    rw [List.mem_cons, not_or]
    exact ⟨fun hc => h' hc.symm, ih⟩

theorem readText_of_notMem {s : List Char} (h : '\r' ∉ s) : readText s = s := by
  fun_induction readText s with
  | case1 => rfl
  | case2 s ih => simp at h
  | case3 s h' ih => simp at h
  | case4 c s h' h'' ih =>
    rw [List.mem_cons, not_or] at h
    rw [ih h.2]

/-- Neither the key nor the value has the other character that ends lines. -/
def Unbroken (p : String × Value) : Prop := '\r' ∉ p.1.toList ∧ '\r' ∉ p.2

/-- What reads back from a line of a file. -/
def Listable (p : String × Value) : Prop := Readable p ∧ Unbroken p

instance (p : String × Value) : Decidable (Readable p) :=
  decidable_of_iff (p.1.toList ≠ [] ∧ ']' ∉ p.1.toList ∧ '\n' ∉ p.2)
    ⟨fun h => ⟨h.1, h.2.1, h.2.2⟩, fun h => ⟨h.key, h.bracket, h.newline⟩⟩

instance (p : String × Value) : Decidable (Unbroken p) := inferInstanceAs (Decidable (_ ∧ _))

instance (p : String × Value) : Decidable (Listable p) := inferInstanceAs (Decidable (_ ∧ _))

theorem carriage_notMem_propertyLine {p : String × Value} : '\r' ∉ propertyLine p ↔ Unbroken p := by
  simp [propertyLine, Unbroken]

theorem carriage_notMem_capture {props : List (String × Value)} : '\r' ∉ capture props ↔ ∀ p ∈ props, Unbroken p := by
  simp [capture, unlines, ← carriage_notMem_propertyLine]

theorem listable_of_mem {text : List Char} {p : String × Value} (h : p ∈ findall property (readText text)) :
    Listable p := by
  obtain ⟨t, n, ht, hitem⟩ := mem_findall h
  obtain ⟨hread, hline⟩ := property_sound hitem
  refine ⟨hread, carriage_notMem_propertyLine.1 fun hc => ?_⟩
  exact carriage_notMem_readText _ (ht.mem (hline.mem hc))

/-- The capture of a list of properties is read as that list exactly when each
has a key, without a bracket, and a value that are on one line. -/
theorem parse_capture_iff (props : List (String × Value)) :
    findall property (readText (capture props)) = props ↔ ∀ p ∈ props, Listable p := by
  constructor
  · intro h p hp
    rw [← h] at hp
    exact listable_of_mem hp
  · intro h
    rw [readText_of_notMem (carriage_notMem_capture.2 fun p hp => (h p hp).2)]
    apply findall_unlines (fun s => rfl)
    intro p hp
    exact ⟨by simp [propertyLine], property_propertyLine (h p hp).1⟩

/-! ## The store that is read -/

/-- `getprop` lists each property of the store once, in some order. -/
structure Lists (props : List (String × Value)) (s : Store) : Prop where
  nodup : (props.map Prod.fst).Nodup
  mem : ∀ key value, (key, value) ∈ props ↔ s key = some value

theorem parseProperties_eq_some_iff {text : List Char} {key : String} {value : Value} :
    parseProperties text key = some value ↔ Assoc.Last (findall property text) key value :=
  Assoc.lookup_assignAll_nil_iff

/-- The audit of a capture sees the properties of the device exactly when each
of them is listable. -/
theorem parse_listing_iff {props : List (String × Value)} {s : Store} (h : Lists props s) :
    parseProperties (readText (capture props)) = s ↔ ∀ key value, s key = some value → Listable (key, value) := by
  constructor
  · intro hsame key value hv
    rw [← hsame, parseProperties_eq_some_iff] at hv
    obtain ⟨pre, post, hfound, -⟩ := hv
    have hmem : (key, value) ∈ findall property (readText (capture props)) := by
      rw [hfound]
      exact List.mem_append_right pre List.mem_cons_self
    exact listable_of_mem hmem
  · intro hall
    have hlist : ∀ p ∈ props, Listable p := fun p hp => hall p.1 p.2 ((h.mem p.1 p.2).1 hp)
    funext key
    apply Option.ext
    intro value
    rw [parseProperties_eq_some_iff, (parse_capture_iff props).2 hlist, Assoc.last_iff_mem h.nodup, h.mem]

theorem lists_lookup {props : List (String × Value)} (h : (props.map Prod.fst).Nodup) :
    Lists props fun key => props.lookup key where
  nodup := h
  mem _ _ := (Assoc.lookup_iff_mem h).symm

/-- A value that forges another property. -/
theorem parse_listing_iff_forged :
    let props := [("ro.product.model", "a]\n[ro.build.tags]: [release-keys".toList), ("ro.build.tags", "test-keys".toList)]
    ¬ parseProperties (readText (capture props)) = fun key => props.lookup key := by
  intro props hsame
  have hnodup : (props.map Prod.fst).Nodup := by decide
  have hall := (parse_listing_iff (lists_lookup hnodup)).1 hsame
  exact absurd (hall "ro.product.model" _ rfl).1.newline (by decide)

/-! ## The audit after the script -/

/-- Every property is listable. -/
def Store.Listable (s : Store) : Prop := ∀ key value, s key = some value → Boot.Listable (key, value)

/-- A value on one line. -/
def OneLine (v : Value) : Prop := '\n' ∉ v ∧ '\r' ∉ v

instance (v : Value) : Decidable (OneLine v) := inferInstanceAs (Decidable (_ ∧ _))

theorem notMem_brand {c : Char} (hc : c ∉ "DumberOSdumberos-user".toList) {line : List Char} (h : c ∉ line) :
    c ∉ brand line := by
  have hpart : ∀ part, part ⊆ "DumberOSdumberos-user".toList → c ∉ part := fun part hsub hmem => hc (hsub hmem)
  rw [brand_eq]
  intro hm
  rcases mem_replaceEnd hm with hm | hm
  · exact hpart _ (by decide) hm
  rcases mem_replaceEnd hm with hm | hm
  · exact hpart _ (by decide) hm
  rcases mem_replaceAll hm with hm | hm
  · exact hpart _ (by decide) hm
  rcases mem_replaceAll hm with hm | hm
  · exact hpart _ (by decide) hm
  exact h hm

theorem Store.Listable.getprop {s : Store} (h : s.Listable) (key : String) :
    s.getprop key = s.text key ∧ OneLine (s.text key) := by
  have hline : OneLine (s.text key) := by
    unfold Store.text
    cases hv : s key with
    | none => exact ⟨List.not_mem_nil, List.not_mem_nil⟩
    | some v => exact ⟨(h key v hv).1.newline, (h key v hv).2.2⟩
  refine ⟨?_, hline⟩
  rw [Store.getprop, got_eq]
  exact chomp_of_notMem hline.1

theorem Run.resetprop_listable {r : Run} (h : r.store.Listable) {key : String} (hkey : Boot.Listable (key, []))
    {v : Value} (hv : OneLine v) : (r.resetprop key v).store.Listable := by
  intro other value ho
  by_cases hk : other = key
  · subst hk
    rw [Run.resetprop_store] at ho
    obtain rfl := Option.some.inj ho
    exact ⟨⟨hkey.1.key, hkey.1.bracket, hv.1⟩, hkey.2.1, hv.2⟩
  · rw [Run.resetprop_store_ne r hk] at ho
    exact h other value ho

theorem Run.brandProperty_listable {r : Run} (h : r.store.Listable) {key : String} (hkey : Boot.Listable (key, [])) :
    (r.brandProperty key).store.Listable := by
  rcases r.brandProperty_cases key with ⟨-, hr⟩ | ⟨-, hr⟩
  · rwa [hr]
  · obtain ⟨hget, hline⟩ := h.getprop key
    rw [hr, hget, rewrite_line hline.1]
    exact Run.resetprop_listable h hkey ⟨notMem_brand (by decide) hline.1, notMem_brand (by decide) hline.2⟩

theorem Run.copyAll_listable {r : Run} (h : r.store.Listable) {copies : List (String × String)}
    (hcopies : ∀ copy ∈ copies, Boot.Listable (copy.1, [])) : (r.copyAll copies).store.Listable := by
  induction copies generalizing r with
  | nil => exact h
  | cons copy copies ih =>
    rw [List.forall_mem_cons] at hcopies
    rw [Run.copyAll_cons]
    apply ih _ hcopies.2
    rcases r.copyprop_cases copy.1 copy.2 with ⟨-, hr⟩ | ⟨-, hr⟩
    · rwa [hr]
    · obtain ⟨hget, hline⟩ := h.getprop copy.2
      rw [hr, hget]
      exact Run.resetprop_listable h hcopies.1 hline

theorem Run.setAll_listable {r : Run} (h : r.store.Listable) {props : List (String × Value)}
    (hprops : ∀ p ∈ props, Boot.Listable (p.1, []) ∧ OneLine p.2) : (r.setAll props).store.Listable := by
  induction props generalizing r with
  | nil => exact h
  | cons p props ih =>
    rw [List.forall_mem_cons] at hprops
    exact ih (Run.resetprop_listable h hprops.1.1 hprops.1.2) hprops.2

theorem Run.delete_listable {r : Run} (h : r.store.Listable) (key : String) : (r.delete key).store.Listable := by
  intro other value ho
  by_cases hk : other = key
  · subst hk
    simp [Run.delete] at ho
  · rw [Run.delete_store_ne r hk] at ho
    exact h other value ho

theorem buildProperties_listable {s : Store} (h : s.Listable) : (buildProperties s).store.Listable := by
  have hkeys : ∀ key ∈ "ro.build.type" :: displayKeys, Boot.Listable (key, []) := by decide
  rw [buildProperties_eq]
  apply Run.brandProperty_listable _ (hkeys _ (by decide))
  apply Run.brandProperty_listable _ (hkeys _ (by decide))
  rcases Run.setBuildProperty_cases ⟨s, []⟩ "ro.build.type" "user".toList with ⟨-, hr⟩ | ⟨-, hr⟩
  · rwa [hr]
  · rw [hr]
    exact Run.resetprop_listable h (hkeys _ (by decide)) (by decide)

/-- Before the script, in both modes. -/
theorem unbranded_listable (secure : Bool) {s : Store} (h : s.Listable) : (unbranded secure s).Listable := by
  have hcopies : ∀ copy ∈ copies, Boot.Listable (copy.1, []) := by decide
  have hsecured : ∀ p ∈ secured, Boot.Listable (p.1, []) ∧ OneLine p.2 := by decide
  rw [unbranded_eq]
  apply Run.resetprop_listable _ (by decide) (by decide)
  cases secure with
  | false => exact h
  | true =>
    rw [if_pos rfl, Run.secure]
    apply Run.resetprop_listable _ (by decide) (by decide)
    apply Run.delete_listable
    apply Run.setAll_listable _ hsecured
    exact Run.copyAll_listable h hcopies

/-! ## What the audit finds -/

/-- The properties that are expected to have some value, and those that show the build. -/
def auditedKeys : List String := expectedProperties.map Prod.fst ++ displayKeys

theorem mem_checks {A : Type} {xs : List A} {P : A → Prop} [DecidablePred P] {g : A → Failure} {f : Failure} :
    f ∈ xs.filterMap (fun x => if P x then some (g x) else none) ↔ ∃ x ∈ xs, P x ∧ f = g x := by
  simp [List.mem_filterMap, eq_comm]

theorem mem_audit_iff (py : PyLower) (props : Store) (f : Failure) :
    f ∈ auditProperties py props ∧ f.key ∈ auditedKeys ↔
      (∃ p ∈ expectedProperties, props p.1 ≠ some p.2 ∧ f = .expected p.1 p.2 (props p.1)) ∨
        ∃ key ∈ displayKeys, (props.text key = [] ∨ "lineage".toList <:+: py.str (props.text key)) ∧
          f = .metadata key (props.text key) := by
  unfold auditProperties
  simp only [List.mem_append, mem_checks]
  constructor
  · rintro ⟨(((⟨p, hp, hne, rfl⟩ | ⟨key, hkey, -, rfl⟩) | ⟨key, hkey, hname, rfl⟩) | hroot) | ⟨key, hkey, -, rfl⟩, hf⟩
    · exact .inl ⟨p, hp, hne, rfl⟩
    · have hlegacy : ∀ key ∈ lineage_properties, key ∉ auditedKeys := by decide
      exact absurd hf (hlegacy key hkey)
    · exact .inr ⟨key, hkey, hname, rfl⟩
    · split at hroot
      · rw [List.mem_singleton.1 hroot] at hf
        exact absurd hf (by decide)
      · cases hroot
    · have hmigrated : ∀ key ∈ ["ro.dumberos.version", "ro.build.product", "ro.dumberos.build.version.plat.sdk"],
          key ∉ auditedKeys := by decide
      exact absurd hf (hmigrated key hkey)
  · rintro (⟨p, hp, hne, rfl⟩ | ⟨key, hkey, hname, rfl⟩)
    · exact ⟨.inl (.inl (.inl (.inl ⟨p, hp, hne, rfl⟩))),
        List.mem_append_left displayKeys (List.mem_map_of_mem hp)⟩
    · exact ⟨.inl (.inl (.inr ⟨key, hkey, hname, rfl⟩)), List.mem_append_right _ hkey⟩

/-- The script does not touch a display property that is empty. -/
theorem Run.brandProperty_text_nil {r : Run} {key : String} (h : r.store.text key = []) (other : String) :
    (r.brandProperty other).store.text key = [] := by
  by_cases hk : key = other
  · subst hk
    have hget : r.store.getprop key = [] := by
      rw [Store.getprop, got_eq, show (r.store key).getD [] = [] from h]
      rfl
    have hpresented : r.store.Presented key := by
      left
      rw [hget]
      rfl
    rwa [Run.brandProperty_of_presented hpresented]
  · rw [Store.text, Run.brandProperty_store_ne r hk]
    exact h

theorem buildProperties_text_nil {s : Store} {key : String} (hkey : key ∈ displayKeys) (h : s.text key = []) :
    (buildProperties s).store.text key = [] := by
  rw [buildProperties_eq]
  apply Run.brandProperty_text_nil
  apply Run.brandProperty_text_nil
  rw [Store.text, Run.setBuildProperty_store_ne]
  · exact h
  · rintro rfl
    exact absurd hkey (by decide)

/-- What the audit looks for in a display property is there only where nothing was. -/
theorem buildProperties_metadata (py : PyLower) (s : Store) {key : String} (hkey : key ∈ displayKeys) :
    ((buildProperties s).store.text key = [] ∨ "lineage".toList <:+: py.str ((buildProperties s).store.text key)) ↔
      s.text key = [] := by
  constructor
  · rintro (hempty | hname)
    · by_contra hne
      exact buildProperties_text s hkey hne hempty
    · have hpresented : (buildProperties s).store.Presented key := by
        have hdone := buildProperties_done s
        simp only [displayKeys, List.mem_cons, List.not_mem_nil, or_false] at hkey
        rcases hkey with rfl | rfl
        · exact hdone.display
        · exact hdone.flavor
      exact absurd (occurs_lineage_of_lower py hname) hpresented.not_occurs
  · intro hempty
    exact .inl (buildProperties_text_nil hkey hempty)

theorem Store.Listable.not_paddedType {s : Store} (h : s.Listable) : ¬ s.PaddedType := by
  rintro ⟨hget, hne⟩
  obtain ⟨htext, -⟩ := h.getprop "ro.build.type"
  rw [htext, Store.text] at hget
  cases hv : s "ro.build.type" with
  | none =>
    rw [hv] at hget
    exact absurd hget (by decide)
  | some v =>
    rw [hv] at hget hne
    exact hne (congrArg some hget)

/-- What the audit expects and the other mode does not set. -/
def unpublished : List (String × Value) := [("ro.build.tags", "release-keys".toList), ("ro.secure", "1".toList)]

/-- The two are what they were, or what is expected. -/
theorem publish_unpublished (secure : Bool) (s : Store) {p : String × Value} (hp : p ∈ unpublished) :
    publish secure s p.1 = if secure then some p.2 else s p.1 := by
  have hother : ∀ p ∈ unpublished, p.1 ∉ "ro.build.type" :: displayKeys ∧ p.1 ≠ "ro.debuggable" ∧ p ∈ secured := by
    decide
  obtain ⟨hbuild, hdebuggable, hsecured⟩ := hother p hp
  rw [publish, buildProperties_store_ne _ hbuild]
  cases secure with
  | true => exact unbranded_secured s hsecured
  | false =>
    rw [unbranded_eq, Run.resetprop_store_ne _ hdebuggable]
    rfl

/-- What is expected and is not there after the script. -/
theorem publish_expected (secure : Bool) {s : Store} (h : s.Listable) {p : String × Value} (hp : p ∈ expectedProperties) :
    publish secure s p.1 ≠ some p.2 ↔ secure = false ∧ p ∈ unpublished ∧ s p.1 ≠ some p.2 := by
  have htype : publish secure s "ro.build.type" = some "user".toList :=
    (buildProperties_type _).2 (unbranded_listable secure h).not_paddedType
  have hdebuggable : publish secure s "ro.debuggable" = some "0".toList := by
    rw [publish, buildProperties_store_ne _ (by decide), unbranded_eq, Run.resetprop_store]
  have hunpublished : ∀ p ∈ unpublished,
      (publish secure s p.1 ≠ some p.2 ↔ secure = false ∧ p ∈ unpublished ∧ s p.1 ≠ some p.2) := by
    intro p hp
    rw [publish_unpublished secure s hp]
    cases secure <;> simp [hp]
  simp only [expectedProperties, List.mem_cons, List.not_mem_nil, or_false] at hp
  rcases hp with rfl | rfl | rfl | rfl
  · simp [htype, unpublished]
  · exact hunpublished _ (by decide)
  · simp [hdebuggable, unpublished]
  · exact hunpublished _ (by decide)

theorem unbranded_text (secure : Bool) (s : Store) {key : String} (hkey : key ∈ displayKeys) :
    (unbranded secure s).text key = s.text key := by
  have hother : ∀ key ∈ displayKeys, key ≠ "ro.debuggable" ∧
      ∀ other ∈ "ro.adb.secure" :: "ro.build.selinux" :: secured.map Prod.fst ++ copies.map Prod.fst, key ≠ other := by
    decide
  rw [Store.text, unbranded_store_ne secure s (hother key hkey).1 (hother key hkey).2]
  rfl

/-- The audit of a capture that is taken after rw-system.sh, where all properties
were listable: it reads the store that was left, and what it finds about the
properties it expects and those that show the build are, without the secure mode,
the tags and `ro.secure` as they were before, and the display properties that
were empty before. -/
theorem audit_capture_iff (py : PyLower) (secure : Bool) {s : Store} (hs : s.Listable) {props : List (String × Value)}
    (h : Lists props (publish secure s)) (f : Failure) :
    let read := parseProperties (readText (capture props))
    read = publish secure s ∧
      (f ∈ auditProperties py read ∧ f.key ∈ auditedKeys ↔
        (secure = false ∧ ∃ p ∈ unpublished, s p.1 ≠ some p.2 ∧ f = .expected p.1 p.2 (s p.1)) ∨
          ∃ key ∈ displayKeys, s.text key = [] ∧ f = .metadata key []) := by
  intro read
  have hread : read = publish secure s :=
    (parse_listing_iff h).2 (buildProperties_listable (unbranded_listable secure hs))
  refine ⟨hread, ?_⟩
  have hmetadata : ∀ key ∈ displayKeys,
      (((publish secure s).text key = [] ∨ "lineage".toList <:+: py.str ((publish secure s).text key)) ↔
        s.text key = []) := by
    intro key hkey
    rw [← unbranded_text secure s hkey]
    exact buildProperties_metadata py (unbranded secure s) hkey
  have hempty : ∀ key ∈ displayKeys, s.text key = [] → (publish secure s).text key = [] := by
    intro key hkey hempty
    rw [← unbranded_text secure s hkey] at hempty
    exact buildProperties_text_nil hkey hempty
  rw [hread, mem_audit_iff]
  constructor
  · rintro (⟨p, hp, hne, rfl⟩ | ⟨key, hkey, hfound, rfl⟩)
    · obtain ⟨rfl, hun, hne⟩ := (publish_expected secure hs hp).1 hne
      refine .inl ⟨rfl, p, hun, hne, ?_⟩
      rw [publish_unpublished false s hun]
      rfl
    · have hnone : s.text key = [] := (hmetadata key hkey).1 hfound
      rw [hempty key hkey hnone]
      exact .inr ⟨key, hkey, hnone, rfl⟩
  · rintro (⟨rfl, p, hun, hne, rfl⟩ | ⟨key, hkey, hnone, rfl⟩)
    · have hexpected : ∀ p ∈ unpublished, p ∈ expectedProperties := by decide
      refine .inl ⟨p, hexpected p hun, (publish_expected false hs (hexpected p hun)).2 ⟨rfl, hun, hne⟩, ?_⟩
      rw [publish_unpublished false s hun]
      rfl
    · refine .inr ⟨key, hkey, (hmetadata key hkey).2 hnone, ?_⟩
      rw [hempty key hkey hnone]

/-- A build with test keys, without the secure mode. -/
theorem audit_capture_iff_test_keys :
    let props := [("ro.build.type", "user".toList), ("ro.build.tags", "test-keys".toList), ("ro.debuggable", "0".toList),
      ("ro.build.display.id", "DumberOS 21".toList)]
    Failure.expected "ro.build.tags" "release-keys".toList (some "test-keys".toList) ∈
      auditProperties .latin (parseProperties (readText (capture props))) := by
  intro props
  let s : Store := fun key => props.lookup key
  have hlists : Lists props s := lists_lookup (by decide)
  have hs : s.Listable := by
    have hall : ∀ p ∈ props, Listable p := by decide
    intro key value hv
    exact hall _ ((hlists.mem key value).2 hv)
  have hsame : unbranded false s = s := Function.update_eq_self_iff.2 rfl
  have hdone : s.Done := ⟨by decide, .inr (by decide), .inl (by decide)⟩
  have hstore : publish false s = s := by rw [publish, hsame, buildProperties_of_done hdone]
  have h := audit_capture_iff .latin false hs (hstore ▸ hlists)
    (.expected "ro.build.tags" "release-keys".toList (some "test-keys".toList))
  exact (h.2.2 (.inl ⟨rfl, ("ro.build.tags", "release-keys".toList), by decide, by decide, rfl⟩)).1

end PhhTreble.Boot

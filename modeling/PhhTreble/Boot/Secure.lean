import PhhTreble.Boot.Audit
/-!
# The secure mode

The properties that rw-system.sh sets where a `secure` file is there, and how it
goes on to dumberos-build-properties.sh. The write of the security patch is left
out.
-/

namespace PhhTreble.Boot

/-! ## The script -/

/-- `copyprop`. -/
def Run.copyprop (r : Run) (target source : String) : Run :=
  let p := r.store.getprop source
  if p ≠ [] then r.resetprop target (r.store.getprop source) else r

/-- The calls of `copyprop`. -/
def copies : List (String × String) :=
  [("ro.build.device", "ro.vendor.build.device"), ("ro.system.build.fingerprint", "ro.vendor.build.fingerprint"),
    ("ro.bootimage.build.fingerprint", "ro.vendor.build.fingerprint"),
    ("ro.build.fingerprint", "ro.vendor.build.fingerprint"), ("ro.build.device", "ro.vendor.product.device"),
    ("ro.product.system.device", "ro.vendor.product.device"), ("ro.product.device", "ro.vendor.product.device"),
    ("ro.product.system.device", "ro.product.vendor.device"), ("ro.product.device", "ro.product.vendor.device"),
    ("ro.product.system.name", "ro.vendor.product.name"), ("ro.product.name", "ro.vendor.product.name"),
    ("ro.product.system.name", "ro.product.vendor.device"), ("ro.product.name", "ro.product.vendor.device"),
    ("ro.system.product.brand", "ro.vendor.product.brand"), ("ro.product.brand", "ro.vendor.product.brand"),
    ("ro.product.system.model", "ro.vendor.product.model"), ("ro.product.model", "ro.vendor.product.model"),
    ("ro.product.system.model", "ro.product.vendor.model"), ("ro.product.model", "ro.product.vendor.model"),
    ("ro.build.product", "ro.vendor.product.model"), ("ro.build.product", "ro.product.vendor.model"),
    ("ro.system.product.manufacturer", "ro.vendor.product.manufacturer"),
    ("ro.product.manufacturer", "ro.vendor.product.manufacturer"),
    ("ro.system.product.manufacturer", "ro.product.vendor.manufacturer"),
    ("ro.product.manufacturer", "ro.product.vendor.manufacturer")]

/-- The properties that are set to a value of their own. -/
def secured : List (String × Value) :=
  [("ro.build.tags", "release-keys".toList), ("ro.boot.vbmeta.device_state", "locked".toList),
    ("ro.boot.verifiedbootstate", "green".toList), ("ro.boot.flash.locked", "1".toList),
    ("ro.boot.veritymode", "enforcing".toList), ("ro.boot.warranty_bit", "0".toList), ("ro.warranty_bit", "0".toList),
    ("ro.debuggable", "0".toList), ("ro.secure", "1".toList), ("ro.build.type", "user".toList)]

/-- `resetprop_phh --delete`. -/
def Run.delete (r : Run) (key : String) : Run := ⟨Function.update r.store key none, key :: r.written⟩

def Run.copyAll (r : Run) (copies : List (String × String)) : Run :=
  copies.foldl (fun r copy => r.copyprop copy.1 copy.2) r

def Run.setAll (r : Run) (props : List (String × Value)) : Run := props.foldl (fun r p => r.resetprop p.1 p.2) r

/-- The branch for `/system/phh/secure` and `/metadata/phh/secure`, but for the write
of `ro.build.version.security_patch`. -/
def Run.secure (r : Run) : Run :=
  ((((r.copyAll copies).setAll secured).delete "ro.build.selinux").resetprop "ro.adb.secure" "1".toList)

/-- rw-system.sh from this branch to the script that it sources. -/
def unbranded (secure : Bool) (s : Store) : Store :=
  let r : Run := ⟨s, []⟩
  let r := if secure then r.secure else r
  (r.resetprop "ro.debuggable" "0".toList).store

/-- With the script. -/
def publish (secure : Bool) (s : Store) : Store := (buildProperties (unbranded secure s)).store

/-! ## The copies -/

theorem Run.copyprop_cases (r : Run) (target source : String) :
    (r.store.getprop source = [] ∧ r.copyprop target source = r) ∨
      (r.store.getprop source ≠ [] ∧ r.copyprop target source = r.resetprop target (r.store.getprop source)) := by
  unfold Run.copyprop
  by_cases h : r.store.getprop source = []
  · exact .inl ⟨h, if_neg (not_not.2 h)⟩
  · exact .inr ⟨h, if_pos h⟩

theorem Run.copyprop_store_ne (r : Run) {target source other : String} (h : other ≠ target) :
    (r.copyprop target source).store other = r.store other := by
  rcases r.copyprop_cases target source with ⟨-, hr⟩ | ⟨-, hr⟩
  · rw [hr]
  · rw [hr, Run.resetprop_store_ne r h]

theorem Run.copyAll_cons (r : Run) (copy : String × String) (copies : List (String × String)) :
    r.copyAll (copy :: copies) = (r.copyprop copy.1 copy.2).copyAll copies := rfl

theorem Run.copyAll_store_ne (r : Run) {copies : List (String × String)} {other : String}
    (h : ∀ copy ∈ copies, other ≠ copy.1) : (r.copyAll copies).store other = r.store other := by
  induction copies generalizing r with
  | nil => rfl
  | cons copy copies ih =>
    rw [List.forall_mem_cons] at h
    rw [Run.copyAll_cons, ih _ h.2, Run.copyprop_store_ne r h.1]

theorem Run.copyAll_concat (r : Run) (copies : List (String × String)) (copy : String × String) :
    r.copyAll (copies ++ [copy]) = (r.copyAll copies).copyprop copy.1 copy.2 := by
  simp [Run.copyAll]

/-- What a property is after the copies: the last source of it that says anything,
or what it was. -/
def Copied (s : Store) (copies : List (String × String)) (key : String) (got : Option Value) : Prop :=
  (∃ pre copy post, copies = pre ++ copy :: post ∧ copy.1 = key ∧ s.getprop copy.2 ≠ [] ∧
      (∀ later ∈ post, later.1 = key → s.getprop later.2 = []) ∧ got = some (s.getprop copy.2)) ∨
    (∀ copy ∈ copies, copy.1 = key → s.getprop copy.2 = []) ∧ got = s key

/-- A copy to another property, or of nothing. -/
theorem Copied.concat {s : Store} {copies : List (String × String)} {key : String} {got : Option Value}
    (h : Copied s copies key got) {copy : String × String} (hcopy : copy.1 = key → s.getprop copy.2 = []) :
    Copied s (copies ++ [copy]) key got := by
  rcases h with ⟨pre, c, post, rfl, hkey, hne, hlater, hgot⟩ | ⟨hnone, hgot⟩
  · refine .inl ⟨pre, c, post ++ [copy], by simp, hkey, hne, ?_, hgot⟩
    exact List.forall_mem_append.2 ⟨hlater, List.forall_mem_singleton.2 hcopy⟩
  · exact .inr ⟨List.forall_mem_append.2 ⟨hnone, List.forall_mem_singleton.2 hcopy⟩, hgot⟩

/-- Where no source is written, each is read as it was. -/
theorem Run.copied_copyAll (r : Run) {copies : List (String × String)} (h : ∀ c ∈ copies, ∀ d ∈ copies, c.2 ≠ d.1)
    (key : String) : Copied r.store copies key ((r.copyAll copies).store key) := by
  induction copies using List.reverseRecOn with
  | nil => exact .inr ⟨List.forall_mem_nil _, rfl⟩
  | append_singleton copies copy ih =>
    have hsource : (r.copyAll copies).store.getprop copy.2 = r.store.getprop copy.2 := by
      rw [Store.getprop, Run.copyAll_store_ne]
      · rfl
      · intro d hd
        exact h copy (by simp) d (by simp [hd])
    have ih := ih fun c hc d hd => h c (by simp [hc]) d (by simp [hd])
    rw [Run.copyAll_concat]
    rcases (r.copyAll copies).copyprop_cases copy.1 copy.2 with ⟨hnil, hr⟩ | ⟨hne, hr⟩
    · rw [hr]
      exact ih.concat fun _ => hsource ▸ hnil
    · by_cases hk : key = copy.1
      · subst hk
        rw [hr, Run.resetprop_store, hsource]
        exact .inl ⟨copies, copy, [], rfl, rfl, hsource ▸ hne, List.forall_mem_nil _, rfl⟩
      · rw [hr, Run.resetprop_store_ne _ hk]
        exact ih.concat fun h => absurd h.symm hk

/-! ## The published properties -/

theorem Run.setAll_cons (r : Run) (p : String × Value) (props : List (String × Value)) :
    r.setAll (p :: props) = (r.resetprop p.1 p.2).setAll props := rfl

theorem Run.setAll_store_ne (r : Run) {props : List (String × Value)} {other : String}
    (h : ∀ p ∈ props, other ≠ p.1) : (r.setAll props).store other = r.store other := by
  induction props generalizing r with
  | nil => rfl
  | cons p props ih =>
    rw [List.forall_mem_cons] at h
    rw [Run.setAll_cons, ih _ h.2, Run.resetprop_store_ne r h.1]

/-- A property that is set once. -/
theorem Run.setAll_store (r : Run) {props : List (String × Value)} (hnodup : (props.map Prod.fst).Nodup)
    {p : String × Value} (hp : p ∈ props) : (r.setAll props).store p.1 = some p.2 := by
  induction props generalizing r with
  | nil => cases hp
  | cons q props ih =>
    rw [List.map_cons, List.nodup_cons] at hnodup
    rw [Run.setAll_cons]
    rcases List.mem_cons.1 hp with rfl | hp
    · rw [Run.setAll_store_ne, Run.resetprop_store]
      intro q hq he
      exact hnodup.1 (he ▸ List.mem_map_of_mem hq)
    · exact ih (r.resetprop q.1 q.2) hnodup.2 hp

theorem Run.delete_store_ne (r : Run) {key other : String} (h : other ≠ key) :
    (r.delete key).store other = r.store other := by
  simp [Run.delete, h]

theorem buildProperties_store_ne (s : Store) {key : String} (h : key ∉ "ro.build.type" :: displayKeys) :
    (buildProperties s).store key = s key := by
  simp only [displayKeys, List.mem_cons, List.not_mem_nil, or_false, not_or] at h
  rw [buildProperties_eq, Run.brandProperty_store_ne _ h.2.2, Run.brandProperty_store_ne _ h.2.1,
    Run.setBuildProperty_store_ne _ h.1]

theorem unbranded_eq (secure : Bool) (s : Store) :
    unbranded secure s =
      ((if secure then Run.secure ⟨s, []⟩ else ⟨s, []⟩ : Run).resetprop "ro.debuggable" "0".toList).store := rfl

/-- A property that neither mode writes before the script. -/
theorem unbranded_store_ne (secure : Bool) (s : Store) {key : String} (hdebuggable : key ≠ "ro.debuggable")
    (hother : ∀ other ∈ "ro.adb.secure" :: "ro.build.selinux" :: secured.map Prod.fst ++ copies.map Prod.fst, key ≠ other) :
    unbranded secure s key = s key := by
  rw [unbranded_eq, Run.resetprop_store_ne _ hdebuggable]
  cases secure with
  | false => rfl
  | true =>
    rw [if_pos rfl, Run.secure, Run.resetprop_store_ne _ (hother _ (by simp)), Run.delete_store_ne _ (hother _ (by simp)),
      Run.setAll_store_ne, Run.copyAll_store_ne]
    · intro copy hcopy
      exact hother _ (List.mem_append_right _ (List.mem_map_of_mem hcopy))
    · intro p hp
      exact hother _ (List.mem_append_left _ (by simp [List.mem_map_of_mem hp]))

/-- A property that the secure mode sets. -/
theorem unbranded_secured (s : Store) {p : String × Value} (hp : p ∈ secured) : unbranded true s p.1 = some p.2 := by
  have hnodup : (secured.map Prod.fst).Nodup := by decide
  have hother : ∀ p ∈ secured, p.1 ≠ "ro.adb.secure" ∧ p.1 ≠ "ro.build.selinux" ∧
      (p.1 = "ro.debuggable" → p.2 = "0".toList) := by decide
  obtain ⟨hadb, hselinux, hdebuggable⟩ := hother p hp
  rw [unbranded_eq, if_pos rfl]
  by_cases hd : p.1 = "ro.debuggable"
  · rw [hd, Run.resetprop_store, hdebuggable hd]
  · rw [Run.resetprop_store_ne _ hd, Run.secure, Run.resetprop_store_ne _ hadb, Run.delete_store_ne _ hselinux,
      Run.setAll_store _ hnodup hp]

/-- The device's own properties in the secure mode, whatever they were: each says
what the last source of it that says anything said before. -/
theorem secure_copied (s : Store) {key : String} (hkey : key ∈ copies.map Prod.fst) :
    Copied s copies key (publish true s key) := by
  have hsources : ∀ c ∈ copies, ∀ d ∈ copies, c.2 ≠ d.1 := by decide
  have hother : ∀ key ∈ copies.map Prod.fst, key ∉ "ro.build.type" :: displayKeys ∧ key ≠ "ro.debuggable" ∧
      key ≠ "ro.adb.secure" ∧ key ≠ "ro.build.selinux" ∧ ∀ p ∈ secured, key ≠ p.1 := by decide
  obtain ⟨hbuild, hdebuggable, hadb, hselinux, hset⟩ := hother key hkey
  have hstore : publish true s key = ((Run.copyAll ⟨s, []⟩ copies).store key) := by
    rw [publish, buildProperties_store_ne _ hbuild, unbranded_eq, Run.resetprop_store_ne _ hdebuggable, if_pos rfl, Run.secure,
      Run.resetprop_store_ne _ hadb, Run.delete_store_ne _ hselinux, Run.setAll_store_ne _ hset]
  rw [hstore]
  exact Run.copied_copyAll ⟨s, []⟩ hsources key

/-- A name that is there twice. -/
theorem secure_copied_name :
    let s : Store := fun key =>
      [("ro.vendor.product.name", "s9_eea".toList), ("ro.product.vendor.device", "s9".toList)].lookup key
    Copied s copies "ro.product.name" (publish true s "ro.product.name") := by
  intro s
  exact secure_copied s (by decide)

end PhhTreble.Boot

import PhhTreble.Boot.Branding
import PhhTreble.Boot.GetSPL
import PhhTreble.Lib.Patching
/-!
# The binaries that rw-system.sh patches

`fixSPL` has the keymaster libraries ask for properties of its own, and a loop
does the like for the MTK radio: each file is copied to `/mnt/phh`, edited there
by `sed`, and bound over itself. `cp`, `sed` and `mount` succeed, and `.` is any
byte of a line.
-/

namespace PhhTreble.Boot

open Rewriting Patching
open GetSPL (Bytes ascii)

/-! ## The edits -/

def newline : UInt8 := 10

/-- A basic regular expression with no special character but `.`. -/
def expression (s : String) : Pattern UInt8 := (ascii s).map fun b => if b = 46 then (· != newline) else (· == b)

def keymasterEdits : List (Edit UInt8) := [
  ⟨expression "ro.build.version.release", ascii "ro.keymaster.xxx.release", by decide, by decide⟩,
  ⟨expression "ro.build.version.security_patch", ascii "ro.keymaster.xxx.security_patch", by decide, by decide⟩,
  ⟨expression "ro.product.model", ascii "ro.keymaster.mod", by decide, by decide⟩,
  ⟨expression "ro.product.brand", ascii "ro.keymaster.brn", by decide, by decide⟩]

def mtkRilEdits : List (Edit UInt8) := [⟨expression "AT+EAIC=2", ascii "AT+EAIC=3", by decide, by decide⟩]

/-- `sed -i -e …`: the expressions on each line; a last line may lack its newline. -/
def sedFile (edits : List (Edit UInt8)) (bytes : Bytes) : Bytes :=
  [newline].intercalate ((bytes.splitOn newline).map (patch edits))

/-! ## The files -/

structure Files where
  /-- What is at a path of the partitions. -/
  disk : String → Option Bytes
  /-- What is in `/mnt/phh`. -/
  mnt : String → Option Bytes
  /-- The file of `/mnt/phh` that is bound over a path. -/
  bound : String → Option String

def Files.read (fs : Files) (path : String) : Option Bytes :=
  match fs.bound path with
  | some b => fs.mnt b
  | none => fs.disk path

/-- `echo "$f" | tr / _`. -/
def backing (f : String) : String := String.ofList (f.toList.map fun c => if c = '/' then '_' else c)

/-- The body of the loops. -/
def Files.patchFile (edits : List (Edit UInt8)) (fs : Files) (f : String) : Files :=
  match fs.read f with
  | none => fs
  | some bytes =>
    { fs with
      mnt := Function.update fs.mnt (backing f) (some (sedFile edits bytes))
      bound := Function.update fs.bound f (some (backing f)) }

def Files.patchFiles (edits : List (Edit UInt8)) (files : List String) (fs : Files) : Files :=
  files.foldl (Files.patchFile edits) fs

def keymasterFiles : List String := [
  "/vendor/lib64/hw/android.hardware.keymaster@3.0-impl-qti.so",
  "/vendor/lib/hw/android.hardware.keymaster@3.0-impl-qti.so",
  "/system/lib64/vndk-26/libsoftkeymasterdevice.so",
  "/vendor/bin/teed",
  "/apex/com.android.vndk.v26/lib/libsoftkeymasterdevice.so",
  "/apex/com.android.vndk.v26/lib64/libsoftkeymasterdevice.so",
  "/system/lib64/vndk/libsoftkeymasterdevice.so",
  "/system/lib/vndk/libsoftkeymasterdevice.so",
  "/system/lib/vndk-26/libsoftkeymasterdevice.so",
  "/system/lib/vndk-27/libsoftkeymasterdevice.so",
  "/system/lib64/vndk-27/libsoftkeymasterdevice.so",
  "/vendor/lib/libkeymaster3device.so",
  "/vendor/lib64/libkeymaster3device.so",
  "/vendor/lib/libMcTeeKeymaster.so",
  "/vendor/lib64/libMcTeeKeymaster.so",
  "/vendor/lib/hw/libMcTeeKeymaster.so",
  "/vendor/lib64/hw/libMcTeeKeymaster.so"]

def mtkRilFiles : List String :=
  ["/vendor/lib/mtk-ril.so", "/vendor/lib64/mtk-ril.so", "/vendor/lib/libmtk-ril.so", "/vendor/lib64/libmtk-ril.so"]

/-! ## The script -/

structure Machine where
  store : Store
  files : Files

/-- `setprop`: a `ro.` property is set once. -/
def Store.setprop (s : Store) (key : String) (value : String) : Store :=
  if "ro.".toList.isPrefixOf key.toList ∧ (s key).isSome then s else Function.update s key (some value.toList)

/-- `fixSPL`: `image` is what it finds of the boot image, the release and the
patch level. -/
def Machine.fixSPL (m : Machine) (abi : String) (image : Option (String × String)) : Machine :=
  let store := m.store.setprop "ro.keymaster.mod"
    (if abi = "armeabi-v7a" then "AOSP on ARM32" else "AOSP on ARM64")
  match image with
  | none => { m with store := store }
  | some (release, spl) =>
    let store := store.setprop "ro.keymaster.xxx.release" release
    let store := store.setprop "ro.keymaster.xxx.security_patch" spl
    if release = "" ∨ spl = "" then { m with store := store }
    else
      let store := store.setprop "ro.keymaster.xxx.vbmeta_state" "unlocked"
      let store := store.setprop "ro.keymaster.xxx.verifiedbootstate" "orange"
      let store := store.setprop "ro.keymaster.brn" "Android"
      { store := store, files := m.files.patchFiles keymasterEdits keymasterFiles }

/-- The loop over the libraries of the MTK radio. -/
def Machine.patchMtkRil (m : Machine) : Machine :=
  { store :=
      if mtkRilFiles.any fun f => (m.files.read f).isSome then
        (m.store.setprop "persist.sys.phh.radio.force_cognitive" "true").setprop "persist.sys.radio.ussd.fix" "true"
      else m.store
    files := m.files.patchFiles mtkRilEdits mtkRilFiles }

/-! ## A patched file -/

theorem sound_keymasterEdits : Sound keymasterEdits := by decide

theorem sound_mtkRilEdits : Sound mtkRilEdits := by decide

theorem expression_newline (s : String) (h : newline ∉ ascii s) : ∀ f ∈ expression s, f newline = false := by
  intro f hf
  obtain ⟨b, hb, rfl⟩ := List.mem_map.1 hf
  split
  · rfl
  · have hne : newline ≠ b := fun heq => h (heq ▸ hb)
    simpa using hne

/-- The file with the edits, and nothing else. -/
structure Edited (edits : List (Edit UInt8)) (bytes bytes' : Bytes) : Prop where
  length : bytes'.length = bytes.length
  changed : ∀ i : Nat, bytes'[i]? ≠ bytes[i]? → ∃ e ∈ edits, e.Takes bytes i
  none_left : ∀ e ∈ edits, ¬ occurs e.pattern bytes' = true
  again : sedFile edits bytes' = bytes'

/-- `sed` sees the lines of the file, but does the same to all of it at once. -/
theorem sedFile_eq {edits : List (Edit UInt8)} (hn : ∀ e ∈ edits, ∀ f ∈ e.pattern, f newline = false) (bytes : Bytes) :
    sedFile edits bytes = patch edits bytes := by
  rw [sedFile, patch_intercalate hn, List.intercalate_splitOn]

theorem edited_sedFile {edits : List (Edit UInt8)} (hs : Sound edits)
    (hn : ∀ e ∈ edits, ∀ f ∈ e.pattern, f newline = false) (bytes : Bytes) :
    Edited edits bytes (sedFile edits bytes) := by
  simp only [sedFile_eq hn]
  refine ⟨patch_length edits bytes, fun i => patch_changed hs, fun e he => patch_not_occurs hs he bytes, ?_⟩
  rw [sedFile_eq hn, patch_patch hs]

theorem keymasterEdits_newline : ∀ e ∈ keymasterEdits, ∀ f ∈ e.pattern, f newline = false := by
  simp only [keymasterEdits, List.forall_mem_cons]
  refine ⟨?_, ?_, ?_, ?_, nofun⟩ <;> exact expression_newline _ (by decide)

theorem mtkRilEdits_newline : ∀ e ∈ mtkRilEdits, ∀ f ∈ e.pattern, f newline = false := by
  simp only [mtkRilEdits, List.forall_mem_cons]
  exact ⟨expression_newline _ (by decide), nofun⟩

/-! ## The loop -/

/-- No path is bound to a file that the loop is to write. -/
def Files.Free (fs : Files) (files : List String) : Prop := ∀ path, ∀ f ∈ files, fs.bound path ≠ some (backing f)

theorem Files.patchFile_read {edits : List (Edit UInt8)} {fs : Files} {f : String} (h : fs.Free [f]) (path : String) :
    (fs.patchFile edits f).read path = if path = f then (fs.read path).map (sedFile edits) else fs.read path := by
  unfold patchFile
  cases hf : fs.read f with
  | none =>
    by_cases hp : path = f
    · simp [hp, hf]
    · simp [hp]
  | some bytes =>
    by_cases hp : path = f
    · subst hp
      rw [if_pos rfl, hf]
      simp [read]
    · have hother : ∀ b, fs.bound path = some b → b ≠ backing f := by
        rintro b hb rfl
        exact h path f List.mem_cons_self hb
      cases hb : fs.bound path with
      | none => simp [read, hp, hb]
      | some b => simp [read, hp, hb, hother b hb]

theorem Files.patchFile_bound {edits : List (Edit UInt8)} {fs : Files} {f path b : String}
    (h : (fs.patchFile edits f).bound path = some b) : fs.bound path = some b ∨ b = backing f := by
  unfold patchFile at h
  split at h
  · exact .inl h
  · by_cases hp : path = f
    · subst hp
      simp at h
      exact .inr h.symm
    · simp [hp] at h
      exact .inl h

theorem Files.patchFiles_bound {edits : List (Edit UInt8)} {files : List String} {fs : Files} {path b : String}
    (h : (fs.patchFiles edits files).bound path = some b) : fs.bound path = some b ∨ b ∈ files.map backing := by
  induction files generalizing fs with
  | nil => exact .inl h
  | cons f files ih =>
    rcases ih h with hb | hb
    · rcases patchFile_bound hb with hb | rfl
      · exact .inl hb
      · exact .inr List.mem_cons_self
    · exact .inr (List.mem_cons_of_mem _ hb)

/-- With a file of its own in `/mnt/phh` for each path, the loop edits the files
that are there, and no other path reads otherwise. -/
theorem Files.patchFiles_read {edits : List (Edit UInt8)} {files : List String} (hd : (files.map backing).Nodup)
    {fs : Files} (h : fs.Free files) (path : String) :
    (fs.patchFiles edits files).read path =
      if path ∈ files then (fs.read path).map (sedFile edits) else fs.read path := by
  induction files generalizing fs with
  | nil => rfl
  | cons f files ih =>
    rw [List.map_cons, List.nodup_cons] at hd
    have hone : fs.Free [f] := fun path g hg => h path g (List.mem_cons.2 (.inl (List.mem_singleton.1 hg)))
    have hnext : (fs.patchFile edits f).Free files := by
      intro path g hg hbound
      rcases patchFile_bound hbound with hb | hb
      · exact h path g (List.mem_cons_of_mem _ hg) hb
      · exact hd.1 (hb ▸ List.mem_map_of_mem hg)
    change ((fs.patchFile edits f).patchFiles edits files).read path = _
    rw [ih hd.2 hnext, patchFile_read hone]
    by_cases hp : path = f
    · subst hp
      have hnot : path ∉ files := fun hmem => hd.1 (List.mem_map_of_mem hmem)
      simp [hnot]
    · simp [hp]

/-! ## The properties -/

theorem Store.setprop_ne (s : Store) {key key' : String} (h : key' ≠ key) (value : String) :
    s.setprop key value key' = s key' := by
  unfold setprop
  split
  · rfl
  · exact Function.update_of_ne h _ _

theorem Store.setprop_isSome {s : Store} {key key' : String} (h : key' = key ∨ (s key').isSome) (value : String) :
    (s.setprop key value key').isSome := by
  unfold setprop
  split
  · rename_i hs
    rcases h with rfl | h
    · exact hs.2
    · exact h
  · rw [Function.update_apply]
    split
    · rfl
    · rename_i hne
      exact h.resolve_left hne

theorem Store.setprop_new {s : Store} {key : String} (h : s key = none) (value : String) :
    s.setprop key value key = some value.toList := by
  rw [setprop, if_neg (by simp [h]), Function.update_self]

/-- Both values are found. -/
def Known : Option (String × String) → Prop
  | some (release, spl) => release ≠ "" ∧ spl ≠ ""
  | none => False

instance : DecidablePred Known
  | some (release, spl) => inferInstanceAs (Decidable (release ≠ "" ∧ spl ≠ ""))
  | none => inferInstanceAs (Decidable False)

theorem fixSPL_files (m : Machine) (abi : String) (image : Option (String × String)) :
    (Known image ∧ (m.fixSPL abi image).files = m.files.patchFiles keymasterEdits keymasterFiles) ∨
      (¬ Known image ∧ (m.fixSPL abi image).files = m.files) := by
  unfold Machine.fixSPL
  cases image with
  | none => exact .inr ⟨id, rfl⟩
  | some values =>
    obtain ⟨release, spl⟩ := values
    dsimp only
    split
    · rename_i hempty
      exact .inr ⟨fun hk => hempty.elim hk.1 hk.2, rfl⟩
    · rename_i hvalues
      exact .inl ⟨not_or.1 hvalues, rfl⟩

theorem patchMtkRil_store (m : Machine) {key : String} (h1 : key ≠ "persist.sys.phh.radio.force_cognitive")
    (h2 : key ≠ "persist.sys.radio.ussd.fix") : m.patchMtkRil.store key = m.store key := by
  unfold Machine.patchMtkRil
  dsimp only
  split
  · rw [Store.setprop_ne _ h2, Store.setprop_ne _ h1]
  · rfl

theorem fixSPL_store {release spl : String} (hr : release ≠ "") (hs : spl ≠ "") (m : Machine) (abi : String) :
    (m.fixSPL abi (some (release, spl))).store =
      (((((m.store.setprop "ro.keymaster.mod" (if abi = "armeabi-v7a" then "AOSP on ARM32" else "AOSP on ARM64")).setprop
        "ro.keymaster.xxx.release" release).setprop "ro.keymaster.xxx.security_patch" spl).setprop
        "ro.keymaster.xxx.vbmeta_state" "unlocked").setprop "ro.keymaster.xxx.verifiedbootstate" "orange").setprop
        "ro.keymaster.brn" "Android" := by
  rw [Machine.fixSPL]
  simp [hr, hs]

/-- The names that the patched libraries ask for are set. -/
theorem fixSPL_set {image : Option (String × String)} (h : Known image) (m : Machine) (abi : String) :
    ∀ e ∈ keymasterEdits, ∃ key, e.replacement = ascii key ∧ ((m.fixSPL abi image).patchMtkRil.store key).isSome := by
  obtain ⟨release, spl, rfl⟩ : ∃ release spl, image = some (release, spl) := by
    cases image with
    | none => exact h.elim
    | some values => exact ⟨values.1, values.2, rfl⟩
  obtain ⟨hr, hs⟩ := h
  have keep {s : Store} {key key' : String} {value : String} (h : (s key').isSome) : (s.setprop key value key').isSome :=
    Store.setprop_isSome (.inr h) value
  have set {s : Store} {key : String} {value : String} : (s.setprop key value key).isSome :=
    Store.setprop_isSome (.inl rfl) value
  simp only [keymasterEdits, List.forall_mem_cons]
  refine ⟨⟨"ro.keymaster.xxx.release", rfl, ?_⟩, ⟨"ro.keymaster.xxx.security_patch", rfl, ?_⟩,
    ⟨"ro.keymaster.mod", rfl, ?_⟩, ⟨"ro.keymaster.brn", rfl, ?_⟩, nofun⟩ <;>
    rw [patchMtkRil_store _ (by decide) (by decide), fixSPL_store hr hs]
  · exact keep (keep (keep (keep set)))
  · exact keep (keep (keep set))
  · exact keep (keep (keep (keep (keep set))))
  · exact set

/-- What is set there, where nothing was. -/
theorem fixSPL_values {release spl : String} (hr : release ≠ "") (hs : spl ≠ "") {m : Machine}
    (h1 : m.store "ro.keymaster.xxx.release" = none) (h2 : m.store "ro.keymaster.xxx.security_patch" = none)
    (abi : String) :
    let m' := (m.fixSPL abi (some (release, spl))).patchMtkRil
    m'.store "ro.keymaster.xxx.release" = some release.toList ∧
      m'.store "ro.keymaster.xxx.security_patch" = some spl.toList := by
  dsimp only
  rw [patchMtkRil_store _ (by decide) (by decide), patchMtkRil_store _ (by decide) (by decide), fixSPL_store hr hs]
  constructor
  · rw [Store.setprop_ne _ (by decide), Store.setprop_ne _ (by decide), Store.setprop_ne _ (by decide),
      Store.setprop_ne _ (by decide), Store.setprop_new]
    rw [Store.setprop_ne _ (by decide), h1]
  · rw [Store.setprop_ne _ (by decide), Store.setprop_ne _ (by decide), Store.setprop_ne _ (by decide), Store.setprop_new]
    rw [Store.setprop_ne _ (by decide), Store.setprop_ne _ (by decide), h2]

/-! ## The run -/

theorem nodup_backing : ((keymasterFiles ++ mtkRilFiles).map backing).Nodup := by decide +kernel

/-- After `fixSPL` and the loop for the radio: each file of theirs that was there
reads with its edits and no others, at its old length; every other file reads as
before; and without a release and a patch level the keymaster files do, too.
The properties that the edited files ask for are set, to the boot image's values
unless they had one. -/
theorem patching_run (m : Machine) (abi : String) (image : Option (String × String))
    (hfresh : ∀ path, m.files.bound path = none) :
    let m' := (m.fixSPL abi image).patchMtkRil
    (∀ path, m.files.read path = none → m'.files.read path = none) ∧
      (∀ path bytes, m.files.read path = some bytes → ∃ bytes', m'.files.read path = some bytes' ∧
        (path ∈ keymasterFiles → Known image → Edited keymasterEdits bytes bytes') ∧
        (path ∈ mtkRilFiles → Edited mtkRilEdits bytes bytes') ∧
        (path ∉ mtkRilFiles → (path ∈ keymasterFiles → ¬ Known image) → bytes' = bytes)) ∧
      (Known image → ∀ e ∈ keymasterEdits, ∃ key, e.replacement = ascii key ∧ (m'.store key).isSome) ∧
      (∀ release spl, image = some (release, spl) → release ≠ "" → spl ≠ "" →
        m.store "ro.keymaster.xxx.release" = none → m.store "ro.keymaster.xxx.security_patch" = none →
        m'.store "ro.keymaster.xxx.release" = some release.toList ∧
          m'.store "ro.keymaster.xxx.security_patch" = some spl.toList) := by
  intro m'
  have hnodup := nodup_backing
  rw [List.map_append, List.nodup_append] at hnodup
  obtain ⟨hkeymaster, hril, hdisjoint⟩ := hnodup
  have hfree : m.files.Free keymasterFiles := fun path f _ => by rw [hfresh]; nofun
  have hdistinct : ∀ path ∈ keymasterFiles, path ∉ mtkRilFiles := by decide
  -- what the first part leaves
  have hfirst : ∀ path, (m.fixSPL abi image).files.read path =
      if path ∈ keymasterFiles ∧ Known image then (m.files.read path).map (sedFile keymasterEdits)
      else m.files.read path := by
    intro path
    rcases fixSPL_files m abi image with ⟨hk, hf⟩ | ⟨hk, hf⟩
    · rw [hf, Files.patchFiles_read hkeymaster hfree]
      simp [hk]
    · rw [hf]
      simp [hk]
  have hfree' : (m.fixSPL abi image).files.Free mtkRilFiles := by
    intro path f hmem hbound
    rcases fixSPL_files m abi image with ⟨-, hf⟩ | ⟨-, hf⟩
    · rw [hf] at hbound
      rcases Files.patchFiles_bound hbound with hb | hb
      · rw [hfresh] at hb
        cases hb
      · exact hdisjoint _ hb _ (List.mem_map_of_mem hmem) rfl
    · rw [hf, hfresh] at hbound
      cases hbound
  have hread : ∀ path, m'.files.read path = if path ∈ mtkRilFiles then
      ((m.fixSPL abi image).files.read path).map (sedFile mtkRilEdits) else (m.fixSPL abi image).files.read path :=
    Files.patchFiles_read hril hfree'
  refine ⟨?_, ?_, fun hk => fixSPL_set hk m abi, ?_⟩
  · intro path hnone
    rw [hread, hfirst, hnone]
    simp
  · intro path bytes hsome
    rw [hread, hfirst, hsome]
    by_cases hr : path ∈ mtkRilFiles
    · have hnot : path ∉ keymasterFiles := fun hk => hdistinct path hk hr
      refine ⟨sedFile mtkRilEdits bytes, by simp [hr, hnot], fun hk => absurd hk hnot, fun _ => ?_, fun h => absurd hr h⟩
      exact edited_sedFile sound_mtkRilEdits mtkRilEdits_newline bytes
    · by_cases hk : path ∈ keymasterFiles ∧ Known image
      · refine ⟨sedFile keymasterEdits bytes, by simp [hr, hk], fun _ _ => ?_, fun h => absurd h hr, ?_⟩
        · exact edited_sedFile sound_keymasterEdits keymasterEdits_newline bytes
        · exact fun _ h => absurd hk.2 (h hk.1)
      · exact ⟨bytes, by simp [hr, hk], fun h h' => absurd ⟨h, h'⟩ hk, fun h => absurd h hr, fun _ _ => rfl⟩
  · rintro release spl rfl hr hs h1 h2
    exact fixSPL_values hr hs h1 h2 abi

/-- A library that asks for the brand, on its second line. -/
theorem patching_run_library :
    let bytes := ascii "ELF\nro.product.brand"
    let m : Machine := ⟨fun _ => none, ⟨fun path => if path = "/vendor/bin/teed" then some bytes else none, fun _ => none,
      fun _ => none⟩⟩
    let m' := (m.fixSPL "arm64-v8a" (some ("11", "2023-05-05"))).patchMtkRil
    (∃ bytes', m'.files.read "/vendor/bin/teed" = some bytes' ∧ Edited keymasterEdits bytes bytes') ∧
      m'.store "ro.keymaster.xxx.release" = some "11".toList := by
  intro bytes m
  have h := patching_run m "arm64-v8a" (some ("11", "2023-05-05")) fun _ => rfl
  obtain ⟨bytes', hread, hedited, -⟩ := h.2.1 "/vendor/bin/teed" bytes rfl
  refine ⟨⟨bytes', hread, hedited (by decide) (by decide)⟩, ?_⟩
  exact (h.2.2.2 "11" "2023-05-05" rfl (by decide) (by decide) rfl rfl).1

example : sedFile keymasterEdits (ascii "ELF\nro.product.brand") = ascii "ELF\nro.keymaster.brn" := by decide

end PhhTreble.Boot

import PhhTreble.Lib.CString
import PhhTreble.Lib.LittleEndian
/-!
# getSPL

The program that `fixSPL` asks for the Android version and the security patch
level of a boot image. Newer images leave the header field zero and have both as
vbmeta properties, which are then searched for in the whole image. `none` is a
run that reads past the end of the buffer.
-/

namespace PhhTreble.Boot.GetSPL

open LittleEndian (le)

abbrev Bytes := List UInt8

def ascii (s : String) : Bytes := s.toList.map fun c => UInt8.ofNat c.toNat

/-- `%d` of a number that is not negative. -/
def decimal (n : Nat) : Bytes := ascii n.repr

/-- `%0<width>d`. -/
def padded (width n : Nat) : Bytes := ascii (String.ofList (List.replicate (width - n.repr.length) '0')) ++ decimal n

/-- `PROP_OS_VERSION` and `PROP_SPL`, each with the NUL that `sizeof` counts. -/
def PROP_OS_VERSION : Bytes := ascii "com.android.build.boot.os_version" ++ [0]
def PROP_SPL : Bytes := ascii "com.android.build.boot.security_patch" ++ [0]

structure Output where
  stdout : Bytes
  stderr : Bytes
deriving DecidableEq, Repr

/-- The word at byte 44. A short read leaves the bytes it does not reach zero. -/
def header (img : Bytes) : Nat := le ((img.drop (11 * 4)).take 4)

/-- `val & 0x7ff`. -/
def splField (img : Bytes) : Nat := header img % 2 ^ 11

/-- What is printed when the header has a patch level. -/
def fromHeader (img : Bytes) (arg : String) : Output :=
  let android := header img / 2 ^ 11
  let version := decimal (android / 2 ^ 14) ++ ascii "." ++ decimal (android / 2 ^ 7 % 2 ^ 7) ++ ascii "." ++
    decimal (android % 2 ^ 7)
  let y := 2000 + splField img / 2 ^ 4
  let m := splField img % 2 ^ 4
  { stdout :=
      if arg = "android" then version
      else if arg = "spl" then padded 4 y ++ ascii "-" ++ padded 2 m ++ ascii "-" ++ padded 2 1
      else []
    stderr :=
      ascii "Android: " ++ version ++ ascii "\nSPL: " ++ decimal y ++ ascii "-" ++ decimal m ++ ascii "-01\n" }

/-- The block for one property: it is printed to stderr, and to stdout when it
was asked for. -/
def printProp (buf key : Bytes) (label suffix : String) (asked : Bool) (out : Output) : Option Output :=
  match CString.after key buf with
  | none => some out
  | some p => do
    let value ← CString.read 0 p
    return {
      stdout := if asked then out.stdout ++ (value ++ ascii suffix) else out.stdout
      stderr := out.stderr ++ (ascii label ++ value ++ ascii "\n") }

/-- The search in the whole image. -/
def fromProperties (img : Bytes) (arg : String) : Option Output := do
  let out ← printProp img PROP_OS_VERSION "Android: " ".0.0" (arg = "android") ⟨[], []⟩
  printProp img PROP_SPL "SPL: " "" (arg = "spl") out

/-- `main`, with `argv[2]`. -/
def main (img : Bytes) (arg : String) : Option Output :=
  if splField img ≠ 0 then some (fromHeader img arg) else fromProperties img arg

/-! ## What is to be printed -/

/-- The two values that can be asked for. -/
inductive Requested where
  | android | spl
deriving DecidableEq, Repr

namespace Requested

def arg : Requested → String
  | android => "android"
  | spl => "spl"

def key : Requested → Bytes
  | android => PROP_OS_VERSION
  | spl => PROP_SPL

def suffix : Requested → Bytes
  | android => ascii ".0.0"
  | spl => []

end Requested

/-- The bytes between the first occurrence of the key and the next NUL. -/
def HasValue (img key value : Bytes) : Prop :=
  0 ∉ value ∧ ∃ pre rest, CString.FirstAt key pre (value ++ 0 :: rest) img

/-- The value with its suffix, or nothing where there is none. -/
def Prints (img : Bytes) (requested : Requested) (stdout : Bytes) : Prop :=
  (∃ value, HasValue img requested.key value ∧ stdout = value ++ requested.suffix) ∨
    ((¬ ∃ value, HasValue img requested.key value) ∧ stdout = [])

/-- If the key occurs, a NUL comes after its first occurrence. -/
def Terminated (img key : Bytes) : Prop := ∀ pre post, CString.FirstAt key pre post img → 0 ∈ post

/-! ## The search -/

variable {img key : Bytes}

theorem hasValue_iff {value : Bytes} : HasValue img key value ↔ ∃ p, CString.after key img = some p ∧ CString.read 0 p = some value := by
  simp only [CString.after_eq_some_iff, CString.read_eq_some_iff]
  constructor
  · rintro ⟨hnul, pre, rest, hfirst⟩
    exact ⟨_, ⟨pre, hfirst⟩, hnul, rest, rfl⟩
  · rintro ⟨p, ⟨pre, hfirst⟩, hnul, rest, rfl⟩
    exact ⟨hnul, pre, rest, hfirst⟩

theorem terminated_iff : Terminated img key ↔ ∀ p, CString.after key img = some p → ∃ value, CString.read 0 p = some value := by
  simp only [CString.after_eq_some_iff, CString.exists_read_iff]
  constructor
  · rintro h p ⟨pre, hfirst⟩
    exact h pre p hfirst
  · intro h pre post hfirst
    exact h post ⟨pre, hfirst⟩

section
variable (label suffix : String) (asked : Bool) (out : Output)

/-- A block leaves the buffer exactly when the value does not end. -/
theorem printProp_eq_none_iff : printProp img key label suffix asked out = none ↔ ¬ Terminated img key := by
  rw [terminated_iff, printProp]
  cases CString.after key img with
  | none => simp
  | some p =>
    cases hr : CString.read 0 p with
    | none => simp [hr]
    | some value => simp [hr]

/-- What it adds to stdout when it was asked for, and otherwise. -/
theorem printProp_stdout {out' : Output} (h : printProp img key label suffix asked out = some out') :
    (asked = false → out'.stdout = out.stdout) ∧
      (asked = true → (∃ value, HasValue img key value ∧ out'.stdout = out.stdout ++ (value ++ ascii suffix)) ∨
        (¬ ∃ value, HasValue img key value) ∧ out'.stdout = out.stdout) := by
  simp only [hasValue_iff]
  rw [printProp] at h
  cases ha : CString.after key img with
  | none =>
    rw [ha] at h
    cases h
    exact ⟨fun _ => rfl, fun _ => .inr ⟨by simp, rfl⟩⟩
  | some p =>
    rw [ha] at h
    cases hr : CString.read 0 p with
    | none =>
      simp only [hr] at h
      cases h
    | some value =>
      simp only [hr] at h
      cases h
      constructor
      · rintro rfl
        rfl
      · rintro rfl
        exact .inl ⟨value, ⟨p, rfl, hr⟩, rfl⟩

end

/-! ## The program -/

theorem main_eq_none_iff (h : splField img = 0) (arg : String) :
    main img arg = none ↔ ¬ (Terminated img PROP_OS_VERSION ∧ Terminated img PROP_SPL) := by
  rw [main, if_neg (not_not.2 h), fromProperties, not_and_or]
  cases h1 : printProp img PROP_OS_VERSION "Android: " ".0.0" (decide (arg = "android")) ⟨[], []⟩ with
  | none => exact iff_of_true rfl (.inl ((printProp_eq_none_iff _ _ _ _).1 h1))
  | some out =>
    have hterm : Terminated img PROP_OS_VERSION := by
      by_contra hn
      rw [(printProp_eq_none_iff _ _ _ _).2 hn] at h1
      cases h1
    rw [Option.bind_eq_bind, Option.bind_some, printProp_eq_none_iff]
    simp [hterm]

/-- What is printed by a run that stays in the buffer. -/
theorem main_prints (h : splField img = 0) (requested : Requested) {out : Output} (hm : main img requested.arg = some out) :
    Prints img requested out.stdout := by
  rw [main, if_neg (not_not.2 h), fromProperties, Option.bind_eq_bind, Option.bind_eq_some_iff] at hm
  obtain ⟨out', h1, h2⟩ := hm
  have hversion := printProp_stdout _ _ _ _ h1
  have hspl := printProp_stdout _ _ _ _ h2
  cases requested with
  | android =>
    have hout : out.stdout = out'.stdout := hspl.1 (by decide)
    rw [hout]
    exact hversion.2 (by decide)
  | spl =>
    have hout : out'.stdout = [] := hversion.1 (by decide)
    have hasked := hspl.2 (by decide)
    rw [hout] at hasked
    exact hasked

/-- For an image without a patch level in its header: each request is answered
with the value of its key, and nothing is read outside of the image, exactly
when for both keys a NUL follows the first occurrence. -/
theorem main_prints_iff (img : Bytes) (h : splField img = 0) (requested : Requested) :
    (∃ out, main img requested.arg = some out ∧ Prints img requested out.stdout) ↔
      Terminated img PROP_OS_VERSION ∧ Terminated img PROP_SPL := by
  constructor
  · rintro ⟨out, hm, -⟩
    by_contra hn
    rw [(main_eq_none_iff h _).2 hn] at hm
    cases hm
  · intro hterm
    cases hm : main img requested.arg with
    | none => exact absurd hterm ((main_eq_none_iff h _).1 hm)
    | some out => exact ⟨out, rfl, main_prints h requested hm⟩

/-- An image with a patch level and no version. -/
theorem main_prints_level :
    let img := List.replicate 48 0 ++ PROP_SPL ++ ascii "2023-05-05" ++ [0]
    ∃ out, main img "spl" = some out ∧ Prints img .spl out.stdout := by
  intro img
  refine (main_prints_iff img (by decide) .spl).2 ⟨terminated_iff.2 fun p hp => ?_, terminated_iff.2 fun p hp => ?_⟩
  · have hnone : CString.after PROP_OS_VERSION img = none := by decide
    rw [hnone] at hp
    cases hp
  · have hsome : CString.after PROP_SPL img = some (ascii "2023-05-05" ++ [0]) := by decide
    rw [hsome] at hp
    cases hp
    exact ⟨ascii "2023-05-05", by decide⟩

/-- The image ends within the value. -/
theorem main_unterminated : ¬ ∀ (img : Bytes), splField img = 0 → ∀ requested : Requested,
    ∃ out, main img requested.arg = some out ∧ Prints img requested out.stdout := by
  intro h
  obtain ⟨out, hm, -⟩ := h (List.replicate 48 0 ++ PROP_SPL ++ ascii "2023-05-05") (by decide) .spl
  have hnone : main (List.replicate 48 0 ++ PROP_SPL ++ ascii "2023-05-05") Requested.spl.arg = none := by decide
  rw [hnone] at hm
  cases hm

end PhhTreble.Boot.GetSPL

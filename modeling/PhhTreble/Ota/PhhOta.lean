import Mathlib.Data.List.Basic
import Mathlib.Logic.Function.Basic
import PhhTreble.Lib.Runs
/-!
# phh-ota

The commands of `phh-ota` on the two images `system_otaphh_a` and
`system_otaphh_b`, the file `/metadata/phh/img` that names the one to boot, and
the slot the system runs from. What the image manager, the file system and
`mount` answer is part of a command; their calls act on the named image only.
-/

namespace PhhTreble.Ota

/-! ## The data model -/

inductive Slot where
  | a | b
deriving DecidableEq, Repr

def Slot.other : Slot → Slot
  | .a => .b
  | .b => .a

/-- A backing image. `checked`: `checkOta` has succeeded on it since it was
created. -/
inductive Image where
  | absent | created | checked
deriving DecidableEq, Repr

structure World where
  images : Slot → Image
  /-- `/metadata/phh/img`: `switch-slot` alone writes it, one letter. -/
  img : Option Slot
  running : Option Slot
  /-- `phh.ota.error`. -/
  error : String

def World.init : World := ⟨fun _ => .absent, none, none, ""⟩

inductive ImageOp where
  | unmap | delete | create | map
deriving DecidableEq, Repr

/-- A call of the image manager, whatever it returns. -/
structure ImageCall where
  op : ImageOp
  slot : Slot
deriving DecidableEq, Repr

/-- How a command ends. `crashed`: through the null `imgManager`. -/
inductive Exit where
  | returned (status : Int)
  | crashed
deriving DecidableEq, Repr

/-- What a command leaves, and what it asked of the image manager. -/
structure Outcome where
  world : World
  calls : List ImageCall
  exit : Exit

/-! ## What the environment answers -/

/-- `map` and `getMapped` are the device paths of `MapImageDevice` and
`GetMappedImageDevice`, which fail where there is no image. -/
structure CheckAnswer where
  opened : Bool
  map : Option String
  getMapped : Option String
  mount : Bool

/-- `WriteStringToFile`: a file that cannot be opened stays, one that cannot be
written is removed. -/
inductive WriteAnswer where
  | written | unopened | removed
deriving DecidableEq, Repr

structure SwitchAnswer where
  read : Bool
  check : CheckAnswer
  write : WriteAnswer

/-- `CreateBackingImage`: one that fails may have lost the image that was there. -/
inductive CreateAnswer where
  | created
  | timedOut (lost : Bool)
  | failed (text : String) (lost : Bool)
deriving DecidableEq, Repr

structure NewAnswer where
  read : Bool
  opened : Bool
  delete : Bool
  create : CreateAnswer
  blockDevice : Bool

structure DeleteAnswer where
  opened : Bool
  delete : Slot → Bool

/-! ## Commands -/

/-- What `ReadFileToString` yields of the file. -/
def World.readImg (w : World) (read : Bool) : Option Slot := if read then w.img else none

/-- `current_slot` is what the file says, which need not be the running slot. -/
def getNextSlot (current_slot : Option Slot) : Slot := if current_slot = some .a then .b else .a

/-- `checkOta` on an image that is there or not. -/
def checkOta (present : Bool) (image : Slot) (e : CheckAnswer) : Bool × List ImageCall :=
  if !e.opened then (false, []) else
  match if present then e.map <|> e.getMapped else none with
  | none => (false, [⟨.map, image⟩, ⟨.unmap, image⟩])
  | some devPath =>
    -- The only way out that leaves the image mapped.
    if devPath = "" then (false, [⟨.map, image⟩])
    else (e.mount, [⟨.map, image⟩, ⟨.unmap, image⟩])

def World.setImage (w : World) (s : Slot) (i : Image) : World := { w with images := Function.update w.images s i }

def World.writeImg (w : World) (s : Slot) : WriteAnswer → World
  | .written => { w with img := some s }
  | .unopened => w
  | .removed => { w with img := none }

def World.writeImageError (w : World) (error : String) : World := { w with error := error }

def switchSlot (w : World) (e : SwitchAnswer) : Outcome :=
  let next_slot := getNextSlot (w.readImg e.read)
  let (ok, calls) := checkOta (w.images next_slot ≠ .absent) next_slot e.check
  if !ok then ⟨w.writeImageError "Failed to mount OTA image.", calls, .returned (-1)⟩
  -- Whether the file was written is not looked at.
  else ⟨((w.writeImageError "").setImage next_slot .checked).writeImg next_slot e.write, calls, .returned 0⟩

/-- `DeleteBackingImage`. -/
def World.deleteImage (w : World) (s : Slot) (ok : Bool) : World := if ok then w.setImage s .absent else w

def newSlot (w : World) (e : NewAnswer) : Outcome :=
  let next_slot := getNextSlot (w.readImg e.read)
  let w := w.writeImageError ""
  if !e.opened then ⟨w, [], .crashed⟩ else
  -- The results of the first two calls are printed, not checked.
  let w := w.deleteImage next_slot e.delete
  let calls := [⟨.unmap, next_slot⟩, ⟨.delete, next_slot⟩, ⟨.create, next_slot⟩]
  match e.create with
  | .created =>
    ⟨w.setImage next_slot .created, calls ++ [⟨.map, next_slot⟩], .returned (if e.blockDevice then 0 else -1)⟩
  | .timedOut lost =>
    ⟨(w.deleteImage next_slot lost).writeImageError "Image creation paused too long under system pressure. Please retry.",
      calls, .returned (-1)⟩
  | .failed text lost => ⟨(w.deleteImage next_slot lost).writeImageError text, calls, .returned (-1)⟩

/-- The slots `delete-other-slot` deletes; `PHH_OTA_SLOT` is the running slot. -/
def otherSlots : Option Slot → List Slot
  | none => [.a, .b]
  | some s => [s.other]

def deleteOtherSlot (w : World) (e : DeleteAnswer) : Outcome :=
  if !e.opened then ⟨w, [], .crashed⟩ else
  ⟨(otherSlots w.running).foldl (fun w s => w.deleteImage s (e.delete s)) w,
    (otherSlots w.running).flatMap fun s => [⟨.unmap, s⟩, ⟨.delete, s⟩], .returned 0⟩

inductive Command where
  | newSlot (e : NewAnswer)
  | switchSlot (e : SwitchAnswer)
  | deleteOtherSlot (e : DeleteAnswer)
  /-- `sys.phh.uninstall-ota`; `ok`: `rm` removed the file. -/
  | uninstall (ok : Bool)
  | reboot

def exec (w : World) : Command → Outcome
  | .newSlot e => newSlot w e
  | .switchSlot e => switchSlot w e
  | .deleteOtherSlot e => deleteOtherSlot w e
  | .uninstall ok => ⟨if ok then { w with img := none } else w, [], .returned (if ok then 0 else 1)⟩
  | .reboot => ⟨{ w with running := w.img, error := "" }, [], .returned 0⟩

def step (w : World) (c : Command) : World := (exec w c).world

/-! ## What the updates change -/

section Updates
variable (w : World) (s t : Slot) (i : Image) (ok : Bool) (e : WriteAnswer) (x : String)

@[simp] theorem World.setImage_img : (w.setImage s i).img = w.img := rfl
@[simp] theorem World.setImage_running : (w.setImage s i).running = w.running := rfl
@[simp] theorem World.setImage_error : (w.setImage s i).error = w.error := rfl
@[simp] theorem World.setImage_images : (w.setImage s i).images t = if t = s then i else w.images t := by
  simp [World.setImage, Function.update_apply]

@[simp] theorem World.writeImageError_img : (w.writeImageError x).img = w.img := rfl
@[simp] theorem World.writeImageError_running : (w.writeImageError x).running = w.running := rfl
@[simp] theorem World.writeImageError_error : (w.writeImageError x).error = x := rfl
@[simp] theorem World.writeImageError_images : (w.writeImageError x).images = w.images := rfl

@[simp] theorem World.writeImg_img :
    (w.writeImg s e).img = match e with | .written => some s | .unopened => w.img | .removed => none := by
  cases e <;> rfl
@[simp] theorem World.writeImg_running : (w.writeImg s e).running = w.running := by cases e <;> rfl
@[simp] theorem World.writeImg_error : (w.writeImg s e).error = w.error := by cases e <;> rfl
@[simp] theorem World.writeImg_images : (w.writeImg s e).images = w.images := by cases e <;> rfl

@[simp] theorem World.deleteImage_img : (w.deleteImage s ok).img = w.img := by cases ok <;> rfl
@[simp] theorem World.deleteImage_running : (w.deleteImage s ok).running = w.running := by cases ok <;> rfl
@[simp] theorem World.deleteImage_error : (w.deleteImage s ok).error = w.error := by cases ok <;> rfl
@[simp] theorem World.deleteImage_images :
    (w.deleteImage s ok).images t = if ok ∧ t = s then .absent else w.images t := by
  cases ok <;> simp [World.deleteImage]

end Updates

/-! ## Which slot comes next -/

theorem mem_otherSlots {r : Option Slot} {s : Slot} : s ∈ otherSlots r ↔ r ≠ some s := by
  rcases r with _ | (_ | _) <;> cases s <;> decide

/-- The next slot is one that the file names when the file names `a` and was
not read. -/
theorem getNextSlot_eq_img {w : World} {read : Bool} :
    w.img = some (getNextSlot (w.readImg read)) ↔ w.img = some .a ∧ read = false := by
  cases read <;> rcases hi : w.img with _ | (_ | _) <;> simp [World.readImg, getNextSlot, hi]

/-! ## phh.ota.error -/

theorem switchSlot_error (w : World) (e : SwitchAnswer) :
    (switchSlot w e).world.error = "" ↔ (switchSlot w e).exit = .returned 0 := by
  unfold switchSlot
  dsimp only
  split <;> simp

theorem newSlot_error {w : World} {e : NewAnswer} (h : (newSlot w e).exit = .returned 0) :
    (newSlot w e).world.error = "" := by
  unfold newSlot at h ⊢
  dsimp only at h ⊢
  split at h
  · cases h
  · rename_i ho
    rw [if_neg ho]
    cases hc : e.create with
    | created => simp
    | timedOut lost => simp [hc] at h
    | failed text lost => simp [hc] at h

end PhhTreble.Ota

import PhhTreble.Ota.PhhOta
/-!
# What runs of phh-ota keep

The file names a checked image, and no command calls the image manager on the
running image: each is one step lemma, lifted to runs.
-/

namespace PhhTreble.Ota

/-! ## The named image -/

/-- The image the file names is there and `checkOta` has succeeded on it. -/
def ImgOk (w : World) : Prop := ∀ s, w.img = some s → w.images s = .checked

/-- A `switch-slot` that fails leaves the file. -/
def SwitchKeeps (w : World) : Command → Prop
  | .switchSlot e => (switchSlot w e).exit ≠ .returned 0 → (switchSlot w e).world.img = w.img
  | _ => True

/-- The creation failed and took nothing with it. -/
def CreateAnswer.spares : CreateAnswer → Bool
  | .created => false
  | .timedOut lost => !lost
  | .failed _ lost => !lost

/-- What the slots in use are before a command: `new-slot` takes the image the
file names only when it cannot read the name, `delete-other-slot` when the
system runs from elsewhere. -/
def Kept (w : World) : Command → Prop
  | .newSlot e => e.opened → w.img = some .a → e.read = false → e.delete = false ∧ e.create.spares
  | .deleteOtherSlot e => ∀ s, w.img = some s → w.running = some s ∨ e.opened = false ∨ e.delete s = false
  | _ => True

theorem checkOta_true {present : Bool} {image : Slot} {e : CheckAnswer} (h : (checkOta present image e).1 = true) :
    present = true ∧ e.opened = true ∧ e.mount = true := by
  unfold checkOta at h
  split at h
  · cases h
  · rename_i ho
    split at h
    · cases h
    · rename_i hd
      split at h
      · cases h
      · refine ⟨?_, by simpa using ho, h⟩
        by_contra hp
        rw [if_neg hp] at hd
        cases hd

/-- `switch-slot` either fails and leaves the images and the file, or has
checked an image that is there and may then name it. -/
theorem switchSlot_cases (w : World) (e : SwitchAnswer) :
    ((switchSlot w e).exit = .returned (-1) ∧ (switchSlot w e).world.img = w.img ∧
      (switchSlot w e).world.images = w.images) ∨
    ((switchSlot w e).exit = .returned 0 ∧ w.images (getNextSlot (w.readImg e.read)) ≠ .absent ∧
      (∀ s, (switchSlot w e).world.img = some s → s = getNextSlot (w.readImg e.read) ∨ w.img = some s) ∧
      ∀ s, (switchSlot w e).world.images s =
        if s = getNextSlot (w.readImg e.read) then .checked else w.images s) := by
  unfold switchSlot
  generalize getNextSlot (w.readImg e.read) = n
  have ht := @checkOta_true (w.images n ≠ .absent) n e.check
  dsimp only
  split <;> rename_i hok
  · exact .inl ⟨rfl, rfl, rfl⟩
  · refine .inr ⟨rfl, by simpa using (ht (by simpa using hok)).1, fun s hs => ?_, fun s => ?_⟩
    · cases hw : e.write <;> simp [hw] at hs
      · exact .inl hs.symm
      · exact .inr hs
    · simp

theorem newSlot_img (w : World) (e : NewAnswer) : (newSlot w e).world.img = w.img := by
  unfold newSlot
  split
  · rfl
  · cases e.create <;> simp

/-- `new-slot` touches the next image only, and spares it if each of its calls
does. -/
theorem newSlot_images (w : World) (e : NewAnswer) (s : Slot) :
    (newSlot w e).world.images s =
      if e.opened ∧ s = getNextSlot (w.readImg e.read) ∧ ¬ (e.delete = false ∧ e.create.spares) then
        if e.create = .created then .created else .absent
      else w.images s := by
  unfold newSlot
  generalize getNextSlot (w.readImg e.read) = n
  cases ho : e.opened
  · simp
  · by_cases hs : s = n
    · cases hd : e.delete <;> rcases hc : e.create with _ | (_ | _) | ⟨_, _ | _⟩ <;>
        simp [hs, CreateAnswer.spares]
    · cases hc : e.create <;> simp [hs]

theorem deleteOtherSlot_img (w : World) (e : DeleteAnswer) : (deleteOtherSlot w e).world.img = w.img := by
  unfold deleteOtherSlot
  split
  · rfl
  · rcases w.running with _ | s <;> simp [otherSlots]

theorem deleteOtherSlot_images (w : World) (e : DeleteAnswer) (s : Slot) :
    (deleteOtherSlot w e).world.images s =
      if e.opened ∧ w.running ≠ some s ∧ e.delete s then .absent else w.images s := by
  unfold deleteOtherSlot
  cases ho : e.opened
  · simp
  · rcases hr : w.running with _ | (_ | _) <;> cases s <;> simp [otherSlots, Slot.other]

/-- One command keeps the file naming a checked image exactly when it is one of
those that spare the image. -/
theorem step_imgOk (w : World) (c : Command) (h : ImgOk w) : ImgOk (step w c) ∧ SwitchKeeps w c ↔ Kept w c := by
  cases c with
  | newSlot e =>
    simp only [step, exec, ImgOk, SwitchKeeps, Kept, newSlot_img, newSlot_images, and_true]
    constructor
    · intro hk ho hi hr
      -- An unread file names no slot, so the next one is `a`, the slot it does name.
      by_contra hx
      have hn : Slot.a = getNextSlot (w.readImg e.read) := by simp [World.readImg, hr, getNextSlot]
      have := hk .a hi
      rw [if_pos ⟨ho, hn, hx⟩] at this
      split at this <;> cases this
    · intro hk s hs
      rw [if_neg, h s hs]
      rintro ⟨ho, rfl, hx⟩
      obtain ⟨hi, hr⟩ := getNextSlot_eq_img.1 hs
      exact hx (hk ho hi hr)
  | switchSlot e =>
    simp only [step, exec, Kept, iff_true]
    obtain ⟨-, hi, hm⟩ | ⟨hx, -, hi, hm⟩ := switchSlot_cases w e
    · exact ⟨fun s hs => by rw [hm]; exact h s (hi ▸ hs), fun _ => hi⟩
    · refine ⟨fun s hs => ?_, fun hne => absurd hx hne⟩
      rw [hm]
      split
      · rfl
      · rename_i hn
        exact h s ((hi s hs).resolve_left hn)
  | deleteOtherSlot e =>
    simp only [step, exec, ImgOk, SwitchKeeps, Kept, deleteOtherSlot_img, deleteOtherSlot_images, and_true]
    -- The slot the file names is deleted unless the system runs from it.
    refine forall_congr' fun s => forall_congr' fun hs => ?_
    rw [h s hs]
    by_cases hr : w.running = some s
    · simp [hr]
    · cases ho : e.opened <;> cases hd : e.delete s <;> simp [hr]
  | uninstall ok =>
    simp only [step, exec, SwitchKeeps, Kept, and_true, iff_true]
    cases ok
    · exact h
    · intro s hs
      cases hs
  | reboot =>
    simp only [step, exec, SwitchKeeps, Kept, and_true, iff_true]
    exact h

theorem init_imgOk : ImgOk World.init := fun _ hs => nomatch hs

/-- In a run the file names a checked image throughout, and every failed
`switch-slot` leaves it, exactly when each command spares the image the file
names before it. -/
theorem img_checked_iff (cs : List Command) :
    Runs.Always step ImgOk World.init cs ∧ Runs.Along step SwitchKeeps World.init cs ↔
      Runs.Along step Kept World.init cs :=
  Runs.always_iff_along (J := fun _ => True) (fun _ _ _ => trivial) (fun w c _ h => step_imgOk w c h) trivial
    init_imgOk cs

/-- The first update is installed and named, and before the reboot
`sys.boot_completed` fires again: `delete-other-slot` deletes the update. -/
theorem img_unchecked_after_delete :
    ¬ (Runs.Always step ImgOk World.init
        [.newSlot ⟨true, true, false, .created, true⟩,
         .switchSlot ⟨true, ⟨true, some "/dev/block/dm-5", none, true⟩, .written⟩,
         .deleteOtherSlot ⟨true, fun _ => true⟩] ∧
      Runs.Along step SwitchKeeps World.init
        [.newSlot ⟨true, true, false, .created, true⟩,
         .switchSlot ⟨true, ⟨true, some "/dev/block/dm-5", none, true⟩, .written⟩,
         .deleteOtherSlot ⟨true, fun _ => true⟩]) := by
  rintro ⟨h, -⟩
  have hk := Runs.always_iff.1 h _ [] (List.append_nil _).symm .a (by decide)
  exact absurd hk (by decide)

/-! ## The running image -/

/-- No call but `map` on the image the system runs from, whatever it returns. -/
def Untouched (w : World) (c : Command) : Prop :=
  ∀ call ∈ (exec w c).calls, call.op ≠ .map → w.running ≠ some call.slot

instance (w : World) (c : Command) : Decidable (Untouched w c) :=
  inferInstanceAs (Decidable (∀ call ∈ (exec w c).calls, call.op ≠ .map → w.running ≠ some call.slot))

/-- The file and the running slot no longer agree: the system runs from `a` and
the file does not say so, or it runs from `b` and the file says `a`. -/
def RunningIsNext (w : World) (read : Bool) : Prop :=
  (w.running = some .a ∧ ¬ (read = true ∧ w.img = some .a)) ∨
    (w.running = some .b ∧ read = true ∧ w.img = some .a)

/-- `new-slot` stops without a manager; `switch-slot` stops before it unmaps
without a manager or when the image of the slot has a device without a path. -/
def UntouchedWhen (w : World) : Command → Prop
  | .newSlot e => RunningIsNext w e.read → e.opened = false
  | .switchSlot e => RunningIsNext w e.read → e.check.opened = false ∨
      (∃ r, w.running = some r ∧ w.images r ≠ .absent) ∧ (e.check.map <|> e.check.getMapped) = some ""
  | _ => True

theorem runningIsNext_iff {w : World} {read : Bool} :
    w.running = some (getNextSlot (w.readImg read)) ↔ RunningIsNext w read := by
  unfold RunningIsNext getNextSlot World.readImg
  cases read <;> rcases w.img with _ | (_ | _) <;> rcases w.running with _ | (_ | _) <;> simp

/-- `checkOta` unmaps nothing but its image, and not before it has the path. -/
theorem checkOta_calls (present : Bool) (image : Slot) (e : CheckAnswer) (call : ImageCall) :
    call ∈ (checkOta present image e).2 ∧ call.op ≠ .map ↔
      call = ⟨.unmap, image⟩ ∧ e.opened = true ∧ ¬ (present = true ∧ (e.map <|> e.getMapped) = some "") := by
  unfold checkOta
  generalize (e.map <|> e.getMapped) = path
  cases e.opened
  · simp
  · rcases hd : (if present = true then path else none) with _ | devPath
    · have hp : ¬ (present = true ∧ path = some "") := by
        rintro ⟨hp, hn⟩
        rw [if_pos hp, hn] at hd
        cases hd
      obtain ⟨op, s⟩ := call
      cases op <;> simp [hp]
    · have hp : present = true ∧ path = some devPath := by
        split at hd
        · exact ⟨‹_›, hd⟩
        · cases hd
      by_cases hpath : devPath = ""
      · subst hpath
        obtain ⟨op, s⟩ := call
        cases op <;> simp [hp.1, hp.2]
      · obtain ⟨op, s⟩ := call
        cases op <;> simp [hp, hpath]

theorem newSlot_calls (w : World) (e : NewAnswer) (call : ImageCall) :
    call ∈ (newSlot w e).calls ∧ call.op ≠ .map ↔
      e.opened = true ∧ call.slot = getNextSlot (w.readImg e.read) ∧ call.op ≠ .map := by
  unfold newSlot
  generalize getNextSlot (w.readImg e.read) = n
  obtain ⟨op, s⟩ := call
  cases e.opened
  · simp
  · cases e.create <;> cases op <;> simp

theorem deleteOtherSlot_calls {w : World} {e : DeleteAnswer} {call : ImageCall}
    (h : call ∈ (deleteOtherSlot w e).calls) : w.running ≠ some call.slot := by
  unfold deleteOtherSlot at h
  split at h
  · cases h
  · obtain ⟨s, hs, hc⟩ := List.mem_flatMap.1 h
    rw [mem_otherSlots] at hs
    simp only [List.mem_cons, List.not_mem_nil, or_false] at hc
    rcases hc with rfl | rfl <;> exact hs

theorem switchSlot_calls (w : World) (e : SwitchAnswer) :
    (switchSlot w e).calls =
      (checkOta (w.images (getNextSlot (w.readImg e.read)) ≠ .absent) (getNextSlot (w.readImg e.read)) e.check).2 := by
  unfold switchSlot
  dsimp only
  split <;> rfl

/-- One command leaves the running image alone exactly when it has another
target or stops early. -/
theorem untouched_iff (w : World) (c : Command) : Untouched w c ↔ UntouchedWhen w c := by
  cases c with
  | newSlot e =>
    simp only [Untouched, UntouchedWhen, exec, ← runningIsNext_iff]
    constructor
    · intro h hr
      by_contra ho
      obtain ⟨hc, hop⟩ := (newSlot_calls w e ⟨.unmap, getNextSlot (w.readImg e.read)⟩).2
        ⟨by simpa using ho, rfl, by simp⟩
      exact h _ hc hop hr
    · intro h call hc hop hr
      obtain ⟨ho, hs, -⟩ := (newSlot_calls w e call).1 ⟨hc, hop⟩
      rw [h (hs ▸ hr)] at ho
      cases ho
  | switchSlot e =>
    simp only [Untouched, UntouchedWhen, exec, ← runningIsNext_iff, switchSlot_calls]
    generalize getNextSlot (w.readImg e.read) = n
    have hcalls := checkOta_calls (w.images n ≠ .absent) n e.check
    constructor
    · intro h hr
      -- `checkOta` unmaps its image on every way out but two.
      by_contra hx
      rw [not_or] at hx
      obtain ⟨hc, hop⟩ := (hcalls ⟨.unmap, n⟩).2
        ⟨rfl, by simpa using hx.1, fun hp => hx.2 ⟨⟨n, hr, by simpa using hp.1⟩, hp.2⟩⟩
      exact h _ hc hop hr
    · intro h call hc hop hr
      obtain ⟨rfl, ho, hp⟩ := (hcalls call).1 ⟨hc, hop⟩
      rcases h hr with h | ⟨⟨r, hr', hi⟩, hd⟩
      · rw [h] at ho
        cases ho
      · rw [hr] at hr'
        cases hr'
        exact hp ⟨by simpa using hi, hd⟩
  | deleteOtherSlot e => exact ⟨fun _ => trivial, fun _ call hc _ => deleteOtherSlot_calls hc⟩
  | uninstall ok => exact ⟨fun _ => trivial, fun _ call hc => nomatch hc⟩
  | reboot => exact ⟨fun _ => trivial, fun _ call hc => nomatch hc⟩

/-- In a run no command unmaps, deletes or creates the running image exactly
when each that would have it as its target stops early. -/
theorem running_untouched_iff (cs : List Command) :
    Runs.Along step Untouched World.init cs ↔ Runs.Along step UntouchedWhen World.init cs :=
  Runs.along_congr (J := fun _ => True) (fun _ _ _ => trivial) (fun w c _ => untouched_iff w c) trivial cs

/-- An update is prepared again between `switch-slot` and the reboot: the
running image can neither be unmapped nor deleted, and is created over. -/
theorem running_recreated :
    ¬ Runs.Along step Untouched World.init
        [.newSlot ⟨true, true, false, .created, true⟩,
         .switchSlot ⟨true, ⟨true, some "/dev/block/dm-5", none, true⟩, .written⟩, .reboot,
         .newSlot ⟨true, true, false, .created, true⟩,
         .switchSlot ⟨true, ⟨true, some "/dev/block/dm-6", none, true⟩, .written⟩,
         .newSlot ⟨true, true, false, .created, true⟩] ∧
      (Runs.run step World.init
        [.newSlot ⟨true, true, false, .created, true⟩,
         .switchSlot ⟨true, ⟨true, some "/dev/block/dm-5", none, true⟩, .written⟩, .reboot,
         .newSlot ⟨true, true, false, .created, true⟩,
         .switchSlot ⟨true, ⟨true, some "/dev/block/dm-6", none, true⟩, .written⟩,
         .newSlot ⟨true, true, false, .created, true⟩]).images .a = .created := by
  refine ⟨by decide, by decide⟩

end PhhTreble.Ota

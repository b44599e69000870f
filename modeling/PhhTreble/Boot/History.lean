import PhhTreble.Boot.Ims
import PhhTreble.Lib.Settling
/-!
# Boot histories

Boots, with Settings creating and removing the selection flag between them.
-/

namespace PhhTreble.Boot

inductive Event where
  | boot (e : Answers)
  /-- Settings creates `STOCK_MTK_IMS_FLAG`, or removes it. -/
  | settings (flag : Bool)

namespace Phone

def next (p : Phone) : Event → Phone
  | .boot e => (boot e p).1
  | .settings flag => { p with flag := flag }

end Phone

/-- The phone at the final `[ -f "$STOCK_MTK_IMS_FLAG" ]`. -/
def atSelection (e : Answers) (p : Phone) : Phone :=
  if Supported e.model then initDefault e p.restart else p.restart

theorem rwSystem_restart (e : Answers) (p : Phone) : rwSystem e p.restart = selectStock e (atSelection e p) := rfl

theorem selectStock_flag (e : Answers) (p : Phone) : (selectStock e p).flag = p.flag := by
  unfold selectStock
  rcases (if p.flag then mountStockMtkIms e p.mounts else (p.mounts, false)) with ⟨m, _ | _⟩ <;> rfl

/-- What phh-on-boot.sh leaves alone. -/
theorem phhOnBoot_frame (e : Answers) (p : Phone) :
    (phhOnBoot e p).1.flag = p.flag ∧ (phhOnBoot e p).1.mounts = p.mounts ∧
      (phhOnBoot e p).1.stock_mtk_ims = p.stock_mtk_ims := by
  unfold phhOnBoot imsSupport
  split
  · exact ⟨rfl, rfl, rfl⟩
  · split
    · split <;> split <;> exact ⟨rfl, rfl, rfl⟩
    · exact ⟨rfl, rfl, rfl⟩

/-- A boot ends with the flag it selected by. -/
theorem boot_flag (e : Answers) (p : Phone) : (boot e p).1.flag = (atSelection e p).flag := by
  rw [boot, (phhOnBoot_frame e _).1, rwSystem_restart, selectStock_flag]

theorem atSelection_flag (e : Answers) (p : Phone) :
    (atSelection e p).flag = true ↔ p.flag = true ∨ (Supported e.model ∧ p.marker = false ∧ e.touchFlag = true) := by
  unfold atSelection
  split
  · rename_i hs
    rw [initDefault_flag]
    simp [hs, Phone.restart]
  · rename_i hs
    simp [hs, Phone.restart]

/-! ## The user's choice -/

structure History where
  phone : Phone
  /-- The flag as Settings last left it, from the first boot on that ended with
  the flag present. -/
  choice : Option Bool

namespace History

def next (h : History) : Event → History
  | .boot e =>
    let p := (boot e h.phone).1
    ⟨p, h.choice.or (if p.flag then some true else none)⟩
  | .settings flag => ⟨h.phone.next (.settings flag), h.choice.map fun _ => flag⟩

/-- The boot removes no flag, and selects by the choice there is. -/
def Respects (h : History) : Event → Prop
  | .boot e =>
    (h.phone.flag = true → (atSelection e h.phone).flag = true) ∧
      ∀ choice, h.choice = some choice → (atSelection e h.phone).flag = choice
  | .settings _ => True

/-- With a choice there, the boot does not come to a successful `touch` of the
flag: its model has no default, or it finds the marker or the flag. -/
def NotTouched (h : History) : Event → Prop
  | .boot e =>
    h.choice.isSome → ¬ (Supported e.model ∧ h.phone.marker = false ∧ h.phone.flag = false ∧ e.touchFlag = true)
  | .settings _ => True

/-- The flag is the choice. -/
def Chosen (h : History) : Prop := ∀ choice, h.choice = some choice → h.phone.flag = choice

theorem respects_iff {h : History} (hc : h.Chosen) (e : Event) : h.Respects e ↔ h.NotTouched e := by
  cases e with
  | settings flag => exact Iff.rfl
  | boot e =>
    have hkeep : h.phone.flag = true → (atSelection e h.phone).flag = true := by
      intro hf
      exact (atSelection_flag e h.phone).2 (.inl hf)
    constructor
    · rintro ⟨-, hr⟩ hsome ⟨hs, hm, hf, ht⟩
      obtain ⟨choice, hchoice⟩ := Option.isSome_iff_exists.1 hsome
      have hsel : (atSelection e h.phone).flag = true := (atSelection_flag e h.phone).2 (.inr ⟨hs, hm, ht⟩)
      have hnow := hc choice hchoice
      rw [hr choice hchoice] at hsel
      rw [hsel, hf] at hnow
      cases hnow
    · intro hn
      refine ⟨hkeep, fun choice hchoice => ?_⟩
      rw [← hc choice hchoice, Bool.eq_iff_iff, atSelection_flag]
      constructor
      · rintro (hf | ⟨hs, hm, ht⟩)
        · exact hf
        · by_contra hf
          exact hn (by rw [hchoice]; rfl) ⟨hs, hm, Bool.eq_false_iff.2 hf, ht⟩
      · intro hf
        exact .inl hf

theorem chosen_next {h : History} {e : Event} (hc : h.Chosen) (hn : h.NotTouched e) : (h.next e).Chosen := by
  intro choice hchoice
  cases e with
  | settings flag =>
    simp only [next, Option.map_eq_some_iff] at hchoice
    obtain ⟨-, -, rfl⟩ := hchoice
    rfl
  | boot e =>
    obtain ⟨-, hr⟩ := (respects_iff hc (.boot e)).2 hn
    simp only [next] at hchoice ⊢
    rcases ho : h.choice with _ | c
    · -- The first boot that ends with the flag makes the choice.
      rw [ho, Option.none_or] at hchoice
      split at hchoice
      · rename_i hf
        cases hchoice
        exact hf
      · cases hchoice
    · rw [ho, Option.some_or] at hchoice
      cases hchoice
      rw [boot_flag, hr choice ho]

end History

/-- In a history of boots and Settings changes, every boot selects by the flag
that Settings last left, from the first boot on that ended with it present,
exactly when no later boot finds both the marker and the flag missing and
touches the flag. -/
theorem choice_respected_iff (p : Phone) (es : List Event) :
    Runs.Along History.next History.Respects ⟨p, none⟩ es ↔ Runs.Along History.next History.NotTouched ⟨p, none⟩ es := by
  have h0 : History.Chosen ⟨p, none⟩ := by
    intro choice hchoice
    cases hchoice
  apply Runs.along_congr_of (I := History.Chosen) _ _ h0
  · intro h e hc
    exact History.respects_iff hc e
  · intro h e hc hn
    exact History.chosen_next hc hn

/-- The boot touches the flag and fails on the marker, Settings removes the flag,
and the next boot touches it again. -/
theorem choice_overridden :
    ¬ Runs.Along History.next History.Respects ⟨.new, none⟩
      [.boot { Answers.ok "S9".toList with touchMarker := false }, .settings false, .boot (.ok "S9".toList)] := by
  rintro ⟨-, -, ⟨-, h⟩, -⟩
  exact absurd (h false (by decide)) (by decide)

/-! ## The mounts of a boot -/

theorem bindAll_fst (src : Source) (ok : Target → Bool) {ts : List Target} (hnd : ts.Nodup) (m : Mounts) (t : Target) :
    (bindAll src ok ts m).1 t = if t ∈ ts.takeWhile ok then src :: m t else m t := by
  induction ts generalizing m with
  | nil => rfl
  | cons a ts ih =>
    obtain ⟨ha, hts⟩ := List.nodup_cons.1 hnd
    rw [bindAll]
    cases hok : ok a
    · simp [hok]
    · have ha' : a ∉ ts.takeWhile ok := fun hm => ha ((List.takeWhile_prefix ok).subset hm)
      rw [if_pos rfl, ih hts, List.takeWhile_cons_of_pos hok]
      by_cases hta : t = a
      · subst hta
        simp [ha']
      · simp [hta]

theorem unmount_apply (e : Answers) (m : Mounts) (t : Target) :
    unmountStockMtkIms e m t = if e.umount t then (m t).tail else m t := by
  have hfold : ∀ ts : List Target, ts.Nodup → ∀ m : Mounts,
      ts.foldl (fun m t => if e.umount t then Function.update m t (m t).tail else m) m t =
        if t ∈ ts ∧ e.umount t = true then (m t).tail else m t := by
    intro ts hnd
    induction ts with
    | nil => intro m; simp
    | cons a ts ih =>
      obtain ⟨ha, hts⟩ := List.nodup_cons.1 hnd
      intro m
      rw [List.foldl_cons, ih hts]
      by_cases hta : t = a
      · subst hta
        cases e.umount t <;> simp [ha]
      · cases e.umount a <;> simp [hta]
  rw [unmountStockMtkIms, hfold stockMtkImsTargets (by decide)]
  simp [mem_stockMtkImsTargets]

/-- The mounts after the stage mounts that were tried. -/
def tried (e : Answers) (p : Phone) : Mounts := if p.flag then (mountStockMtkIms e p.mounts).1 else p.mounts

theorem selectStock_mounts (e : Answers) (p : Phone) :
    ((mountStockMtkIms e p.mounts).2 = true ∧ (selectStock e p).stock_mtk_ims = "true".toList ∧
        (selectStock e p).mounts = (mountStockMtkIms e p.mounts).1) ∨
      ((selectStock e p).stock_mtk_ims = "false".toList ∧
        (selectStock e p).mounts = (hideStockMtkImsMountpoints e (unmountStockMtkIms e (tried e p))).1) := by
  unfold selectStock tried
  cases p.flag
  · exact .inr ⟨rfl, rfl⟩
  · rcases mountStockMtkIms e p.mounts with ⟨m, _ | _⟩
    · exact .inr ⟨rfl, rfl⟩
    · exact .inl ⟨rfl, rfl, rfl⟩

theorem mountStockMtkIms_fst {e : Answers} {m : Mounts} (h : (mountStockMtkIms e m).2 = true) (t : Target) :
    (mountStockMtkIms e m).1 t = .stage :: m t := by
  have hall := (mountStockMtkIms_snd e m).1 h
  have htake : stockMtkImsTargets.takeWhile e.stage = stockMtkImsTargets :=
    List.takeWhile_eq_self_iff.2 fun t _ => hall t
  rw [mountStockMtkIms, bindAll_fst _ _ (by decide), htake, if_pos (mem_stockMtkImsTargets t)]

theorem tried_cases {e : Answers} {p : Phone} (hp : p.mounts = fun _ => []) (t : Target) :
    tried e p t = [] ∨ tried e p t = [.stage] := by
  unfold tried
  rw [hp]
  split
  · rw [mountStockMtkIms, bindAll_fst _ _ (by decide)]
    split
    · exact .inr rfl
    · exact .inl rfl
  · exact .inl rfl

/-- The stage is on every target with `true`, and on none with `false`. -/
def OneStack (p : Phone) : Prop :=
  (p.stock_mtk_ims = "true".toList ∧ ∀ t, p.mounts t = [.stage]) ∨
    (p.stock_mtk_ims = "false".toList ∧ ∀ t, .stage ∉ p.mounts t)

/-- Where `umount` takes off what is mounted, a stage that is incomplete leaves
nothing behind. -/
theorem oneStack_selectStock {e : Answers} {p : Phone} (hp : p.mounts = fun _ => [])
    (hu : ∀ t, tried e p t ≠ [] → e.umount t = true) : OneStack (selectStock e p) := by
  rcases selectStock_mounts e p with ⟨hm, hs, hmounts⟩ | ⟨hs, hmounts⟩
  · refine .inl ⟨hs, fun t => ?_⟩
    rw [hmounts, mountStockMtkIms_fst hm, hp]
  · refine .inr ⟨hs, fun t => ?_⟩
    have hun : unmountStockMtkIms e (tried e p) t = [] := by
      rw [unmount_apply]
      rcases tried_cases (e := e) hp t with h | h
      · rw [h]
        split <;> rfl
      · rw [if_pos (hu t (by rw [h]; exact List.cons_ne_nil _ _)), h]
        rfl
    rw [hmounts, hideStockMtkImsMountpoints, bindAll_fst _ _ (by decide), hun]
    split <;> simp

theorem atSelection_mounts (e : Answers) (p : Phone) : (atSelection e p).mounts = fun _ => [] := by
  unfold atSelection initDefault
  split
  · split
    · rfl
    · split <;> rfl
  · rfl

/-! ## Reboots -/

/-- The value a boot sets `sys.phh.stock_mtk_ims` to, and whether it reboots. -/
def boots (p : Phone) : Event → Option (Value × Bool)
  | .boot e => some ((boot e p).1.stock_mtk_ims, (boot e p).2)
  | .settings _ => none

/-- The persistent properties are those of the stack. -/
def SupportFor (v : Value) (p : Phone) : Prop := Agrees { p with stock_mtk_ims := v }

theorem atSelection_support (e : Answers) (p : Phone) :
    (atSelection e p).ims_support = p.ims_support ∧ (atSelection e p).epdg_support = p.epdg_support := by
  unfold atSelection
  split
  · exact initDefault_support e p.restart
  · exact ⟨rfl, rfl⟩

theorem supportFor_congr (v : Value) {p q : Phone} (hi : p.ims_support = q.ims_support)
    (he : p.epdg_support = q.epdg_support) : SupportFor v p ↔ SupportFor v q := by
  simp only [SupportFor, Agrees, hi, he]

theorem rwSystem_support (e : Answers) (p : Phone) :
    (rwSystem e p.restart).ims_support = p.ims_support ∧ (rwSystem e p.restart).epdg_support = p.epdg_support := by
  obtain ⟨hi, he, -⟩ := selectStock_cases e (atSelection e p)
  obtain ⟨hi', he'⟩ := atSelection_support e p
  exact ⟨hi.trans hi', he.trans he'⟩

theorem rwSystem_stock (e : Answers) (p : Phone) :
    (rwSystem e p.restart).stock_mtk_ims = "true".toList ∨ (rwSystem e p.restart).stock_mtk_ims = "false".toList :=
  (selectStock_cases e (atSelection e p)).2.2.imp And.right And.right

theorem boot_reboots {e : Answers} {p : Phone} (h : (boot e p).2 = true) :
    Agrees (boot e p).1 ∧ ¬ SupportFor (boot e p).1.stock_mtk_ims p := by
  have hs := (phhOnBoot_frame e (rwSystem e p.restart)).2.2
  obtain ⟨hi, he⟩ := rwSystem_support e p
  rw [boot] at h ⊢
  rw [hs, ← supportFor_congr _ hi he]
  unfold phhOnBoot at h ⊢
  split at h
  · cases h
  · rename_i hb
    rw [if_neg hb]
    rcases imsSupport_cases (e := e) (rwSystem_stock e p) with ⟨-, hn, ha, -⟩ | ⟨-, hr⟩
    · exact ⟨ha, hn⟩
    · rw [hr] at h
      cases h

theorem boot_stays {e : Answers} {p : Phone} (h : (boot e p).2 = false) :
    (boot e p).1.ims_support = p.ims_support ∧ (boot e p).1.epdg_support = p.epdg_support := by
  rw [boot] at h ⊢
  unfold phhOnBoot at h ⊢
  split at h
  · rename_i hb
    rw [if_pos hb]
    exact rwSystem_support e p
  · rename_i hb
    rw [if_neg hb]
    rcases imsSupport_cases (e := e) (rwSystem_stock e p) with ⟨-, -, -, hr⟩ | ⟨-, hr⟩
    · rw [h] at hr
      cases hr
    · rw [hr]
      exact rwSystem_support e p

theorem settles_boots : Settling.Settles Phone.next boots SupportFor where
  settles p ev v ho := by
    cases ev with
    | boot e =>
      simp only [boots, Option.some.injEq, Prod.mk.injEq] at ho
      obtain ⟨rfl, hr⟩ := ho
      exact (boot_reboots hr).1
    | settings flag => cases ho
  needed p ev v ho := by
    cases ev with
    | boot e =>
      simp only [boots, Option.some.injEq, Prod.mk.injEq] at ho
      obtain ⟨rfl, hr⟩ := ho
      exact (boot_reboots hr).2
    | settings flag => cases ho
  stays p ev w hn hw := by
    cases ev with
    | boot e =>
      have hr : (boot e p).2 = false := by
        rw [Bool.eq_false_iff]
        intro hr
        exact hn (boot e p).1.stock_mtk_ims (by rw [boots, hr])
      obtain ⟨hi, he⟩ := boot_stays hr
      exact (supportFor_congr w hi he).2 hw
    | settings flag => exact hw

/-- `umount` of a target with a mount succeeds. -/
def UmountWorks (p : Phone) : Event → Prop
  | .boot e => ∀ t, tried e (atSelection e p) t ≠ [] → e.umount t = true
  | .settings _ => True

def BootsOneStack (p : Phone) : Event → Prop
  | .boot e => OneStack (boot e p).1
  | .settings _ => True

theorem boot_oneStack {p : Phone} {ev : Event} (hu : UmountWorks p ev) : BootsOneStack p ev := by
  cases ev with
  | boot e =>
    obtain ⟨-, hm, hs⟩ := phhOnBoot_frame e (rwSystem e p.restart)
    rw [BootsOneStack, OneStack, boot, hm, hs]
    exact oneStack_selectStock (atSelection_mounts e p) hu
  | settings flag => exact trivial

/-- In a history of boots and Settings changes in which `umount` of what is
mounted succeeds, every boot has the whole stage in place or none of it, as it
says in `sys.phh.stock_mtk_ims`, and reboots are at most one more than changes of
that property from one boot to the next. -/
theorem boots_settle (p : Phone) (es : List Event) (hu : Runs.Along Phone.next UmountWorks p es) :
    Runs.Along Phone.next BootsOneStack p es ∧
      Settling.corrections (Settling.picks Phone.next boots p es) ≤
        1 + Settling.changes (Settling.values (Settling.picks Phone.next boots p es)) :=
  ⟨hu.mono fun _ _ => boot_oneStack, Settling.corrections_le settles_boots p es⟩

/-- The first boot reboots into the stock stack and one with a failed stage mount
reboots out of it; the opt-out then finds the properties right. -/
theorem boots_settle_opt_out :
    let e := Answers.ok "S9".toList
    let es := [.boot e, .boot { e with stage := fun t => t != .mediatekRes }, .settings false, .boot e]
    Runs.Along Phone.next BootsOneStack .new es ∧
      Settling.corrections (Settling.picks Phone.next boots .new es) ≤
        1 + Settling.changes (Settling.values (Settling.picks Phone.next boots .new es)) :=
  boots_settle .new _ ⟨fun _ _ => rfl, fun _ _ => rfl, trivial, fun _ _ => rfl, trivial⟩

end PhhTreble.Boot

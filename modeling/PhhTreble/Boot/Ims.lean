import PhhTreble.Boot.Selector
/-!
# The IMS support properties of phh-on-boot.sh

The section of phh-on-boot.sh that makes the persistent properties follow
`sys.phh.stock_mtk_ims`, and what the two scripts make of one boot together.
-/

namespace PhhTreble.Boot

open Text

/-! ## phh-on-boot.sh -/

/-- `[ "$(getprop …)" = 1 ]`. -/
def IsOne (v : Value) : Prop := got v = "1".toList

instance (v : Value) : Decidable (IsOne v) := inferInstanceAs (Decidable (_ = _))

/-- The devices whose properties the script keeps. -/
def Recognized (e : Answers) : Prop :=
  e.mtkmal = true ∨ got e.model = "Dumber mini".toList ∨ got e.model = "S9".toList

instance (e : Answers) : Decidable (Recognized e) := inferInstanceAs (Decidable (_ ∨ _ ∨ _))

def Phone.setSupport (p : Phone) (v : Value) : Phone := { p with ims_support := v, epdg_support := v }

/-- The phone, and whether the script reboots it. -/
def imsSupport (e : Answers) (p : Phone) : Phone × Bool :=
  if Recognized e then
    if got p.stock_mtk_ims = "true".toList then
      if ¬ IsOne p.ims_support ∨ ¬ IsOne p.epdg_support then (p.setSupport "1".toList, true) else (p, false)
    else if IsOne p.ims_support ∨ IsOne p.epdg_support then (p.setSupport "0".toList, true)
    else (p, false)
  else (p, false)

/-- The script leaves the minimal framework of an encrypted device alone. -/
def MinFramework (e : Answers) : Prop := got e.vold_decrypt = "trigger_restart_min_framework".toList

instance (e : Answers) : Decidable (MinFramework e) := inferInstanceAs (Decidable (_ = _))

def phhOnBoot (e : Answers) (p : Phone) : Phone × Bool := if MinFramework e then (p, false) else imsSupport e p

def boot (e : Answers) (p : Phone) : Phone × Bool := phhOnBoot e (rwSystem e p.restart)

/-! ## The stack a boot selects -/

/-- The flag is there after its default, and every stage mount succeeds. -/
def Selected (e : Answers) (p : Phone) : Prop :=
  (p.flag = true ∨ (p.marker = false ∧ e.touchFlag = true)) ∧ ∀ t, e.stage t = true

theorem mem_stockMtkImsTargets (t : Target) : t ∈ stockMtkImsTargets := by cases t <;> decide

theorem bindAll_snd (src : Source) (ok : Target → Bool) (ts : List Target) (m : Mounts) :
    (bindAll src ok ts m).2 = true ↔ ∀ t ∈ ts, ok t = true := by
  induction ts generalizing m with
  | nil => simp [bindAll]
  | cons t ts ih =>
    rw [bindAll, List.forall_mem_cons]
    cases ok t
    · simp
    · simpa using ih _

theorem mountStockMtkIms_snd (e : Answers) (m : Mounts) : (mountStockMtkIms e m).2 = true ↔ ∀ t, e.stage t = true := by
  rw [mountStockMtkIms, bindAll_snd]
  exact ⟨fun h t => h t (mem_stockMtkImsTargets t), fun h t _ => h t⟩

theorem initDefault_flag (e : Answers) (p : Phone) :
    (initDefault e p).flag = true ↔ p.flag = true ∨ (p.marker = false ∧ e.touchFlag = true) := by
  unfold initDefault
  cases p.marker <;> cases hf : p.flag <;> cases e.touchFlag <;> simp [hf]

/-- The stack is the stock one with the flag and all of its mounts, and the
persistent properties stay. -/
theorem selectStock_cases (e : Answers) (p : Phone) :
    (selectStock e p).ims_support = p.ims_support ∧ (selectStock e p).epdg_support = p.epdg_support ∧
      (((p.flag = true ∧ ∀ t, e.stage t = true) ∧ (selectStock e p).stock_mtk_ims = "true".toList) ∨
        (¬ (p.flag = true ∧ ∀ t, e.stage t = true) ∧ (selectStock e p).stock_mtk_ims = "false".toList)) := by
  unfold selectStock
  rw [← mountStockMtkIms_snd e p.mounts]
  cases p.flag
  · exact ⟨rfl, rfl, .inr ⟨by simp, rfl⟩⟩
  · rcases mountStockMtkIms e p.mounts with ⟨m, _ | _⟩
    · exact ⟨rfl, rfl, .inr ⟨by simp, rfl⟩⟩
    · exact ⟨rfl, rfl, .inl ⟨by simp, rfl⟩⟩

theorem initDefault_support (e : Answers) (p : Phone) :
    (initDefault e p).ims_support = p.ims_support ∧ (initDefault e p).epdg_support = p.epdg_support := by
  unfold initDefault
  cases p.marker
  · by_cases h : p.flag = true ∨ e.touchFlag = true
    · simp [h]
    · simp [h]
  · exact ⟨rfl, rfl⟩

/-- On a supported model the selector chooses the stock stack exactly when it is
selected, and leaves the persistent properties. -/
theorem rwSystem_cases {e : Answers} (p : Phone) (hs : Supported e.model) :
    (rwSystem e p).ims_support = p.ims_support ∧ (rwSystem e p).epdg_support = p.epdg_support ∧
      ((Selected e p ∧ (rwSystem e p).stock_mtk_ims = "true".toList) ∨
        (¬ Selected e p ∧ (rwSystem e p).stock_mtk_ims = "false".toList)) := by
  obtain ⟨hi, hg⟩ := initDefault_support e p
  have h := selectStock_cases e (initDefault e p)
  rw [initDefault_flag, hi, hg] at h
  rw [rwSystem, if_pos hs]
  exact h

/-! ## Agreement -/

/-- Both properties are 1 with the stock stack, and neither is without it. -/
def Agrees (p : Phone) : Prop :=
  (p.stock_mtk_ims = "true".toList → IsOne p.ims_support ∧ IsOne p.epdg_support) ∧
    (p.stock_mtk_ims = "false".toList → ¬ IsOne p.ims_support ∧ ¬ IsOne p.epdg_support)

instance (p : Phone) : Decidable (Agrees p) := inferInstanceAs (Decidable ((_ → _) ∧ (_ → _)))

/-- The properties were right before the boot. -/
def AgreedBefore (e : Answers) (p : Phone) : Prop :=
  (Selected e p → IsOne p.ims_support ∧ IsOne p.epdg_support) ∧
    (¬ Selected e p → ¬ IsOne p.ims_support ∧ ¬ IsOne p.epdg_support)

theorem isOne_one : IsOne "1".toList := by decide

theorem not_isOne_zero : ¬ IsOne "0".toList := by decide

theorem true_ne_false : "true".toList ≠ "false".toList := by decide

theorem agrees_true {p : Phone} (h : p.stock_mtk_ims = "true".toList) :
    Agrees p ↔ IsOne p.ims_support ∧ IsOne p.epdg_support := by
  rw [Agrees, h]
  exact ⟨fun ha => ha.1 rfl, fun ha => ⟨fun _ => ha, fun hf => absurd hf true_ne_false⟩⟩

theorem agrees_false {p : Phone} (h : p.stock_mtk_ims = "false".toList) :
    Agrees p ↔ ¬ IsOne p.ims_support ∧ ¬ IsOne p.epdg_support := by
  rw [Agrees, h]
  exact ⟨fun ha => ha.2 rfl, fun ha => ⟨fun ht => absurd ht.symm true_ne_false, fun _ => ha⟩⟩

/-- A branch that is taken out of disagreement alone, and into agreement. -/
theorem branch_cases {C : Prop} [Decidable C] {p set : Phone} (hiff : C ↔ ¬ Agrees p) (hset : Agrees set) :
    (¬ Agrees p ∧ Agrees (if C then (set, true) else (p, false)).1 ∧ (if C then (set, true) else (p, false)).2 = true) ∨
      (Agrees p ∧ (if C then (set, true) else (p, false)) = (p, false)) := by
  by_cases ha : Agrees p
  · rw [if_neg fun h => hiff.1 h ha]
    exact .inr ⟨ha, rfl⟩
  · rw [if_pos (hiff.2 ha)]
    exact .inl ⟨ha, hset, rfl⟩

/-- The script reboots a recognized device out of disagreement and into agreement,
and leaves any other phone as it is. -/
theorem imsSupport_cases {e : Answers} {p : Phone}
    (hp : p.stock_mtk_ims = "true".toList ∨ p.stock_mtk_ims = "false".toList) :
    (Recognized e ∧ ¬ Agrees p ∧ Agrees (imsSupport e p).1 ∧ (imsSupport e p).2 = true) ∨
      ((Recognized e → Agrees p) ∧ imsSupport e p = (p, false)) := by
  unfold imsSupport
  by_cases hr : Recognized e
  · rw [if_pos hr]
    simp only [hr, true_and, true_imp_iff]
    rcases hp with hp | hp
    · rw [if_pos (by rw [hp]; decide)]
      apply branch_cases
      · rw [agrees_true hp, not_and_or]
      · exact (agrees_true (p := p.setSupport _) hp).2 ⟨isOne_one, isOne_one⟩
    · rw [if_neg (by rw [hp]; decide)]
      apply branch_cases
      · rw [agrees_false hp, ← not_or, not_not]
      · exact (agrees_false (p := p.setSupport _) hp).2 ⟨not_isOne_zero, not_isOne_zero⟩
  · rw [if_neg hr]
    exact .inr ⟨fun h => absurd h hr, rfl⟩

/-- A recognized device comes out in agreement with the stack it has. -/
theorem imsSupport_agrees {e : Answers} {p : Phone} (hr : Recognized e)
    (hp : p.stock_mtk_ims = "true".toList ∨ p.stock_mtk_ims = "false".toList) : Agrees (imsSupport e p).1 := by
  rcases imsSupport_cases (e := e) hp with ⟨-, -, ha, -⟩ | ⟨ha, h⟩
  · exact ha
  · rw [h]
    exact ha hr

/-- After the selector alone, agreement is what it was before the boot. -/
theorem rwSystem_agrees_iff {e : Answers} {p : Phone} (hs : Supported e.model) :
    Agrees (rwSystem e p.restart) ↔ AgreedBefore e p := by
  obtain ⟨hi, hg, ⟨hsel, ht⟩ | ⟨hsel, hf⟩⟩ := rwSystem_cases p.restart hs
  · rw [agrees_true ht, hi, hg]
    exact ⟨fun h => ⟨fun _ => h, fun hn => absurd hsel hn⟩, fun h => h.1 hsel⟩
  · rw [agrees_false hf, hi, hg]
    exact ⟨fun h => ⟨fun hy => absurd hy hsel, fun _ => h⟩, fun h => h.2 hsel⟩

/-- After both scripts have run on a supported model, the properties agree with
the selected stack exactly when phh-on-boot.sh gets to them and recognizes the
device too, or they did so before. -/
theorem boot_agrees_iff (e : Answers) (p : Phone) (hs : Supported e.model) :
    Agrees (boot e p).1 ↔ (¬ MinFramework e ∧ Recognized e) ∨ AgreedBefore e p := by
  rw [boot, phhOnBoot]
  split
  · -- phh-on-boot.sh leaves early, so the selector's stack meets the old properties.
    rename_i hb
    rw [rwSystem_agrees_iff hs, or_iff_right fun h => h.1 hb]
  · rename_i hb
    by_cases hr : Recognized e
    · have ht := (rwSystem_cases p.restart hs).2.2
      exact iff_of_true (imsSupport_agrees hr (ht.imp And.right And.right)) (.inl ⟨hb, hr⟩)
    · rw [imsSupport, if_neg hr, rwSystem_agrees_iff hs, or_iff_right fun h => hr h.2]

/-- A boot without `/vendor/bin/mtkmal` on which nothing fails. -/
def Answers.ok (model : Value) : Answers :=
  ⟨model, false, [], true, true, fun _ => true, fun _ => true, fun _ => true⟩

/-- A phone that has not booted, with the TrebleApp stack's properties. -/
def Phone.new : Phone := ⟨false, false, "0".toList, "0".toList, [], fun _ => []⟩

theorem boot_agrees_named : Agrees (boot (.ok "Dumber mini".toList) .new).1 :=
  (boot_agrees_iff (.ok "Dumber mini".toList) .new (by decide)).2 (.inl ⟨by decide, by decide⟩)

/-- The selector reads the name through its blanks and case and selects the
stock stack; phh-on-boot.sh does not know it. -/
theorem boot_disagrees_spelling :
    Supported " DUMBER MINI ".toList ∧ ¬ Agrees (boot (.ok " DUMBER MINI ".toList) .new).1 := by
  refine ⟨by decide, by decide⟩

end PhhTreble.Boot

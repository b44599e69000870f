import Mathlib.Data.List.Perm.Subperm
import Mathlib.Data.List.Nodup
import Mathlib.Logic.Function.Basic
import PhhTreble.Audio.Observers
/-!
# The cookies of all sessions

`RegisterStatusCback` and `UnregisterStatusCback` in 16-bit arithmetic, over the
sessions of all types. The numbers of the session types are the interface's:
they fit in 8 bits and tell the types apart.
-/

namespace PhhTreble.Audio

/-- The enumerators of `SessionType` as numbers. -/
structure SessionNumbers where
  value : SessionType → BitVec 8
  distinct : Function.Injective value

/-- A session type other than UNKNOWN. -/
abbrev KnownSession := { t : SessionType // t ≠ .unknown }

namespace Cookies

variable {C : Type} (N : SessionNumbers)

/-! ## The code -/

def kObserversCookieSize : BitVec 16 := 0x0010#16

def kObserversCookieUndefined : BitVec 16 := (N.value .unknown).setWidth 16 <<< 8 &&& 0xff00#16

/-- The number of the session type the cookie is cast to. -/
def observersCookieGetSessionType (cookie : BitVec 16) : BitVec 8 := (cookie >>> 8 &&& 0x00ff#16).setWidth 8

def observersCookieGetInitValue (session_type : SessionType) : BitVec 16 :=
  (N.value session_type).setWidth 16 <<< 8 &&& 0xff00#16

def observersCookieGetUpperBound (session_type : SessionType) : BitVec 16 :=
  ((N.value session_type).setWidth 16 <<< 8 &&& 0xff00#16) + kObserversCookieSize

/-- The loop of `RegisterStatusCback`. -/
def firstFree (observers_ : List (BitVec 16 × C)) (cookie cookie_upper_bound : BitVec 16) : BitVec 16 :=
  if cookie < cookie_upper_bound then
    if observers_.any (·.1 == cookie) then firstFree observers_ (cookie + 1) cookie_upper_bound else cookie
  else cookie
termination_by cookie_upper_bound.toNat - cookie.toNat
decreasing_by
  have hlt : cookie.toNat < cookie_upper_bound.toNat := by assumption
  have := cookie_upper_bound.isLt
  rw [BitVec.toNat_add]
  simp only [BitVec.ofNat_eq_ofNat, BitVec.toNat_ofNat]
  omega

/-- With the map of observers after it. -/
def registerStatusCback (session_type : SessionType) (observers_ : List (BitVec 16 × C)) (callbacks : C) :
    BitVec 16 × List (BitVec 16 × C) :=
  let cookie_upper_bound := observersCookieGetUpperBound N session_type
  let cookie := firstFree observers_ (observersCookieGetInitValue N session_type) cookie_upper_bound
  if cookie_upper_bound ≤ cookie then (kObserversCookieUndefined N, observers_)
  else (cookie, (cookie, callbacks) :: observers_)

def unregisterStatusCback (observers_ : List (BitVec 16 × C)) (cookie : BitVec 16) : List (BitVec 16 × C) :=
  observers_.filter (·.1 ≠ cookie)

/-- The observers of every session. -/
abbrev Registries (C : Type) := KnownSession → List (BitVec 16 × C)

inductive Event (C : Type) where
  | register (t : KnownSession) (callbacks : C)
  | unregister (t : KnownSession) (cookie : BitVec 16)

def Registries.next (w : Registries C) : Event C → Registries C
  | .register t callbacks => Function.update w t (registerStatusCback N t (w t) callbacks).2
  | .unregister t cookie => Function.update w t (unregisterStatusCback (w t) cookie)

/-! ## The arithmetic of a cookie -/

variable {N}

theorem toNat_init (t : SessionType) : (observersCookieGetInitValue N t).toNat = (N.value t).toNat * 256 := by
  -- The mask keeps what the shift leaves.
  have hmask : (N.value t).setWidth 16 <<< 8 &&& 0xff00#16 = (N.value t).setWidth 16 <<< 8 := by
    have hbits : ∀ i : Fin 16, (0xff00#16)[i] = decide (8 ≤ i.val) := by decide
    ext i hi
    have hb := hbits ⟨i, hi⟩
    simp only [Fin.getElem_fin] at hb
    simp only [BitVec.getElem_and, BitVec.getElem_shiftLeft, hb]
    by_cases h : i < 8
    · simp [h]
    · simp [h, Nat.le_of_not_lt h]
  have hv := (N.value t).isLt
  rw [observersCookieGetInitValue, hmask]
  simp only [BitVec.toNat_shiftLeft, BitVec.toNat_setWidth, Nat.shiftLeft_eq]
  omega

theorem toNat_upper (t : SessionType) :
    (observersCookieGetUpperBound N t).toNat = (N.value t).toNat * 256 + 16 := by
  have hi := toNat_init (N := N) t
  have hv := (N.value t).isLt
  rw [observersCookieGetInitValue] at hi
  rw [observersCookieGetUpperBound, BitVec.toNat_add, hi, kObserversCookieSize, BitVec.toNat_ofNat]
  omega

/-- The cookie is one of the 16 of the session type. -/
def Issued (N : SessionNumbers) (t : SessionType) (cookie : BitVec 16) : Prop :=
  (N.value t).toNat * 256 ≤ cookie.toNat ∧ cookie.toNat < (N.value t).toNat * 256 + 16

theorem sessionType_of_issued {t : SessionType} {cookie : BitVec 16} (h : Issued N t cookie) :
    observersCookieGetSessionType cookie = N.value t := by
  have hv := (N.value t).isLt
  obtain ⟨hl, hu⟩ := h
  apply BitVec.eq_of_toNat_eq
  have hmask : (255 : Nat) = 2 ^ 8 - 1 := rfl
  simp only [observersCookieGetSessionType, BitVec.toNat_setWidth, BitVec.toNat_and, BitVec.toNat_ushiftRight,
    BitVec.toNat_ofNat, Nat.shiftRight_eq_div_pow]
  rw [show 255 % 2 ^ 16 = 2 ^ 8 - 1 from rfl, Nat.and_two_pow_sub_one_eq_mod]
  omega

/-- A cookie belongs to one session type. -/
theorem Issued.unique {t t' : SessionType} {cookie : BitVec 16} (h : Issued N t cookie) (h' : Issued N t' cookie) :
    t = t' := by
  apply N.distinct
  rw [← sessionType_of_issued h, ← sessionType_of_issued h']

theorem Issued.ne_undefined {t : SessionType} (ht : t ≠ .unknown) {cookie : BitVec 16} (h : Issued N t cookie) :
    cookie ≠ kObserversCookieUndefined N := by
  rintro rfl
  have hu : Issued N .unknown (kObserversCookieUndefined N) := by
    have hi := toNat_init (N := N) .unknown
    rw [observersCookieGetInitValue] at hi
    rw [Issued, kObserversCookieUndefined, hi]
    omega
  exact ht (h.unique hu)

/-! ## The loop -/

/-- The loop stops at the bound or at a cookie no observer has, past cookies
that all are in use. -/
theorem firstFree_spec (observers_ : List (BitVec 16 × C)) (cookie upper : BitVec 16) :
    cookie ≤ firstFree observers_ cookie upper ∧
      (firstFree observers_ cookie upper < upper → firstFree observers_ cookie upper ∉ observers_.map (·.1)) ∧
      ∀ c, cookie ≤ c → c < firstFree observers_ cookie upper → c ∈ observers_.map (·.1) := by
  fun_induction firstFree observers_ cookie upper with
  | case1 cookie hlt hin ih =>
    simp only [List.any_eq_true, beq_iff_eq] at hin
    obtain ⟨o, ho, rfl⟩ := hin
    have hu := upper.isLt
    have hsucc : (o.1 + 1).toNat = o.1.toNat + 1 := by
      rw [BitVec.lt_def] at hlt
      rw [BitVec.toNat_add]
      simp only [BitVec.ofNat_eq_ofNat, BitVec.toNat_ofNat]
      omega
    obtain ⟨hl, hfree, hall⟩ := ih
    rw [BitVec.le_def, hsucc] at hl
    refine ⟨by rw [BitVec.le_def]; omega, hfree, ?_⟩
    intro c hc hcr
    by_cases he : c = o.1
    · subst he
      exact List.mem_map_of_mem ho
    · apply hall c ?_ hcr
      rw [BitVec.le_def, hsucc]
      rw [BitVec.le_def] at hc
      have hne : o.1.toNat ≠ c.toNat := fun h => he (BitVec.eq_of_toNat_eq h.symm)
      omega
  | case2 cookie hlt hin =>
    refine ⟨BitVec.le_refl _, fun _ => ?_, ?_⟩
    · intro hm
      obtain ⟨o, ho, rfl⟩ := List.mem_map.1 hm
      exact hin (List.any_eq_true.2 ⟨o, ho, beq_self_eq_true _⟩)
    · intro c hc hcr
      exact absurd hcr (BitVec.not_lt.2 hc)
  | case3 cookie hge =>
    refine ⟨BitVec.le_refl _, fun hlt => absurd hlt hge, ?_⟩
    intro c hc hcr
    exact absurd hcr (BitVec.not_lt.2 hc)

/-- What is kept of the observers of one session. -/
structure Kept (N : SessionNumbers) (t : SessionType) (observers_ : List (BitVec 16 × C)) : Prop where
  nodup : (observers_.map (·.1)).Nodup
  issued : ∀ cookie ∈ observers_.map (·.1), Issued N t cookie

/-- Distinct cookies of one session are at most 16. -/
theorem Kept.length_le {t : SessionType} {observers_ : List (BitVec 16 × C)} (h : Kept N t observers_) :
    observers_.length ≤ 16 := by
  have hn : ((observers_.map (·.1)).map BitVec.toNat).Nodup := 
    List.Nodup.map (fun _ _ => BitVec.eq_of_toNat_eq) h.nodup
  have hs : ((observers_.map (·.1)).map BitVec.toNat) ⊆ List.range' ((N.value t).toNat * 256) 16 := by
    intro n hn
    obtain ⟨c, hc, rfl⟩ := List.mem_map.1 hn
    rw [List.mem_range'_1]
    exact h.issued c hc
  simpa using (hn.subperm hs).length_le

/-- Sixteen cookies in use are sixteen observers. -/
theorem Kept.length_eq {t : SessionType} {observers_ : List (BitVec 16 × C)} (h : Kept N t observers_)
    (hall : ∀ c, Issued N t c → c ∈ observers_.map (·.1)) : observers_.length = 16 := by
  have hv := (N.value t).isLt
  have hs : List.range' ((N.value t).toNat * 256) 16 ⊆ (observers_.map (·.1)).map BitVec.toNat := by
    intro n hn
    rw [List.mem_range'_1] at hn
    have hlt : (BitVec.ofNat 16 n).toNat = n := by
      rw [BitVec.toNat_ofNat]
      omega
    refine List.mem_map.2 ⟨BitVec.ofNat 16 n, hall _ ?_, hlt⟩
    rw [Issued, hlt]
    exact hn
  have hge := (List.Nodup.subperm List.nodup_range' hs).length_le
  simp only [List.length_range', List.length_map] at hge
  exact Nat.le_antisymm h.length_le hge

/-- A registration finds a cookie of the session that no observer has, or it
changes nothing and all are in use. -/
theorem registerStatusCback_cases {t : SessionType} {observers_ : List (BitVec 16 × C)} (h : Kept N t observers_)
    (callbacks : C) :
    (observers_.length = 16 ∧
      registerStatusCback N t observers_ callbacks = (kObserversCookieUndefined N, observers_)) ∨
    ∃ cookie, Issued N t cookie ∧ cookie ∉ observers_.map (·.1) ∧
      registerStatusCback N t observers_ callbacks = (cookie, (cookie, callbacks) :: observers_) := by
  have hi := toNat_init (N := N) t
  have hu := toNat_upper (N := N) t
  obtain ⟨hl, hfree, hall⟩ := firstFree_spec observers_ (observersCookieGetInitValue N t)
    (observersCookieGetUpperBound N t)
  simp only [registerStatusCback]
  generalize firstFree observers_ (observersCookieGetInitValue N t) (observersCookieGetUpperBound N t) = r at *
  by_cases hge : observersCookieGetUpperBound N t ≤ r
  · refine .inl ⟨h.length_eq fun c hc => hall c ?_ ?_, if_pos hge⟩
    · rw [BitVec.le_def, hi]
      exact hc.1
    · rw [BitVec.lt_def]
      rw [BitVec.le_def, hu] at hge
      exact Nat.lt_of_lt_of_le hc.2 hge
  · refine .inr ⟨r, ⟨?_, ?_⟩, hfree (BitVec.not_le.1 hge), if_neg hge⟩
    · rw [← hi]
      exact hl
    · rw [← hu]
      exact BitVec.not_le.1 hge

theorem kept_register {t : SessionType} {observers_ : List (BitVec 16 × C)} (h : Kept N t observers_) (callbacks : C) :
    Kept N t (registerStatusCback N t observers_ callbacks).2 := by
  rcases registerStatusCback_cases h callbacks with ⟨-, hr⟩ | ⟨cookie, hi, hn, hr⟩
  · rwa [hr]
  · rw [hr]
    refine ⟨List.nodup_cons.2 ⟨hn, h.nodup⟩, ?_⟩
    intro c hc
    rcases List.mem_cons.1 hc with rfl | hc
    · exact hi
    · exact h.issued c hc

theorem kept_unregister {t : SessionType} {observers_ : List (BitVec 16 × C)} (h : Kept N t observers_)
    (cookie : BitVec 16) : Kept N t (unregisterStatusCback observers_ cookie) := by
  have hsub : ((unregisterStatusCback observers_ cookie).map (·.1)).Sublist (observers_.map (·.1)) :=
    List.filter_sublist.map _
  exact ⟨h.nodup.sublist hsub, fun c hc => h.issued c (hsub.subset hc)⟩

/-! ## The session's map of observers -/

/-- The cookie that the session's map has for a 16-bit one of its type. -/
def numbered (N : SessionNumbers) (t : SessionType) (cookie : BitVec 16) : Nat :=
  if cookie = kObserversCookieUndefined N then Audio.kObserversCookieUndefined
  else Audio.observersCookieGetInitValue t + (cookie.toNat - (N.value t).toNat * 256)

/-- The observers of a session with the cookies of its map. -/
def forget (N : SessionNumbers) (t : SessionType) (observers_ : List (BitVec 16 × C)) : List (Nat × C) :=
  observers_.map fun o => (numbered N t o.1, o.2)

theorem toNat_undefined : (kObserversCookieUndefined N).toNat = (N.value .unknown).toNat * 256 := toNat_init .unknown

theorem numbered_of_issued {t : SessionType} {cookie : BitVec 16} (h : Issued N t cookie) :
    numbered N t cookie = Audio.observersCookieGetInitValue t + (cookie.toNat - (N.value t).toNat * 256) := by
  rw [numbered]
  split
  · rename_i hundefined
    have hu : Issued N .unknown cookie := by
      rw [hundefined, Issued, toNat_undefined]
      omega
    obtain rfl := h.unique hu
    rw [hundefined, toNat_undefined, Nat.sub_self]
    rfl
  · rfl

/-- The cookies of the map are those of the type, in order. -/
theorem exists_issued (N : SessionNumbers) {t : SessionType} {n : Nat}
    (h : n ∈ List.range' (Audio.observersCookieGetInitValue t) 16) :
    ∃ cookie, Issued N t cookie ∧ numbered N t cookie = n ∧
      cookie.toNat = (N.value t).toNat * 256 + (n - Audio.observersCookieGetInitValue t) := by
  rw [List.mem_range'_1] at h
  have hv := (N.value t).isLt
  have hlt : (BitVec.ofNat 16 ((N.value t).toNat * 256 + (n - Audio.observersCookieGetInitValue t))).toNat =
      (N.value t).toNat * 256 + (n - Audio.observersCookieGetInitValue t) := by
    rw [BitVec.toNat_ofNat]
    omega
  have hissued : Issued N t (BitVec.ofNat 16 ((N.value t).toNat * 256 + (n - Audio.observersCookieGetInitValue t))) := by
    rw [Issued, hlt]
    omega
  refine ⟨_, hissued, ?_, hlt⟩
  rw [numbered_of_issued hissued, hlt]
  omega

theorem any_forget {t : SessionType} {observers_ : List (BitVec 16 × C)} (h : Kept N t observers_) {cookie : BitVec 16}
    (hc : Issued N t cookie) :
    (forget N t observers_).any (·.1 == numbered N t cookie) = true ↔ cookie ∈ observers_.map (·.1) := by
  simp only [forget, List.any_map, List.any_eq_true, Function.comp, beq_iff_eq, List.mem_map]
  refine exists_congr fun o => and_congr_right fun ho => ?_
  have hi := h.issued o.1 (List.mem_map_of_mem ho)
  rw [numbered_of_issued hi, numbered_of_issued hc]
  constructor
  · intro heq
    apply BitVec.eq_of_toNat_eq
    have hl := hi.1
    have hl' := hc.1
    omega
  · intro heq
    rw [heq]

/-- Whatever the numbers of the session types are, `Session.registerStatusCback`
gives out the cookies of the 16-bit loop, each under its number in the map. -/
theorem addObserver_eq {t : SessionType} {observers_ : List (BitVec 16 × C)} (h : Kept N t observers_)
    (callbacks : C) :
    addObserver t (forget N t observers_) callbacks =
      (numbered N t (registerStatusCback N t observers_ callbacks).1,
        forget N t (registerStatusCback N t observers_ callbacks).2) := by
  obtain ⟨hl, hfree, hall⟩ := firstFree_spec observers_ (observersCookieGetInitValue N t)
    (observersCookieGetUpperBound N t)
  have hi := toNat_init (N := N) t
  have hu := toNat_upper (N := N) t
  simp only [registerStatusCback]
  generalize firstFree observers_ (observersCookieGetInitValue N t) (observersCookieGetUpperBound N t) = r at *
  rw [BitVec.le_def, hi] at hl
  by_cases hge : observersCookieGetUpperBound N t ≤ r
  · have hnone : freeCookie t (forget N t observers_) = none := by
      rw [freeCookie, List.find?_eq_none]
      intro n hn
      obtain ⟨cookie, hissued, rfl, -⟩ := exists_issued N hn
      rw [BitVec.le_def, hu] at hge
      have hm := hall cookie (by rw [BitVec.le_def, hi]; exact hissued.1)
        (by rw [BitVec.lt_def]; exact Nat.lt_of_lt_of_le hissued.2 hge)
      simp [(any_forget h hissued).2 hm]
    rw [if_pos hge, addObserver, hnone, numbered, if_pos rfl]
  · have hr : Issued N t r := ⟨hl, by rw [← hu]; exact BitVec.not_le.1 hge⟩
    have hsome : freeCookie t (forget N t observers_) = some (numbered N t r) := by
      rw [freeCookie, List.find?_range'_eq_some]
      refine ⟨?_, List.mem_range'_1.2 ?_, ?_⟩
      · have hn := hfree (BitVec.not_le.1 hge)
        rw [← any_forget h hr, Bool.not_eq_true] at hn
        rw [hn, Bool.not_false]
      · have hbound := hr.2
        rw [numbered_of_issued hr, Audio.kObserversCookieSize]
        omega
      · intro n hn hnr
        rw [numbered_of_issued hr] at hnr
        have hbound := hr.2
        obtain ⟨cookie, hissued, rfl, hcookie⟩ := exists_issued N (List.mem_range'_1.2 ⟨hn, by omega⟩)
        have hm := hall cookie (by rw [BitVec.le_def, hi]; exact hissued.1) (by rw [BitVec.lt_def]; omega)
        rw [(any_forget h hissued).2 hm, Bool.not_true, Bool.not_false]
    rw [if_neg hge, addObserver, hsome]
    rfl

/-! ## Runs over all sessions -/

/-- The live cookies of all sessions. -/
structure Sound (N : SessionNumbers) (w : Registries C) : Prop where
  /-- No two observers of a session have one cookie. -/
  nodup : ∀ t, ((w t).map (·.1)).Nodup
  /-- No cookie is live in two sessions. -/
  apart : ∀ t t' cookie, cookie ∈ (w t).map (·.1) → cookie ∈ (w t').map (·.1) → t = t'
  defined : ∀ t, ∀ cookie ∈ (w t).map (·.1), cookie ≠ kObserversCookieUndefined N
  back : ∀ t, ∀ cookie ∈ (w t).map (·.1), observersCookieGetSessionType cookie = N.value t
  bounded : ∀ t, (w t).length ≤ 16

/-- What a step does to the live observers. -/
def Exact (N : SessionNumbers) (w : Registries C) (e : Event C) : Prop :=
  match e with
  | .register t callbacks =>
    let cookie := (registerStatusCback N t (w t) callbacks).1
    if cookie = kObserversCookieUndefined N then (w t).length = 16 ∧ w.next N e = w
    else (∀ t', cookie ∉ (w t').map (·.1)) ∧
      ∀ t' o, o ∈ w.next N e t' ↔ o ∈ w t' ∨ t' = t ∧ o = (cookie, callbacks)
  | .unregister t cookie => ∀ t' o, o ∈ w.next N e t' ↔ o ∈ w t' ∧ ¬ (t' = t ∧ o.1 = cookie)

def KeptAll (N : SessionNumbers) (w : Registries C) : Prop := ∀ t : KnownSession, Kept N t (w t)

theorem KeptAll.next {w : Registries C} (h : KeptAll N w) (e : Event C) : KeptAll N (w.next N e) := by
  intro t'
  cases e with
  | register t callbacks =>
    by_cases ht : t' = t
    · subst ht
      simp only [Registries.next, Function.update_self]
      exact kept_register (h _) callbacks
    · simp only [Registries.next, Function.update_of_ne ht]
      exact h t'
  | unregister t cookie =>
    by_cases ht : t' = t
    · subst ht
      simp only [Registries.next, Function.update_self]
      exact kept_unregister (h _) cookie
    · simp only [Registries.next, Function.update_of_ne ht]
      exact h t'

theorem KeptAll.sound {w : Registries C} (h : KeptAll N w) : Sound N w where
  nodup t := (h t).nodup
  apart t t' cookie hc hc' := Subtype.ext (((h t).issued cookie hc).unique ((h t').issued cookie hc'))
  defined t cookie hc := ((h t).issued cookie hc).ne_undefined t.2
  back t cookie hc := sessionType_of_issued ((h t).issued cookie hc)
  bounded t := (h t).length_le

theorem KeptAll.exact {w : Registries C} (h : KeptAll N w) (e : Event C) : Exact N w e := by
  cases e with
  | register t callbacks =>
    simp only [Exact]
    rcases registerStatusCback_cases (h t) callbacks with ⟨hlen, hr⟩ | ⟨cookie, hi, hn, hr⟩
    · rw [if_pos (by rw [hr])]
      refine ⟨hlen, ?_⟩
      simp only [Registries.next, hr]
      exact Function.update_eq_self t w
    · rw [if_neg (by rw [hr]; exact hi.ne_undefined t.2)]
      simp only [Registries.next, hr]
      constructor
      · intro t' hc
        obtain rfl : t' = t := Subtype.ext (((h t').issued cookie hc).unique hi)
        exact hn hc
      · intro t' o
        by_cases ht : t' = t
        · subst ht
          simp [or_comm]
        · simp [ht]
  | unregister t cookie =>
    intro t' o
    by_cases ht : t' = t
    · subst ht
      simp [Registries.next, unregisterStatusCback]
    · simp [Registries.next, ht]

/-- In every run the live cookies are sound, a registration fails only with 16
observers and changes nothing, and a step adds or removes one observer. -/
theorem cookies_run (N : SessionNumbers) (es : List (Event C)) :
    Runs.Always (Registries.next N) (Sound N) (fun _ => []) es ∧
      Runs.Along (Registries.next N) (Exact N) (fun _ => []) es := by
  have h0 : KeptAll N (fun _ => [] : Registries C) := fun _ => ⟨List.nodup_nil, by simp⟩
  constructor
  · apply Runs.always_of_inv (J := KeptAll N) _ _ h0
    · exact fun w e h => h.next e
    · exact fun w h => h.sound
  · apply Runs.along_of_inv (J := KeptAll N) _ _ h0
    · exact fun w e h => h.next e
    · exact fun w e h => h.exact e

end Cookies

end PhhTreble.Audio

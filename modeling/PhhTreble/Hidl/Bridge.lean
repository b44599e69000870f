import PhhTreble.Audio.Observers
import PhhTreble.Audio.Port
/-!
# HIDL observers of the AIDL sessions

`HidlToAidlMiddleware_2_0` registers a HIDL observer with the AIDL session of
its type and keeps its callbacks in `legacy_callback_table`, where the lambdas it
gave the session look them up.
-/

namespace PhhTreble.Hidl

open Audio (freeCookie addObserver eraseObserver kObserversCookieUndefined observersCookieGetInitValue
  kObserversCookieSize BluetoothAudioStatus HidlStatus toHidlStatus)

/-! ## The data model -/

/-- The session types of HIDL 2.1; a type of 2.0 is cast to one of them. -/
inductive SessionType where
  | unknown
  | a2dpSoftwareEncodingDatapath | a2dpHardwareOffloadDatapath
  | hearingAidSoftwareEncodingDatapath
  | leAudioSoftwareEncodingDatapath | leAudioSoftwareDecodedDatapath
  | leAudioHardwareOffloadEncodingDatapath | leAudioHardwareOffloadDecodingDatapath
deriving DecidableEq, Repr

/-- `from_session_type_2_1`, over `session_type_2_1_to_aidl_map`. -/
def SessionType.toAidl : SessionType → Audio.SessionType
  | a2dpSoftwareEncodingDatapath => .a2dpSoftwareEncodingDatapath
  | a2dpHardwareOffloadDatapath => .a2dpHardwareOffloadEncodingDatapath
  | hearingAidSoftwareEncodingDatapath => .hearingAidSoftwareEncodingDatapath
  | leAudioSoftwareEncodingDatapath => .leAudioSoftwareEncodingDatapath
  | leAudioSoftwareDecodedDatapath => .leAudioSoftwareDecodingDatapath
  | leAudioHardwareOffloadEncodingDatapath => .leAudioHardwareOffloadEncodingDatapath
  | leAudioHardwareOffloadDecodingDatapath => .leAudioHardwareOffloadDecodingDatapath
  | unknown => .unknown

/-- A function of a HIDL observer. -/
abbrev Function := Nat

/-- `PortStatusCallbacks` of HIDL; a `std::function` may be empty. -/
structure PortStatusCallbacks where
  control_result_cb_ : Option Function
  session_changed_cb_ : Option Function
deriving DecidableEq, Repr

/-- The two members of the AIDL `PortStatusCallbacks` that the bridge sets, with
whether they hold its lambda. -/
structure AidlCallbacks where
  control_result_cb_ : Bool
  session_changed_cb_ : Bool
deriving DecidableEq, Repr

/-- A call of a function of a HIDL observer. -/
inductive Call where
  | controlResult (f : Function) (cookie : Nat) (start_resp : Bool) (status : HidlStatus)
  | sessionChanged (f : Function) (cookie : Nat)
deriving DecidableEq, Repr

structure Bridge where
  /-- `observers_` of the AIDL sessions. -/
  observers_ : Audio.SessionType → List (Nat × AidlCallbacks)
  legacy_callback_table : Audio.SessionType → List (Nat × PortStatusCallbacks)
  /-- The HIDL observers that are registered with the AIDL sessions, with what
  they supplied. -/
  live : Audio.SessionType → List (Nat × PortStatusCallbacks)

/-- Nothing is registered yet. -/
def Bridge.init : Bridge := ⟨fun _ => [], fun _ => [], fun _ => []⟩

/-! ## The steps -/

def PortStatusCallbacks.toAidl (cbacks : PortStatusCallbacks) : AidlCallbacks :=
  ⟨cbacks.control_result_cb_.isSome, cbacks.session_changed_cb_.isSome⟩

/-- `table[cookie] = cbacks`. -/
def assign (table : List (Nat × PortStatusCallbacks)) (cookie : Nat) (cbacks : PortStatusCallbacks) :
    List (Nat × PortStatusCallbacks) := (cookie, cbacks) :: eraseObserver table cookie

namespace Bridge

/-- With the cookie it returns. -/
def registerControlResultCback (b : Bridge) (session_type : SessionType) (cbacks : PortStatusCallbacks) : Nat × Bridge :=
  let t := session_type.toAidl
  let (cookie, observers_) := addObserver t (b.observers_ t) cbacks.toAidl
  let live := if (freeCookie t (b.observers_ t)).isSome then (cookie, cbacks) :: b.live t else b.live t
  (cookie, ⟨Function.update b.observers_ t observers_,
    -- Also with a cookie that is `kObserversCookieUndefined`.
    Function.update b.legacy_callback_table t (assign (b.legacy_callback_table t) cookie cbacks),
    Function.update b.live t live⟩)

def unregisterControlResultCback (b : Bridge) (session_type : SessionType) (cookie : Nat) : Bridge :=
  let t := session_type.toAidl
  ⟨Function.update b.observers_ t (eraseObserver (b.observers_ t) cookie),
    Function.update b.legacy_callback_table t (eraseObserver (b.legacy_callback_table t) cookie),
    Function.update b.live t (eraseObserver (b.live t) cookie)⟩

/-- The loop of a report over the observers: `given` is the member it calls,
`target` the one that the lambda calls. `none` when an empty function is called. -/
def deliver (given : AidlCallbacks → Bool) (target : PortStatusCallbacks → Option Function)
    (call : Function → Nat → Call) (table : List (Nat × PortStatusCallbacks)) :
    List (Nat × AidlCallbacks) → Option (List Call)
  | [] => some []
  | (cookie, callback) :: observers_ =>
    if !given callback then none
    else match table.lookup cookie with
      | none => deliver given target call table observers_
      | some cback => do
        let f ← target cback
        let calls ← deliver given target call table observers_
        return call f cookie :: calls

def reportSessionStatus (b : Bridge) (t : Audio.SessionType) : Option (List Call) :=
  deliver (·.session_changed_cb_) (·.session_changed_cb_) .sessionChanged (b.legacy_callback_table t) (b.observers_ t)

def reportControlStatus (b : Bridge) (t : Audio.SessionType) (start_resp : Bool) (status : BluetoothAudioStatus) :
    Option (List Call) :=
  deliver (·.control_result_cb_) (·.control_result_cb_)
    (fun f cookie => .controlResult f cookie start_resp (toHidlStatus status)) (b.legacy_callback_table t) (b.observers_ t)

end Bridge

inductive BridgeEvent where
  | registerControlResultCback (session_type : SessionType) (cbacks : PortStatusCallbacks)
  | unregisterControlResultCback (session_type : SessionType) (cookie : Nat)
  | reportSessionStatus (t : Audio.SessionType)
  | reportControlStatus (t : Audio.SessionType) (start_resp : Bool) (status : BluetoothAudioStatus)

namespace Bridge

def next (b : Bridge) : BridgeEvent → Bridge
  | .registerControlResultCback session_type cbacks => (b.registerControlResultCback session_type cbacks).2
  | .unregisterControlResultCback session_type cookie => b.unregisterControlResultCback session_type cookie
  | .reportSessionStatus _ => b
  | .reportControlStatus _ _ _ => b

/-! ## In step -/

/-- The keys of the table are the cookies of the observers. -/
def KeysMatch (b : Bridge) : Prop :=
  ∀ t cookie, cookie ∈ (b.legacy_callback_table t).map (·.1) ↔ cookie ∈ (b.observers_ t).map (·.1)

/-- The calls of a report to the observers that supplied `member`. -/
def callsTo (b : Bridge) (t : Audio.SessionType) (member : PortStatusCallbacks → Option Function)
    (call : Function → Nat → Call) : List Call :=
  (b.live t).filterMap fun o => (member o.2).map fun f => call f o.1

/-- After the step the keys match; a registration without a cookie leaves the
table; a report reaches the live observers that supplied its callback, and calls
no empty function. -/
def InStep (b : Bridge) : BridgeEvent → Prop
  | .registerControlResultCback session_type cbacks =>
    (b.registerControlResultCback session_type cbacks).2.KeysMatch ∧
      ((b.registerControlResultCback session_type cbacks).1 = kObserversCookieUndefined →
        (b.registerControlResultCback session_type cbacks).2.legacy_callback_table = b.legacy_callback_table)
  | .unregisterControlResultCback session_type cookie => (b.unregisterControlResultCback session_type cookie).KeysMatch
  | .reportSessionStatus t => b.reportSessionStatus t = some (b.callsTo t (·.session_changed_cb_) .sessionChanged)
  | .reportControlStatus t start_resp status =>
    b.reportControlStatus t start_resp status =
      some (b.callsTo t (·.control_result_cb_) fun f cookie => .controlResult f cookie start_resp (toHidlStatus status))

/-- Registrations are for a type that AIDL has, with a free cookie, and reports
come when every live observer supplied their callback. -/
def Regular (b : Bridge) : BridgeEvent → Prop
  | .registerControlResultCback session_type _ =>
    session_type ≠ .unknown ∧ (freeCookie session_type.toAidl (b.observers_ session_type.toAidl)).isSome
  | .unregisterControlResultCback _ _ => True
  | .reportSessionStatus t => ∀ o ∈ b.live t, o.2.session_changed_cb_.isSome
  | .reportControlStatus t _ _ => ∀ o ∈ b.live t, o.2.control_result_cb_.isSome

/-- The three registries agree. -/
structure Inv (b : Bridge) : Prop where
  observers : ∀ t, b.observers_ t = (b.live t).map fun o => (o.1, o.2.toAidl)
  table : ∀ t, b.legacy_callback_table t = b.live t
  distinct : ∀ t, ((b.live t).map (·.1)).Nodup
  cookies : ∀ t, ∀ o ∈ b.live t, observersCookieGetInitValue t ≤ o.1
  unknown : b.live .unknown = []

theorem Inv.init : Bridge.init.Inv :=
  ⟨fun _ => rfl, fun _ => rfl, fun _ => List.nodup_nil, fun _ _ ho => (nomatch ho), rfl⟩

/-- Observers are what the table says of their cookies: a report reaches all that
supplied the member exactly when all did. -/
theorem deliver_iff {given : AidlCallbacks → Bool} {target : PortStatusCallbacks → Option Function}
    (hg : ∀ cbacks : PortStatusCallbacks, given cbacks.toAidl = (target cbacks).isSome) (call : Function → Nat → Call)
    {table : List (Nat × PortStatusCallbacks)} {os : List (Nat × PortStatusCallbacks)}
    (hl : ∀ o ∈ os, table.lookup o.1 = some o.2) :
    deliver given target call table (os.map fun o => (o.1, o.2.toAidl)) =
        some (os.filterMap fun o => (target o.2).map fun f => call f o.1) ↔ ∀ o ∈ os, (target o.2).isSome := by
  induction os with
  | nil => simp [deliver]
  | cons o os ih =>
    obtain ⟨ho, hos⟩ := List.forall_mem_cons.1 hl
    rw [List.forall_mem_cons]
    simp only [List.map_cons, deliver, hg, ho, List.filterMap_cons]
    cases ht : target o.2 with
    | none => simp
    | some f =>
      rw [← ih hos]
      cases deliver given target call table (os.map fun o => (o.1, o.2.toAidl)) with
      | none => simp
      | some calls => simp

section
variable {b : Bridge}

theorem Inv.keysMatch (hi : b.Inv) : b.KeysMatch := by
  intro t cookie
  rw [hi.table, hi.observers, List.map_map]
  rfl

theorem Inv.lookup (hi : b.Inv) (t : Audio.SessionType) : ∀ o ∈ b.live t, (b.legacy_callback_table t).lookup o.1 = some o.2 := by
  intro o ho
  rw [hi.table]
  exact Audio.lookup_of_mem (hi.distinct t) ho

theorem Inv.reportSessionStatus_iff (hi : b.Inv) (t : Audio.SessionType) :
    b.InStep (.reportSessionStatus t) ↔ b.Regular (.reportSessionStatus t) := by
  simp only [InStep, Regular, Bridge.reportSessionStatus, callsTo, hi.observers]
  exact deliver_iff (fun _ => rfl) _ (hi.lookup t)

theorem Inv.reportControlStatus_iff (hi : b.Inv) (t : Audio.SessionType) (start_resp : Bool) (status : BluetoothAudioStatus) :
    b.InStep (.reportControlStatus t start_resp status) ↔ b.Regular (.reportControlStatus t start_resp status) := by
  simp only [InStep, Regular, Bridge.reportControlStatus, callsTo, hi.observers]
  exact deliver_iff (fun _ => rfl) _ (hi.lookup t)

/-! ## Registrations -/

theorem initValue_pos {session_type : SessionType} (h : session_type ≠ .unknown) :
    kObserversCookieUndefined < observersCookieGetInitValue session_type.toAidl := by
  cases session_type <;> first | exact absurd rfl h | decide

theorem toAidl_eq_unknown {session_type : SessionType} : session_type.toAidl = .unknown ↔ session_type = .unknown := by
  cases session_type <;> decide

/-- One session gets new observers in the three registries. -/
theorem Inv.update (hi : b.Inv) {t₀ : Audio.SessionType} {live : List (Nat × PortStatusCallbacks)}
    (hdistinct : (live.map (·.1)).Nodup) (hcookies : ∀ o ∈ live, observersCookieGetInitValue t₀ ≤ o.1)
    (hunknown : t₀ = .unknown → live = []) :
    Inv ⟨Function.update b.observers_ t₀ (live.map fun o => (o.1, o.2.toAidl)),
      Function.update b.legacy_callback_table t₀ live, Function.update b.live t₀ live⟩ := by
  have hobservers : b.observers_ = fun t => (b.live t).map fun o => (o.1, o.2.toAidl) := funext hi.observers
  have htable : b.legacy_callback_table = b.live := funext hi.table
  refine ⟨?_, ?_, ?_, ?_, ?_⟩
  · intro t
    simp only [hobservers, Function.update_apply]
    split <;> rfl
  · intro t
    simp only [htable]
  · intro t
    simp only [Function.update_apply]
    split
    · exact hdistinct
    · exact hi.distinct t
  · intro t o ho
    simp only [Function.update_apply] at ho
    split at ho
    · subst t
      exact hcookies o ho
    · exact hi.cookies t o ho
  · simp only [Function.update_apply]
    split
    · exact hunknown (Eq.symm ‹_›)
    · exact hi.unknown

/-- With a free cookie the three registries get the same entry. -/
theorem Inv.register (hi : b.Inv) {session_type : SessionType} (hs : session_type ≠ .unknown) (cbacks : PortStatusCallbacks)
    {cookie : Nat} (hf : freeCookie session_type.toAidl (b.observers_ session_type.toAidl) = some cookie) :
    (b.registerControlResultCback session_type cbacks).1 = cookie ∧
      (b.registerControlResultCback session_type cbacks).2.Inv := by
  obtain ⟨hlow, -, hfree⟩ := Audio.freeCookie_spec hf
  have hnew : cookie ∉ (b.live session_type.toAidl).map (·.1) := by
    rw [hi.observers, List.map_map] at hfree
    exact hfree
  have herase := Audio.eraseObserver_of_notMem hnew
  have hr : b.registerControlResultCback session_type cbacks =
      (cookie, ⟨Function.update b.observers_ session_type.toAidl
          (((cookie, cbacks) :: b.live session_type.toAidl).map fun o => (o.1, o.2.toAidl)),
        Function.update b.legacy_callback_table session_type.toAidl ((cookie, cbacks) :: b.live session_type.toAidl),
        Function.update b.live session_type.toAidl ((cookie, cbacks) :: b.live session_type.toAidl)⟩) := by
    simp only [registerControlResultCback, addObserver, hf, Option.isSome_some, if_true, assign, hi.table, herase,
      List.map_cons, ← hi.observers]
  rw [hr]
  refine ⟨rfl, hi.update ?_ ?_ ?_⟩
  · rw [List.map_cons, List.nodup_cons]
    exact ⟨hnew, hi.distinct _⟩
  · intro o ho
    rcases List.mem_cons.1 ho with rfl | ho
    · exact hlow
    · exact hi.cookies _ o ho
  · intro hu
    exact absurd (toAidl_eq_unknown.1 hu) hs

/-- No live observer has the undefined cookie. -/
theorem Inv.undefined_notMem (hi : b.Inv) (session_type : SessionType) :
    kObserversCookieUndefined ∉ (b.live session_type.toAidl).map (·.1) := by
  intro hm
  obtain ⟨o, ho, hc⟩ := List.mem_map.1 hm
  by_cases hs : session_type = .unknown
  · subst hs
    rw [SessionType.toAidl, hi.unknown] at ho
    cases ho
  · have hlow := hi.cookies _ o ho
    have hpos := initValue_pos hs
    omega

/-- A registration that is not regular returns the undefined cookie. -/
theorem Inv.register_undefined (hi : b.Inv) {session_type : SessionType} {cbacks : PortStatusCallbacks}
    (hn : ¬ b.Regular (.registerControlResultCback session_type cbacks)) :
    (b.registerControlResultCback session_type cbacks).1 = kObserversCookieUndefined := by
  by_cases hs : session_type = .unknown
  · subst hs
    have hnil : b.observers_ .unknown = [] := by rw [hi.observers, hi.unknown]; rfl
    simp only [registerControlResultCback, SessionType.toAidl, hnil]
    rfl
  · have hf : freeCookie session_type.toAidl (b.observers_ session_type.toAidl) = none := by
      rw [← Option.not_isSome_iff_eq_none]
      exact fun hf => hn ⟨hs, hf⟩
    simp only [registerControlResultCback, addObserver, hf]

theorem Inv.register_iff (hi : b.Inv) (session_type : SessionType) (cbacks : PortStatusCallbacks) :
    b.InStep (.registerControlResultCback session_type cbacks) ↔
      b.Regular (.registerControlResultCback session_type cbacks) := by
  constructor
  · rintro ⟨-, htable⟩
    by_contra hn
    have hc := hi.register_undefined hn
    -- The table got a key that no observer has.
    have hkey : kObserversCookieUndefined ∈
        ((b.registerControlResultCback session_type cbacks).2.legacy_callback_table session_type.toAidl).map (·.1) := by
      rw [← hc]
      simp [registerControlResultCback, assign]
    rw [htable hc, hi.table] at hkey
    exact hi.undefined_notMem session_type hkey
  · rintro ⟨hs, hf⟩
    obtain ⟨cookie, hf⟩ := Option.isSome_iff_exists.1 hf
    obtain ⟨hc, hi'⟩ := hi.register hs cbacks hf
    refine ⟨hi'.keysMatch, fun hu => ?_⟩
    rw [hc] at hu
    have hlow := (Audio.freeCookie_spec hf).1
    have hpos := initValue_pos hs
    omega

theorem Inv.unregister (hi : b.Inv) (session_type : SessionType) (cookie : Nat) :
    (b.unregisterControlResultCback session_type cookie).Inv := by
  have hr : b.unregisterControlResultCback session_type cookie =
      ⟨Function.update b.observers_ session_type.toAidl
          ((eraseObserver (b.live session_type.toAidl) cookie).map fun o => (o.1, o.2.toAidl)),
        Function.update b.legacy_callback_table session_type.toAidl (eraseObserver (b.live session_type.toAidl) cookie),
        Function.update b.live session_type.toAidl (eraseObserver (b.live session_type.toAidl) cookie)⟩ := by
    simp only [unregisterControlResultCback, hi.observers, hi.table, Audio.eraseObserver_map]
  rw [hr]
  refine hi.update ?_ ?_ ?_
  · exact Audio.nodup_eraseObserver _ (hi.distinct _)
  · intro o ho
    exact hi.cookies _ o (Audio.mem_eraseObserver.1 ho).1
  · intro hu
    rw [hu, hi.unknown]
    rfl

theorem Inv.inStep_iff (hi : b.Inv) (e : BridgeEvent) : b.InStep e ↔ b.Regular e := by
  cases e with
  | registerControlResultCback session_type cbacks => exact hi.register_iff session_type cbacks
  | unregisterControlResultCback session_type cookie =>
    exact iff_of_true (hi.unregister session_type cookie).keysMatch trivial
  | reportSessionStatus t => exact hi.reportSessionStatus_iff t
  | reportControlStatus t start_resp status => exact hi.reportControlStatus_iff t start_resp status

theorem Inv.next (hi : b.Inv) {e : BridgeEvent} (hr : b.Regular e) : (b.next e).Inv := by
  cases e with
  | registerControlResultCback session_type cbacks =>
    obtain ⟨hs, hf⟩ := hr
    obtain ⟨cookie, hf⟩ := Option.isSome_iff_exists.1 hf
    exact (hi.register hs cbacks hf).2
  | unregisterControlResultCback session_type cookie => exact hi.unregister session_type cookie
  | reportSessionStatus t => exact hi
  | reportControlStatus t start_resp status => exact hi

end

end Bridge

/-- A run of the bridge keeps the table in step with the sessions, and its
reports reach the observers that supplied their callback and no empty one,
exactly when no observer is registered for a type that AIDL lacks or with a full
session, and each report finds only observers that supplied its callback. -/
theorem inStep_run_iff (es : List BridgeEvent) :
    Runs.Along Bridge.next Bridge.InStep .init es ↔ Runs.Along Bridge.next Bridge.Regular .init es := by
  apply Runs.along_congr_of (I := Bridge.Inv) _ _ .init
  · intro b e hi
    exact hi.inStep_iff e
  · intro b e hi hr
    exact hi.next hr

/-- An observer that supplied no `session_changed_cb_` meets a session report. -/
theorem inStep_empty_callback :
    ¬ Runs.Along Bridge.next Bridge.InStep .init
      [.registerControlResultCback .a2dpSoftwareEncodingDatapath ⟨some 1, none⟩,
        .reportSessionStatus .a2dpSoftwareEncodingDatapath] := by
  rintro ⟨-, h, -⟩
  cases h

end PhhTreble.Hidl

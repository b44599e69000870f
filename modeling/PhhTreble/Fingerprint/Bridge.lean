import Mathlib.Data.List.Perm.Basic
import PhhTreble.Lib.Runs
/-!
# The Oplus fingerprint bridge

`BiometricsFingerprint` between a client and the vendor's service, after
`setNotify`: `cancel` and `enumerate`, which answer for the vendor when no
callback has come, and the callbacks they wait for. The service has one thread,
so requests follow each other; a callback comes while the vendor's call runs, or
between two requests.
-/

namespace PhhTreble.Fingerprint

/-! ## The data model -/

inductive FingerprintError where
  | noError | hwUnavailable | unableToProcess | timeout | noSpace | canceled | unableToRemove | lockout | vendor
deriving DecidableEq, Repr

inductive RequestStatus where
  | sysUnknown | sysOk | sysEnoent | sysEintr | sysEio | sysEagain | sysEnomem | sysEacces | sysEfault | sysEbusy
  | sysEinval | sysEnospc | sysEtimedout
deriving DecidableEq, Repr

/-- A value of a vendor's enumeration: one of the name of an AOSP value, or another. -/
inductive Oplus (α : Type) where
  | named (value : α)
  | other (value : Int)
deriving DecidableEq, Repr

/-- The `switch` of a translation to AOSP. -/
def Oplus.toAOSP {α : Type} (default : α) : Oplus α → α
  | .named value => value
  | .other _ => default

def oplusToAOSPFingerprintError (error : Oplus FingerprintError) : FingerprintError := error.toAOSP .noError

def oplusToAOSPRequestStatus (req : Oplus RequestStatus) : RequestStatus := req.toAOSP .sysUnknown

/-- A call of the client's callback. -/
inductive ClientCall where
  | onError (deviceId : Nat) (error : FingerprintError) (vendorCode : Int)
  | onEnumerate (deviceId fingerId groupId remaining : Nat)
deriving DecidableEq, Repr

/-- A call of `OplusClientCallback`. -/
inductive VendorCall where
  | onError (deviceId : Nat) (error : Oplus FingerprintError) (vendorCode : Int)
  | onEnumerate (deviceId fingerId groupId remaining : Nat)
  | onSyncTemplates (deviceId : Nat) (fingerId : List Nat)
deriving DecidableEq, Repr

/-- A vendor call, with the number of the request it is for. -/
structure Callback where
  request : Nat
  call : VendorCall
deriving DecidableEq, Repr

/-- The static variables; the number of requests made; and what the client has
been told, with the request it is for, none where there was no such request. -/
structure Bridge where
  receivedCancel : Bool
  receivedEnumerate : Bool
  myDeviceId : Nat
  knownFingers : List Nat
  issued : Nat
  delivered : List (Option Nat × ClientCall)
deriving DecidableEq, Repr

namespace Bridge

/-- After `setNotify`. -/
def init : Bridge := ⟨false, false, 0, [], 0, []⟩

def deliver (b : Bridge) (request : Option Nat) (calls : List ClientCall) : Bridge :=
  { b with delivered := b.delivered ++ calls.map (request, ·) }

/-! ## The callbacks -/

def handle (b : Bridge) (c : Callback) : Bridge :=
  let request := if c.request < b.issued then some c.request else none
  match c.call with
  | .onError deviceId error vendorCode =>
    let receivedCancel := if error = Oplus.named .canceled then true else b.receivedCancel
    { b with receivedCancel := receivedCancel }.deliver request
      [.onError deviceId (oplusToAOSPFingerprintError error) vendorCode]
  | .onEnumerate deviceId fingerId groupId remaining =>
    { b with receivedEnumerate := true }.deliver request [.onEnumerate deviceId fingerId groupId remaining]
  | .onSyncTemplates deviceId fingerId => { b with myDeviceId := deviceId, knownFingers := fingerId }

/-! ## The requests -/

/-- `during` are the callbacks that come before the vendor's `cancel` returns `status`. -/
def cancel (b : Bridge) (during : List Callback) (status : Oplus RequestStatus) : RequestStatus × Bridge :=
  let request := b.issued
  let b := during.foldl handle { b with receivedCancel := false, issued := b.issued + 1 }
  (oplusToAOSPRequestStatus status,
    if !b.receivedCancel then b.deliver (some request) [.onError b.myDeviceId .canceled 0] else b)

/-- The loop over the known fingers, with its counter. -/
def sendFingers (myDeviceId : Nat) : Nat → List Nat → List ClientCall
  | _, [] => []
  | nFingers, finger :: fingers =>
    .onEnumerate myDeviceId finger 0 (nFingers - 1) :: sendFingers myDeviceId (nFingers - 1) fingers

def ownFingers (b : Bridge) : List ClientCall :=
  let nFingers := b.knownFingers.length
  if nFingers > 0 then sendFingers b.myDeviceId nFingers b.knownFingers else [.onEnumerate b.myDeviceId 0 0 0]

def enumerate (b : Bridge) (during : List Callback) (status : Oplus RequestStatus) : RequestStatus × Bridge :=
  let request := b.issued
  let b := during.foldl handle { b with receivedEnumerate := false, issued := b.issued + 1 }
  let ret := oplusToAOSPRequestStatus status
  (ret, if ret = .sysOk ∧ !b.receivedEnumerate then b.deliver (some request) b.ownFingers else b)

inductive Event where
  | cancel (during : List Callback) (status : Oplus RequestStatus)
  | enumerate (during : List Callback) (status : Oplus RequestStatus)
  | callback (c : Callback)
deriving DecidableEq, Repr

def step (b : Bridge) : Event → Bridge
  | .cancel during status => (b.cancel during status).2
  | .enumerate during status => (b.enumerate during status).2
  | .callback c => b.handle c

end Bridge

open Bridge

/-! ## What a request comes to -/

def ClientCall.isCanceled : ClientCall → Bool
  | .onError _ error _ => error == .canceled
  | .onEnumerate .. => false

/-- The finger of an enumeration, and how many remain. -/
def ClientCall.finger : ClientCall → Option (Nat × Nat)
  | .onError .. => none
  | .onEnumerate _ fingerId _ remaining => some (fingerId, remaining)

/-- What the client is told of a vendor call. -/
def VendorCall.client : VendorCall → Option ClientCall
  | .onError deviceId error vendorCode => some (.onError deviceId (oplusToAOSPFingerprintError error) vendorCode)
  | .onEnumerate deviceId fingerId groupId remaining => some (.onEnumerate deviceId fingerId groupId remaining)
  | .onSyncTemplates .. => none

def Callback.isCanceled (c : Callback) : Bool := c.call.client.any (·.isCanceled)

def Callback.isEnumerate (c : Callback) : Bool := c.call.client.any (·.finger.isSome)

/-- What the client is told of a callback for request `k`. -/
def Callback.clientFor (k : Nat) (c : Callback) : Option ClientCall := if c.request = k then c.call.client else none

/-- The callbacks of a step. -/
def Bridge.Event.callbacks : Event → List Callback
  | .cancel during _ => during
  | .enumerate during _ => during
  | .callback c => [c]

/-- What the client has been told for request `k`. -/
def Bridge.callsFor (b : Bridge) (k : Nat) : List ClientCall :=
  b.delivered.filterMap fun d => if d.1 = some k then some d.2 else none

/-- Each finger once, with the remaining ones counting down to 0; one event for
no fingers. -/
def IsEnumeration (fingers : List Nat) (events : List (Nat × Nat)) : Prop :=
  if fingers = [] then events = [(0, 0)]
  else (events.map Prod.fst).Perm fingers ∧ events.map Prod.snd = (List.range fingers.length).reverse

/-- In the end request `k` has had one ERROR_CANCELED, or one enumeration of the
fingers known when it returned. -/
def AnsweredOnce (b : Bridge) (k : Nat) (fingers : List Nat) : Event → Prop
  | .cancel _ _ => (b.callsFor k).countP (·.isCanceled) = 1
  | .enumerate _ status =>
    oplusToAOSPRequestStatus status = .sysOk → IsEnumeration fingers ((b.callsFor k).filterMap (·.finger))
  | .callback _ => True

/-- The vendor's callbacks for request `k`, `during` it and `after` it, begin
before it returns and are complete; or there are none, and none for another
request comes during it. -/
def Timely (k : Nat) (fingers : List Nat) (after : List Callback) : Event → Prop
  | .cancel during _ =>
    let sent := (during ++ after).filterMap (·.clientFor k)
    if during.any (·.isCanceled) then sent.countP (·.isCanceled) = 1 else sent.countP (·.isCanceled) = 0
  | .enumerate during status =>
    let sent := (during ++ after).filterMap (·.clientFor k)
    oplusToAOSPRequestStatus status = .sysOk →
      if during.any (·.isEnumerate) then IsEnumeration fingers (sent.filterMap (·.finger))
      else sent.filterMap (·.finger) = []
  | .callback _ => True

/-- Every request of the run is answered once. -/
def AllAnsweredOnce (es : List Event) : Prop :=
  ∀ pre e post, es = pre ++ e :: post →
    AnsweredOnce (Runs.run step init es) (Runs.run step init pre).issued
      (Runs.run step init (pre ++ [e])).knownFingers e

/-- The vendor is timely for every request of the run. -/
def AllTimely (es : List Event) : Prop :=
  ∀ pre e post, es = pre ++ e :: post →
    Timely (Runs.run step init pre).issued (Runs.run step init (pre ++ [e])).knownFingers
      (post.flatMap (·.callbacks)) e

/-! ## Deliveries -/

namespace Bridge

@[simp] theorem deliver_issued (b : Bridge) (request : Option Nat) (calls : List ClientCall) :
    (b.deliver request calls).issued = b.issued := rfl

theorem deliver_nil (b : Bridge) (request : Option Nat) : b.deliver request [] = b := by simp [deliver]

theorem deliver_callsFor (b : Bridge) (k j : Nat) (calls : List ClientCall) :
    (b.deliver (some j) calls).callsFor k = b.callsFor k ++ if j = k then calls else [] := by
  unfold callsFor deliver
  rw [List.filterMap_append]
  congr 1
  induction calls with
  | nil => split <;> rfl
  | cons call calls ih =>
    rw [List.map_cons, List.filterMap_cons, ih]
    by_cases h : j = k
    · simp [h]
    · simp [h]

theorem deliver_callsFor_none (b : Bridge) (k : Nat) (calls : List ClientCall) :
    (b.deliver none calls).callsFor k = b.callsFor k := by
  unfold callsFor deliver
  rw [List.filterMap_append]
  simp [List.filterMap_map]

/-- A callback sets a flag or the templates, and tells the client of its call. -/
theorem handle_cases (b : Bridge) (c : Callback) :
    ∃ d : Bridge, d.issued = b.issued ∧ d.delivered = b.delivered ∧
      b.handle c = d.deliver (if c.request < b.issued then some c.request else none) c.call.client.toList := by
  unfold handle
  dsimp only
  cases c.call with
  | onError deviceId error vendorCode =>
    exact ⟨{ b with receivedCancel := if error = Oplus.named .canceled then true else b.receivedCancel }, rfl, rfl, rfl⟩
  | onEnumerate deviceId fingerId groupId remaining => exact ⟨{ b with receivedEnumerate := true }, rfl, rfl, rfl⟩
  | onSyncTemplates deviceId fingerId =>
    refine ⟨{ b with myDeviceId := deviceId, knownFingers := fingerId }, rfl, rfl, ?_⟩
    exact (deliver_nil _ _).symm

@[simp] theorem handle_issued (b : Bridge) (c : Callback) : (b.handle c).issued = b.issued := by
  obtain ⟨d, hi, -, h⟩ := handle_cases b c
  rw [h, deliver_issued, hi]

@[simp] theorem handles_issued (b : Bridge) (cs : List Callback) : (cs.foldl handle b).issued = b.issued := by
  induction cs generalizing b with
  | nil => rfl
  | cons c cs ih => rw [List.foldl_cons, ih, handle_issued]

/-- A callback for an issued request tells the client of it. -/
theorem handle_callsFor {b : Bridge} {k : Nat} (hk : k < b.issued) (c : Callback) :
    (b.handle c).callsFor k = b.callsFor k ++ (c.clientFor k).toList := by
  obtain ⟨d, -, hd, h⟩ := handle_cases b c
  have hcalls : d.callsFor k = b.callsFor k := by rw [callsFor, hd, callsFor]
  rw [h, Callback.clientFor]
  by_cases hc : c.request < b.issued
  · rw [if_pos hc, deliver_callsFor, hcalls]
    split <;> rfl
  · rw [if_neg hc, deliver_callsFor_none, hcalls, if_neg (fun hk' : c.request = k => hc (hk' ▸ hk))]
    exact (List.append_nil _).symm

theorem handles_callsFor {b : Bridge} {k : Nat} (hk : k < b.issued) (cs : List Callback) :
    (cs.foldl handle b).callsFor k = b.callsFor k ++ cs.filterMap (·.clientFor k) := by
  induction cs generalizing b with
  | nil => exact (List.append_nil _).symm
  | cons c cs ih =>
    rw [List.foldl_cons, ih (by rwa [handle_issued]), handle_callsFor hk, List.append_assoc]
    congr 1
    cases h : c.clientFor k <;> simp [h]

/-- A flag that callbacks of one kind set is set by the first of them. -/
theorem handles_flag {f : Bridge → Bool} {p : Callback → Bool} (h : ∀ b c, f (b.handle c) = (f b || p c)) (b : Bridge)
    (cs : List Callback) : f (cs.foldl handle b) = (f b || cs.any p) := by
  induction cs generalizing b with
  | nil => exact (Bool.or_false _).symm
  | cons c cs ih => rw [List.foldl_cons, ih, h, List.any_cons, Bool.or_assoc]

theorem handle_receivedCancel (b : Bridge) (c : Callback) :
    (b.handle c).receivedCancel = (b.receivedCancel || c.isCanceled) := by
  unfold handle Callback.isCanceled
  dsimp only
  cases c.call with
  | onError deviceId error vendorCode =>
    cases error with
    | named value => cases value <;> cases b.receivedCancel <;> rfl
    | other value => cases b.receivedCancel <;> rfl
  | onEnumerate _ _ _ _ => exact (Bool.or_false _).symm
  | onSyncTemplates _ _ => exact (Bool.or_false _).symm

theorem handle_receivedEnumerate (b : Bridge) (c : Callback) :
    (b.handle c).receivedEnumerate = (b.receivedEnumerate || c.isEnumerate) := by
  unfold handle Callback.isEnumerate
  dsimp only
  cases c.call with
  | onError _ _ _ => exact (Bool.or_false _).symm
  | onEnumerate _ _ _ _ => exact (Bool.or_true _).symm
  | onSyncTemplates _ _ => exact (Bool.or_false _).symm

/-- Nothing is told for a request that was not made. -/
def Fresh (b : Bridge) : Prop := ∀ k, b.issued ≤ k → b.callsFor k = []

theorem handle_fresh {b : Bridge} (hb : b.Fresh) (c : Callback) : (b.handle c).Fresh := by
  intro k hk
  obtain ⟨d, hi, hd, h⟩ := handle_cases b c
  have hcalls : d.callsFor k = [] := by
    rw [callsFor, hd]
    exact hb k (by rwa [handle_issued] at hk)
  rw [h]
  by_cases hc : c.request < b.issued
  · rw [h, deliver_issued, hi] at hk
    rw [if_pos hc, deliver_callsFor, hcalls, if_neg (by omega)]
    rfl
  · rw [if_neg hc, deliver_callsFor_none, hcalls]

theorem handles_fresh {b : Bridge} (h : b.Fresh) (cs : List Callback) : (cs.foldl handle b).Fresh := by
  induction cs generalizing b with
  | nil => exact h
  | cons c cs ih => exact ih (handle_fresh h c)

/-! ## Requests -/

/-- A request makes its number an issued one, takes the callbacks that come, and
tells the client some calls of its own. -/
structure Answers (b b' : Bridge) (during : List Callback) (own : List ClientCall) : Prop where
  issued : b'.issued = b.issued + 1
  before : ∀ k, k < b.issued → b'.callsFor k = b.callsFor k ++ during.filterMap (·.clientFor k)
  now : b.Fresh → b'.callsFor b.issued = during.filterMap (·.clientFor b.issued) ++ own
  fresh : b.Fresh → b'.Fresh

theorem answers_of_eq {b d b' : Bridge} {during : List Callback} {own : List ClientCall}
    (hi : d.issued = b.issued + 1) (hd : d.delivered = b.delivered)
    (h : b' = (during.foldl handle d).deliver (some b.issued) own) : Answers b b' during own := by
  have hcalls : ∀ k, d.callsFor k = b.callsFor k := fun k => by rw [callsFor, hd, callsFor]
  have hfresh : b.Fresh → d.Fresh := by
    intro hb k hk
    rw [hcalls]
    exact hb k (by omega)
  subst h
  constructor
  · rw [deliver_issued, handles_issued, hi]
  · intro k hk
    rw [deliver_callsFor, handles_callsFor (by omega), hcalls, if_neg (by omega), List.append_nil]
  · intro hb
    rw [deliver_callsFor, handles_callsFor (by omega), hcalls, hb _ (Nat.le_refl _), if_pos rfl, List.nil_append]
  · intro hb k hk
    rw [deliver_issued, handles_issued, hi] at hk
    rw [deliver_callsFor, if_neg (by omega), List.append_nil]
    apply handles_fresh (hfresh hb)
    rw [handles_issued]
    omega

/-- `cancel` tells of a cancellation of its own when none came during it. -/
theorem cancel_answers (b : Bridge) (during : List Callback) (status : Oplus RequestStatus) :
    ∃ deviceId, Answers b (b.cancel during status).2 during
      (if during.any (·.isCanceled) then [] else [.onError deviceId .canceled 0]) := by
  refine ⟨(during.foldl handle { b with receivedCancel := false, issued := b.issued + 1 }).myDeviceId,
    answers_of_eq (d := { b with receivedCancel := false, issued := b.issued + 1 }) rfl rfl ?_⟩
  unfold cancel
  dsimp only
  rw [handles_flag handle_receivedCancel, Bool.false_or]
  cases during.any (·.isCanceled) with
  | true => exact (deliver_nil _ _).symm
  | false => rfl

/-- `enumerate` tells of the fingers it knows when it succeeds with no callback. -/
theorem enumerate_answers (b : Bridge) (during : List Callback) (status : Oplus RequestStatus) :
    Answers b (b.enumerate during status).2 during
      (if oplusToAOSPRequestStatus status = .sysOk ∧ during.any (·.isEnumerate) = false then
        (b.enumerate during status).2.ownFingers else []) := by
  apply answers_of_eq (d := { b with receivedEnumerate := false, issued := b.issued + 1 }) rfl rfl
  unfold enumerate
  dsimp only
  rw [handles_flag handle_receivedEnumerate, Bool.false_or]
  by_cases h : oplusToAOSPRequestStatus status = .sysOk ∧ during.any (·.isEnumerate) = false
  · rw [if_pos h, if_pos ⟨h.1, by rw [h.2]; rfl⟩]
    rfl
  · rw [if_neg h, if_neg (fun hn => h ⟨hn.1, by simpa using hn.2⟩), deliver_nil]

/-! ## Runs -/

theorem step_issued_le (b : Bridge) (e : Event) : b.issued ≤ (b.step e).issued := by
  cases e with
  | cancel during status =>
    obtain ⟨_, h⟩ := cancel_answers b during status
    exact h.issued.symm ▸ Nat.le_succ _
  | enumerate during status => exact (enumerate_answers b during status).issued.symm ▸ Nat.le_succ _
  | callback c => exact Nat.le_of_eq (handle_issued b c).symm

theorem step_fresh {b : Bridge} (h : b.Fresh) (e : Event) : (b.step e).Fresh := by
  cases e with
  | cancel during status =>
    obtain ⟨_, ha⟩ := cancel_answers b during status
    exact ha.fresh h
  | enumerate during status => exact (enumerate_answers b during status).fresh h
  | callback c => exact handle_fresh h c

theorem run_fresh (es : List Event) : (Runs.run step init es).Fresh :=
  Runs.run_inv (J := Fresh) (fun _ e h => step_fresh h e) (fun _ _ => rfl) es

/-- After a request the client hears of it from its callbacks alone. -/
theorem run_callsFor {b : Bridge} {k : Nat} (hk : k < b.issued) (es : List Event) :
    (Runs.run step b es).callsFor k = b.callsFor k ++ (es.flatMap (·.callbacks)).filterMap (·.clientFor k) := by
  induction es generalizing b with
  | nil => exact (List.append_nil _).symm
  | cons e es ih =>
    have hstep : (b.step e).callsFor k = b.callsFor k ++ e.callbacks.filterMap (·.clientFor k) := by
      cases e with
      | cancel during status =>
        obtain ⟨_, h⟩ := cancel_answers b during status
        exact h.before k hk
      | enumerate during status => exact (enumerate_answers b during status).before k hk
      | callback c => exact handles_callsFor hk [c]
    rw [Runs.run_cons, ih (Nat.lt_of_lt_of_le hk (step_issued_le b e)), hstep, List.flatMap_cons, List.filterMap_append,
      List.append_assoc]

/-- All that the client hears of a request: its callbacks, and between those
that come during it and those after, its own calls. -/
theorem run_request {b : Bridge} {e : Event} {during : List Callback} {own : List ClientCall} (hb : b.Fresh)
    (h : Answers b (b.step e) during own) (post : List Event) :
    (Runs.run step (b.step e) post).callsFor b.issued = during.filterMap (·.clientFor b.issued) ++ own ++
      (post.flatMap (·.callbacks)).filterMap (·.clientFor b.issued) := by
  have hk : b.issued < (b.step e).issued := by
    rw [h.issued]
    exact Nat.lt_succ_self _
  rw [run_callsFor hk, h.now hb]

/-! ## Enumerations -/

theorem sendFingers_fst (myDeviceId nFingers : Nat) (fingers : List Nat) :
    ((sendFingers myDeviceId nFingers fingers).filterMap (·.finger)).map Prod.fst = fingers := by
  induction fingers generalizing nFingers with
  | nil => rfl
  | cons finger fingers ih => exact congrArg (finger :: ·) (ih _)

theorem sendFingers_snd (myDeviceId : Nat) (fingers : List Nat) :
    ((sendFingers myDeviceId fingers.length fingers).filterMap (·.finger)).map Prod.snd =
      (List.range fingers.length).reverse := by
  induction fingers with
  | nil => rfl
  | cons finger fingers ih =>
    rw [List.length_cons, List.range_succ, List.reverse_append]
    exact congrArg (fingers.length :: ·) ih

/-- What `enumerate` sends on its own is an enumeration of the known fingers. -/
theorem ownFingers_enumeration (b : Bridge) : IsEnumeration b.knownFingers (b.ownFingers.filterMap (·.finger)) := by
  unfold IsEnumeration ownFingers
  cases h : b.knownFingers with
  | nil => rfl
  | cons finger fingers =>
    rw [if_neg (List.cons_ne_nil _ _)]
    dsimp only
    rw [if_pos (show (finger :: fingers).length > 0 from Nat.succ_pos _), sendFingers_fst]
    exact ⟨List.Perm.refl _, sendFingers_snd b.myDeviceId (finger :: fingers)⟩

end Bridge

theorem IsEnumeration.length_eq {fingers : List Nat} {events : List (Nat × Nat)} (h : IsEnumeration fingers events) :
    events.length = if fingers = [] then 1 else fingers.length := by
  unfold IsEnumeration at h
  split at h
  · rename_i hf
    rw [if_pos hf, h]
    rfl
  · rename_i hf
    rw [if_neg hf, ← h.1.length_eq, List.length_map]

/-- A whole enumeration is followed by none. -/
theorem IsEnumeration.append_iff {fingers : List Nat} {events events' : List (Nat × Nat)}
    (h : IsEnumeration fingers events) : IsEnumeration fingers (events ++ events') ↔ events' = [] := by
  constructor
  · intro h'
    have hlen := h'.length_eq
    rw [List.length_append, h.length_eq] at hlen
    exact List.eq_nil_of_length_eq_zero (by omega)
  · rintro rfl
    rwa [List.append_nil]

/-! ## Callbacks that did not come -/

theorem countP_canceled_of_not_any {during : List Callback} (h : during.any (·.isCanceled) = false) (k : Nat) :
    (during.filterMap (·.clientFor k)).countP (·.isCanceled) = 0 := by
  rw [List.countP_eq_zero]
  intro call hcall hc
  obtain ⟨c, hmem, hfor⟩ := List.mem_filterMap.1 hcall
  have hcancel : c.isCanceled = true := by
    unfold Callback.clientFor at hfor
    split at hfor
    · rw [Callback.isCanceled, hfor]
      exact hc
    · cases hfor
  rw [List.any_eq_false] at h
  exact h c hmem hcancel

theorem fingers_of_not_any {during : List Callback} (h : during.any (·.isEnumerate) = false) (k : Nat) :
    (during.filterMap (·.clientFor k)).filterMap (·.finger) = [] := by
  rw [List.filterMap_eq_nil_iff]
  intro call hcall
  obtain ⟨c, hmem, hfor⟩ := List.mem_filterMap.1 hcall
  unfold Callback.clientFor at hfor
  split at hfor
  · by_contra hsome
    rw [List.any_eq_false] at h
    apply h c hmem
    rw [Callback.isEnumerate, hfor]
    exact Option.isSome_iff_ne_none.2 hsome
  · cases hfor

/-! ## Each request -/

open Bridge

/-- A request is answered once exactly when the vendor is timely for it. -/
theorem answeredOnce_iff {b : Bridge} (hb : b.Fresh) (e : Event) (post : List Event) :
    AnsweredOnce (Runs.run step (b.step e) post) b.issued (b.step e).knownFingers e ↔
      Timely b.issued (b.step e).knownFingers (post.flatMap (·.callbacks)) e := by
  cases e with
  | callback c => exact Iff.rfl
  | cancel during status =>
    obtain ⟨deviceId, ha⟩ := cancel_answers b during status
    have hcalls := run_request (e := .cancel during status) hb ha post
    unfold AnsweredOnce Timely
    dsimp only
    rw [hcalls, List.countP_append, List.countP_append, List.filterMap_append, List.countP_append]
    cases h : during.any (·.isCanceled) with
    | true => simp
    | false =>
      have hnone := countP_canceled_of_not_any h b.issued
      have hown : ([.onError deviceId .canceled 0] : List ClientCall).countP (·.isCanceled) = 1 := rfl
      simp only [Bool.false_eq_true, if_false, hnone, hown]
      omega
  | enumerate during status =>
    have ha := enumerate_answers b during status
    have hcalls := run_request (e := .enumerate during status) hb ha post
    unfold AnsweredOnce Timely
    dsimp only
    rw [hcalls]
    refine imp_congr_right fun hok => ?_
    cases h : during.any (·.isEnumerate) with
    | true => simp [hok]
    | false =>
      have hnone := fingers_of_not_any h b.issued
      have hown : IsEnumeration (b.step (.enumerate during status)).knownFingers
          ((b.enumerate during status).2.ownFingers.filterMap (·.finger)) :=
        ownFingers_enumeration (b.enumerate during status).2
      rw [if_pos ⟨hok, rfl⟩]
      simp only [List.filterMap_append, hnone, List.nil_append, Bool.false_eq_true, if_false]
      exact hown.append_iff

/-- In a run every request is answered once exactly when the vendor is timely
for every request. -/
theorem all_answered_once_iff (es : List Event) : AllAnsweredOnce es ↔ AllTimely es := by
  have hsplit : ∀ pre e post, es = pre ++ e :: post →
      (AnsweredOnce (Runs.run step init es) (Runs.run step init pre).issued
          (Runs.run step init (pre ++ [e])).knownFingers e ↔
        Timely (Runs.run step init pre).issued (Runs.run step init (pre ++ [e])).knownFingers
          (post.flatMap (·.callbacks)) e) := by
    rintro pre e post rfl
    rw [Runs.run_append, Runs.run_append]
    exact answeredOnce_iff (run_fresh pre) e post
  constructor
  · intro h pre e post he
    exact (hsplit pre e post he).1 (h pre e post he)
  · intro h pre e post he
    exact (hsplit pre e post he).2 (h pre e post he)

/-- The vendor's ERROR_CANCELED comes after `cancel` has returned: the client
hears of it twice. -/
theorem canceled_twice :
    ¬ AllAnsweredOnce [.cancel [] (.named .sysOk), .callback ⟨0, .onError 7 (.named .canceled) 0⟩] := by
  intro h
  have htwo := h [] _ _ rfl
  unfold AnsweredOnce at htwo
  exact absurd htwo (by decide)

end PhhTreble.Fingerprint

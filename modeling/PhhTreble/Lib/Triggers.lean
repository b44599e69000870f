import Mathlib.Algebra.GroupWithZero.Nat
import Mathlib.Algebra.Order.BigOperators.Group.List
import Mathlib.Algebra.Order.Ring.Nat
import Mathlib.Data.List.Nodup
import PhhTreble.Lib.Runs
/-!
# Triggered handlers

A store of locations, some of which are keys. Whenever a key is written its
trigger goes into a queue. The triggers are served one after the other, each by a
handler that reads its key when it starts, then assigns locations, and last asks
for services to be restarted. Others write keys at any time, also while a handler
runs, and a service reads the store whenever it starts.

A handler reads the key, not the value that triggered it. So a trigger that comes
late does no harm, and when nothing is left to do the locations are those of the
keys as they are.
-/

namespace Triggers

/-- What a handler does: its assignments, and after them its restarts. -/
structure Response (Loc Val Svc : Type) where
  assignments : List (Loc × Val)
  restarts : List Svc

/-- Handlers that share no location. One may write its own key, but not twice on end. -/
structure Handlers (Key Loc Val Svc : Type) where
  loc : Key → Loc
  handle : Key → Val → Response Loc Val Svc
  owner : Loc → Option Key
  owner_loc : ∀ k, owner (loc k) = some k
  owner_handle : ∀ {k v a}, a ∈ (handle k v).assignments → owner a.1 = some k
  nodup : ∀ k v, ((handle k v).assignments.map Prod.fst).Nodup
  rests : ∀ {k v w}, (loc k, w) ∈ (handle k v).assignments → ∀ a ∈ (handle k w).assignments, a.1 ≠ loc k

structure State (Key Loc Val Svc : Type) where
  store : Loc → Val
  pending : List Key
  running : Option (Key × Response Loc Val Svc)
  requested : Svc → Bool
  loaded : Svc → Loc → Val

inductive Event (Loc Val Svc : Type) where
  /-- Another party writes a location. -/
  | set (l : Loc) (v : Val)
  /-- The next trigger is taken, or the handler that runs does one more thing. -/
  | turn
  /-- A service starts. -/
  | load (svc : Svc)

variable {Key Loc Val Svc : Type} [DecidableEq Loc] (T : Handlers Key Loc Val Svc)

/-- The key at a location. -/
def Handlers.key (l : Loc) : Option Key := (T.owner l).filter fun k => T.loc k = l

/-- What is to be done about `k`. -/
def State.due (s : State Key Loc Val Svc) (k : Key) : Response Loc Val Svc := T.handle k (s.store (T.loc k))

def State.assign (s : State Key Loc Val Svc) (l : Loc) (v : Val) : State Key Loc Val Svc :=
  { s with store := Function.update s.store l v, pending := s.pending ++ (T.key l).toList }

variable {T}

theorem mem_key {l : Loc} {k : Key} : k ∈ (T.key l).toList ↔ T.loc k = l := by
  rw [Option.mem_toList, Handlers.key, Option.filter_eq_some_iff]
  constructor
  · rintro ⟨-, h⟩
    simpa using h
  · rintro rfl
    simp [T.owner_loc]

@[simp] theorem assign_store (s : State Key Loc Val Svc) (l : Loc) (v : Val) :
    (s.assign T l v).store = Function.update s.store l v := rfl

@[simp] theorem assign_pending (s : State Key Loc Val Svc) (l : Loc) (v : Val) :
    (s.assign T l v).pending = s.pending ++ (T.key l).toList := rfl

omit [DecidableEq Loc] in
theorem due_congr {s t : State Key Loc Val Svc} {k : Key} (h : t.store (T.loc k) = s.store (T.loc k)) :
    t.due T k = s.due T k := by
  unfold State.due
  rw [h]

omit [DecidableEq Loc] in
theorem owner_due {s : State Key Loc Val Svc} {k : Key} {a : Loc × Val} (h : a ∈ (s.due T k).assignments) :
    T.owner a.1 = some k := T.owner_handle h

variable (T) [DecidableEq Svc]

def State.turn (s : State Key Loc Val Svc) : State Key Loc Val Svc :=
  match s.running with
  | none =>
    match s.pending with
    | [] => s
    | k :: ks => { s with pending := ks, running := some (k, s.due T k) }
  | some (k, ⟨a :: as, svcs⟩) => { s.assign T a.1 a.2 with running := some (k, ⟨as, svcs⟩) }
  | some (k, ⟨[], svc :: svcs⟩) =>
    { s with requested := Function.update s.requested svc true, running := some (k, ⟨[], svcs⟩) }
  | some (_, ⟨[], []⟩) => { s with running := none }

def State.step (s : State Key Loc Val Svc) : Event Loc Val Svc → State Key Loc Val Svc
  | .set l v => s.assign T l v
  | .turn => s.turn T
  | .load svc =>
    { s with loaded := Function.update s.loaded svc s.store, requested := Function.update s.requested svc false }

/-- The four things a turn does, where there is something to do. -/
inductive State.Turns (s : State Key Loc Val Svc) : State Key Loc Val Svc → Prop where
  | take (k : Key) (ks : List Key) (hrunning : s.running = none) (hpending : s.pending = k :: ks) :
    Turns s { s with pending := ks, running := some (k, s.due T k) }
  | assign (k : Key) (a : Loc × Val) (as : List (Loc × Val)) (svcs : List Svc)
    (hrunning : s.running = some (k, ⟨a :: as, svcs⟩)) :
    Turns s { s.assign T a.1 a.2 with running := some (k, ⟨as, svcs⟩) }
  | restart (k : Key) (svc : Svc) (svcs : List Svc) (hrunning : s.running = some (k, ⟨[], svc :: svcs⟩)) :
    Turns s { s with requested := Function.update s.requested svc true, running := some (k, ⟨[], svcs⟩) }
  | finish (k : Key) (hrunning : s.running = some (k, ⟨[], []⟩)) : Turns s { s with running := none }

/-- There is nothing to do. -/
def State.AtRest (s : State Key Loc Val Svc) : Prop := s.running = none ∧ s.pending = []

variable {T}

theorem turn_cases (s : State Key Loc Val Svc) : s.AtRest ∧ s.turn T = s ∨ s.Turns T (s.turn T) := by
  unfold State.turn
  split
  · rename_i hrunning
    split
    · rename_i hpending
      exact .inl ⟨⟨hrunning, hpending⟩, rfl⟩
    · rename_i k ks hpending
      exact .inr (.take k ks hrunning hpending)
  · rename_i k a as svcs hrunning
    exact .inr (.assign k a as svcs hrunning)
  · rename_i k svc svcs hrunning
    exact .inr (.restart k svc svcs hrunning)
  · rename_i k hrunning
    exact .inr (.finish k hrunning)

/-! ## What is left to do about a key -/

variable [DecidableEq Key]

/-- The rest of what the handler of `k` does, where it runs. -/
def State.left (s : State Key Loc Val Svc) (k : Key) : Response Loc Val Svc :=
  match s.running with
  | some (k', r) => if k' = k then r else ⟨[], []⟩
  | none => ⟨[], []⟩

omit [DecidableEq Loc] [DecidableEq Svc] in
theorem left_none {s : State Key Loc Val Svc} (h : s.running = none) (k : Key) : s.left k = ⟨[], []⟩ := by
  simp [State.left, h]

omit [DecidableEq Loc] [DecidableEq Svc] in
theorem left_self {s : State Key Loc Val Svc} {k : Key} {r : Response Loc Val Svc} (h : s.running = some (k, r)) :
    s.left k = r := by
  simp [State.left, h]

omit [DecidableEq Loc] [DecidableEq Svc] in
theorem left_ne {s : State Key Loc Val Svc} {k k' : Key} {r : Response Loc Val Svc} (h : s.running = some (k', r))
    (hne : k' ≠ k) : s.left k = ⟨[], []⟩ := by
  simp [State.left, h, hne]

/-- The service has what is due to `k`, or will read it. -/
def State.Fresh (T : Handlers Key Loc Val Svc) (s : State Key Loc Val Svc) (k : Key) (svc : Svc) : Prop :=
  s.requested svc = true ∨ ∀ a ∈ (s.due T k).assignments, s.loaded svc a.1 = a.2

/-- Of what is due to `k`, all that is not done is left. -/
structure State.Tracked (T : Handlers Key Loc Val Svc) (s : State Key Loc Val Svc) (k : Key) : Prop where
  suffix : (s.left k).assignments <:+ (s.due T k).assignments
  assigned : ∀ a ∈ (s.due T k).assignments, s.store a.1 = a.2 ∨ a ∈ (s.left k).assignments
  restarted : ∀ svc ∈ (s.due T k).restarts,
    svc ∈ (s.left k).restarts ∨ (s.left k).assignments = [] ∧ s.Fresh T k svc

omit [DecidableEq Loc] [DecidableEq Svc] in
/-- What is due to `k` is as it was where neither the key nor the locations of
its handler are written. -/
theorem State.Tracked.frame {s t : State Key Loc Val Svc} {k : Key} (h : s.Tracked T k) (hleft : t.left k = s.left k)
    (hkey : t.store (T.loc k) = s.store (T.loc k))
    (hstore : ∀ a ∈ (s.due T k).assignments, t.store a.1 = s.store a.1)
    (hfresh : ∀ svc, s.Fresh T k svc → t.Fresh T k svc) : t.Tracked T k := by
  have hdue : t.due T k = s.due T k := due_congr hkey
  constructor
  · rw [hleft, hdue]
    exact h.suffix
  · rw [hleft, hdue]
    intro a ha
    rw [hstore a ha]
    exact h.assigned a ha
  · rw [hleft, hdue]
    intro svc hsvc
    exact (h.restarted svc hsvc).imp_right (And.imp_right (hfresh svc))

omit [DecidableEq Svc] [DecidableEq Key] in
theorem State.Fresh.assign {s : State Key Loc Val Svc} {k : Key} {l : Loc} (h : T.loc k ≠ l) (v : Val) {svc : Svc}
    (hf : s.Fresh T k svc) : (s.assign T l v).Fresh T k svc := by
  unfold State.Fresh
  rw [due_congr (s := s) (by simp [Function.update_of_ne h])]
  exact hf

omit [DecidableEq Loc] [DecidableEq Key] in
theorem State.Fresh.request {s : State Key Loc Val Svc} {k : Key} {svc : Svc} (h : s.Fresh T k svc) (other : Svc)
    {running : Option (Key × Response Loc Val Svc)} :
    State.Fresh T { s with requested := Function.update s.requested other true, running := running } k svc := by
  refine h.imp_left fun hreq => ?_
  by_cases hs : svc = other
  · subst hs
    exact Function.update_self svc true s.requested
  · exact (Function.update_of_ne hs true s.requested).trans hreq

omit [DecidableEq Svc] in
/-- A location of another handler, or of none. -/
theorem State.Tracked.assign {s : State Key Loc Val Svc} {k : Key} (h : s.Tracked T k) {l : Loc}
    (hl : T.owner l ≠ some k) (v : Val) : (s.assign T l v).Tracked T k := by
  have hkey : T.loc k ≠ l := by
    rintro rfl
    exact hl (T.owner_loc k)
  refine h.frame rfl ?_ ?_ fun svc hf => hf.assign hkey v
  · simp [Function.update_of_ne hkey]
  · intro a ha
    have hne : a.1 ≠ l := by
      rintro rfl
      exact hl (owner_due ha)
    simp [Function.update_of_ne hne]

omit [DecidableEq Loc] [DecidableEq Svc] in
/-- A handler that starts has everything left to do. -/
theorem tracked_take {s : State Key Loc Val Svc} {k : Key} (h : s.running = some (k, s.due T k)) : s.Tracked T k := by
  have hleft : s.left k = s.due T k := left_self h
  refine ⟨hleft ▸ List.suffix_refl _, ?_, ?_⟩ <;> rw [hleft]
  · exact fun a ha => .inr ha
  · exact fun svc hsvc => .inl hsvc

omit [DecidableEq Loc] in
/-- A service that starts reads what is assigned by then. -/
theorem State.Tracked.load {s : State Key Loc Val Svc} {k : Key} (h : s.Tracked T k) (svc : Svc) :
    State.Tracked T { s with loaded := Function.update s.loaded svc s.store,
                             requested := Function.update s.requested svc false } k := by
  refine ⟨h.suffix, h.assigned, ?_⟩
  intro other hother
  rcases h.restarted other hother with hleft | ⟨hnil, hfresh⟩
  · exact .inl hleft
  · refine .inr ⟨hnil, ?_⟩
    by_cases hs : other = svc
    · subst hs
      right
      intro a ha
      have hstore : s.store a.1 = a.2 := by
        rcases h.assigned a ha with hstore | hleft
        · exact hstore
        · rw [hnil] at hleft
          cases hleft
      simpa using hstore
    · unfold State.Fresh
      simp only [Function.update_of_ne hs]
      exact hfresh

/-- A handler that runs has a response of its own. -/
def State.Runs (T : Handlers Key Loc Val Svc) (s : State Key Loc Val Svc) : Prop :=
  ∀ k r, s.running = some (k, r) →
    ∃ v, r.assignments <:+ (T.handle k v).assignments ∧ r.restarts <:+ (T.handle k v).restarts

/-- Nobody else writes a location of a handler, keys apart. -/
def Event.Outside (T : Handlers Key Loc Val Svc) : Event Loc Val Svc → Prop
  | .set l _ => ∀ k, T.owner l = some k → T.loc k = l
  | _ => True

omit [DecidableEq Key] in
theorem runs_step {s : State Key Loc Val Svc} (h : s.Runs T) (e : Event Loc Val Svc) : (s.step T e).Runs T := by
  cases e with
  | set l v => exact h
  | load svc => exact h
  | turn =>
    rcases turn_cases (T := T) s with ⟨-, heq⟩ | hturn
    · rw [State.step, heq]
      exact h
    · intro k r hr
      rw [State.step] at hr
      generalize s.turn T = t at hturn hr
      cases hturn with
      | take k' ks hrunning hpending =>
        cases hr
        exact ⟨_, List.suffix_refl _, List.suffix_refl _⟩
      | assign k' a as svcs hrunning =>
        cases hr
        obtain ⟨v, hv, hsvcs⟩ := h _ _ hrunning
        exact ⟨v, (List.suffix_cons a as).trans hv, hsvcs⟩
      | restart k' svc svcs hrunning =>
        cases hr
        obtain ⟨v, hv, hsvcs⟩ := h _ _ hrunning
        exact ⟨v, hv, (List.suffix_cons svc svcs).trans hsvcs⟩
      | finish k' hrunning => cases hr

omit [DecidableEq Svc] in
/-- The handler of `k` makes an assignment. One to `k` itself triggers it again. -/
theorem State.Tracked.assign_self {s : State Key Loc Val Svc} {k : Key} {a : Loc × Val} {as : List (Loc × Val)}
    {svcs : List Svc} (h : s.Tracked T k) (hrunning : s.running = some (k, ⟨a :: as, svcs⟩)) :
    T.loc k = a.1 ∨ State.Tracked T { s.assign T a.1 a.2 with running := some (k, ⟨as, svcs⟩) } k := by
  by_cases hkey : T.loc k = a.1
  · exact .inl hkey
  · right
    have hdue : State.due T { s.assign T a.1 a.2 with running := some (k, ⟨as, svcs⟩) } k = s.due T k :=
      due_congr (by simp [Function.update_of_ne hkey])
    have hleft : State.left { s.assign T a.1 a.2 with running := some (k, ⟨as, svcs⟩) } k = ⟨as, svcs⟩ := left_self rfl
    obtain ⟨hsuffix, hassigned, hrestarted⟩ := h
    rw [left_self hrunning] at hsuffix hassigned hrestarted
    refine ⟨?_, ?_, ?_⟩ <;> rw [hdue, hleft]
    · exact (List.suffix_cons a as).trans hsuffix
    · intro b hb
      by_cases hab : b.1 = a.1
      · have heq : b = a := List.inj_on_of_nodup_map (T.nodup k _) hb (hsuffix.subset List.mem_cons_self) hab
        left
        rw [heq]
        exact Function.update_self a.1 a.2 s.store
      · rcases hassigned b hb with hstore | hmem
        · left
          rw [← hstore]
          exact Function.update_of_ne hab a.2 s.store
        · right
          exact List.mem_of_ne_of_mem (fun heq => hab (congrArg Prod.fst heq)) hmem
    · intro svc hsvc
      rcases hrestarted svc hsvc with hmem | ⟨hnil, -⟩
      · exact .inl hmem
      · cases hnil

omit [DecidableEq Loc] in
/-- The handler of `k` asks for a restart. -/
theorem State.Tracked.restart_self {s : State Key Loc Val Svc} {k : Key} {svc : Svc} {svcs : List Svc}
    (h : s.Tracked T k) (hrunning : s.running = some (k, ⟨[], svc :: svcs⟩)) :
    State.Tracked T { s with requested := Function.update s.requested svc true, running := some (k, ⟨[], svcs⟩) } k := by
  have hleft : State.left { s with requested := Function.update s.requested svc true,
                                   running := some (k, ⟨[], svcs⟩) } k = ⟨[], svcs⟩ := left_self rfl
  obtain ⟨hsuffix, hassigned, hrestarted⟩ := h
  rw [left_self hrunning] at hsuffix hassigned hrestarted
  refine ⟨?_, ?_, ?_⟩ <;> rw [hleft]
  · exact hsuffix
  · exact hassigned
  · intro other hother
    rcases hrestarted other hother with hmem | ⟨-, hfresh⟩
    · rcases List.mem_cons.1 hmem with rfl | hmem
      · exact .inr ⟨rfl, .inl (Function.update_self other true s.requested)⟩
      · exact .inl hmem
    · exact .inr ⟨rfl, hfresh.request svc⟩

/-- A turn does some of what is left about `k`, or has nothing to do with it. -/
theorem tracked_turn {s t : State Key Loc Val Svc} (hruns : s.Runs T) (hturn : s.Turns T t) {k : Key}
    (h : k ∈ s.pending ∨ s.Tracked T k) : k ∈ t.pending ∨ t.Tracked T k := by
  cases hturn with
  | take k' ks hrunning hpending =>
    by_cases hk : k' = k
    · subst hk
      exact .inr (tracked_take rfl)
    · rw [hpending] at h
      refine h.imp (List.mem_of_ne_of_mem (Ne.symm hk)) fun h => ?_
      refine h.frame ?_ rfl (fun _ _ => rfl) fun _ hf => hf
      rw [left_none hrunning, left_ne rfl hk]
  | assign k' a as svcs hrunning =>
    obtain ⟨v, hv, -⟩ := hruns _ _ hrunning
    have howner : T.owner a.1 = some k' := T.owner_handle (hv.subset List.mem_cons_self)
    rcases h with h | h
    · exact .inl (List.mem_append_left _ h)
    · by_cases hk : k' = k
      · subst hk
        exact (h.assign_self hrunning).imp_left fun hkey => List.mem_append_right _ (mem_key.2 hkey)
      · right
        refine (h.assign (l := a.1) (by rw [howner]; simpa using hk) a.2).frame ?_ rfl (fun _ _ => rfl) fun _ hf => hf
        rw [left_ne rfl hk]
        exact (left_ne hrunning hk).symm
  | restart k' svc svcs hrunning =>
    refine h.imp_right fun h => ?_
    by_cases hk : k' = k
    · subst hk
      exact h.restart_self hrunning
    · refine h.frame ?_ rfl (fun _ _ => rfl) fun _ hf => hf.request svc
      rw [left_ne hrunning hk, left_ne rfl hk]
  | finish k' hrunning =>
    refine h.imp_right fun h => h.frame ?_ rfl (fun _ _ => rfl) fun _ hf => hf
    rw [left_none rfl]
    by_cases hk : k' = k
    · subst hk
      exact (left_self hrunning).symm
    · exact (left_ne hrunning hk).symm

theorem tracked_step {s : State Key Loc Val Svc} (hruns : s.Runs T) {k : Key} (h : k ∈ s.pending ∨ s.Tracked T k)
    {e : Event Loc Val Svc} (he : e.Outside T) : k ∈ (s.step T e).pending ∨ (s.step T e).Tracked T k := by
  cases e with
  | set l v =>
    rcases h with h | h
    · exact .inl (List.mem_append_left _ h)
    · by_cases hl : T.owner l = some k
      · exact .inl (List.mem_append_right _ (mem_key.2 (he k hl)))
      · exact .inr (h.assign hl v)
  | turn =>
    rcases turn_cases (T := T) s with ⟨-, heq⟩ | hturn
    · rw [State.step, heq]
      exact h
    · exact tracked_turn hruns hturn h
  | load svc => exact h.imp_right fun h => h.load svc

/-- After any run, a key that was triggered, or that another party has written, is
triggered or has all that is not done left. -/
theorem tracked_run {s : State Key Loc Val Svc} (hruns : s.Runs T) {es : List (Event Loc Val Svc)}
    (hes : ∀ e ∈ es, e.Outside T) {k : Key}
    (h : (∃ v, .set (T.loc k) v ∈ es) ∨ k ∈ s.pending ∨ s.Tracked T k) :
    k ∈ (Runs.run (State.step T) s es).pending ∨ (Runs.run (State.step T) s es).Tracked T k := by
  induction es generalizing s with
  | nil =>
    rcases h with ⟨v, hv⟩ | h
    · cases hv
    · exact h
  | cons e es ih =>
    rw [List.forall_mem_cons] at hes
    refine ih (runs_step hruns e) hes.2 ?_
    rcases h with ⟨v, hv⟩ | h
    · rcases List.mem_cons.1 hv with rfl | hv
      · exact .inr (.inl (List.mem_append_right _ (mem_key.2 rfl)))
      · exact .inl ⟨v, hv⟩
    · exact .inr (tracked_step hruns h hes.1)

/-- The locations are as the handler of `k` leaves them, and so are the services,
or they will be. -/
def State.Agrees (T : Handlers Key Loc Val Svc) (s : State Key Loc Val Svc) (k : Key) : Prop :=
  (∀ a ∈ (s.due T k).assignments, s.store a.1 = a.2) ∧ ∀ svc ∈ (s.due T k).restarts, s.Fresh T k svc

omit [DecidableEq Loc] [DecidableEq Svc] in
theorem tracked_iff {s : State Key Loc Val Svc} (h : s.running = none) {k : Key} : s.Tracked T k ↔ s.Agrees T k := by
  constructor
  · rintro ⟨-, hassigned, hrestarted⟩
    rw [left_none h] at hassigned hrestarted
    exact ⟨by simpa using hassigned, by simpa using hrestarted⟩
  · rintro ⟨hassigned, hrestarted⟩
    refine ⟨?_, ?_, ?_⟩ <;> rw [left_none h]
    · exact List.nil_suffix
    · exact fun a ha => .inl (hassigned a ha)
    · exact fun svc hsvc => .inr ⟨rfl, hrestarted svc hsvc⟩

/-! ## How long it takes -/

/-- The assignments to the key itself. -/
def Handlers.selfs (T : Handlers Key Loc Val Svc) (k : Key) (as : List (Loc × Val)) : Nat :=
  as.countP fun a => a.1 = T.loc k

/-- What a trigger takes at most, where no handler does more than `c` things. -/
def Handlers.cost (T : Handlers Key Loc Val Svc) (c : Nat) (store : Loc → Val) (k : Key) : Nat :=
  c * (1 + T.selfs k (T.handle k (store (T.loc k))).assignments)

def State.turnsLeft (T : Handlers Key Loc Val Svc) (c : Nat) (s : State Key Loc Val Svc) : Nat :=
  (s.pending.map (T.cost c s.store)).sum +
    match s.running with
    | none => 0
    | some (k, r) => r.assignments.length + r.restarts.length + 1 + c * T.selfs k r.assignments

omit [DecidableEq Svc] [DecidableEq Key] in
theorem selfs_le_one (k : Key) {as : List (Loc × Val)} (h : (as.map Prod.fst).Nodup) : T.selfs k as ≤ 1 := by
  have hcount := List.nodup_iff_count_le_one.1 h (T.loc k)
  rw [List.count_eq_countP, List.countP_map] at hcount
  exact hcount

omit [DecidableEq Svc] [DecidableEq Key] in
theorem selfs_eq_zero {k : Key} {as : List (Loc × Val)} (h : ∀ a ∈ as, a.1 ≠ T.loc k) : T.selfs k as = 0 := by
  rw [Handlers.selfs, List.countP_eq_zero]
  simpa using h

omit [DecidableEq Svc] [DecidableEq Key] in
/-- Once a handler has written its key, it has no reason to do so again. -/
theorem cost_update_self {store : Loc → Val} {k : Key} {a : Loc × Val} {v : Val} (c : Nat)
    (ha : a ∈ (T.handle k v).assignments) (hkey : T.loc k = a.1) : T.cost c (Function.update store a.1 a.2) k = c := by
  have hzero : T.selfs k (T.handle k (Function.update store a.1 a.2 (T.loc k))).assignments = 0 := by
    apply selfs_eq_zero
    rw [hkey, Function.update_self, ← hkey]
    apply T.rests (v := v)
    rwa [hkey]
  rw [Handlers.cost, hzero, Nat.mul_one]

omit [DecidableEq Svc] [DecidableEq Key] in
/-- An assignment by a handler makes no trigger take longer. -/
theorem cost_update_le {store : Loc → Val} {k : Key} {a : Loc × Val} {v : Val} (c : Nat)
    (ha : a ∈ (T.handle k v).assignments) (k' : Key) :
    T.cost c (Function.update store a.1 a.2) k' ≤ T.cost c store k' := by
  by_cases hkey : T.loc k' = a.1
  · have hk : k' = k := by
      have howner := T.owner_handle ha
      rw [← hkey, T.owner_loc] at howner
      exact Option.some.inj howner
    subst hk
    rw [cost_update_self c ha hkey]
    exact Nat.le_mul_of_pos_right c (Nat.le_add_right 1 _)
  · apply Nat.le_of_eq
    unfold Handlers.cost
    rw [Function.update_of_ne hkey]

def Event.isTurn : Event Loc Val Svc → Bool
  | .turn => true
  | _ => false

def Event.isSet : Event Loc Val Svc → Bool
  | .set _ _ => true
  | _ => false

section Bounded

variable {c : Nat} (hc : ∀ k v, (T.handle k v).assignments.length + (T.handle k v).restarts.length + 2 ≤ c)

include hc

omit [DecidableEq Key] in
/-- A turn is one turn less. -/
theorem turnsLeft_turn {s t : State Key Loc Val Svc} (hruns : s.Runs T) (hturn : s.Turns T t) :
    t.turnsLeft T c + 1 ≤ s.turnsLeft T c := by
  cases hturn with
  | take k ks hrunning hpending =>
    have hlen := hc k (s.store (T.loc k))
    simp only [State.turnsLeft, State.due, hrunning, hpending, List.map_cons, List.sum_cons, Handlers.cost, Nat.mul_add,
      Nat.mul_one]
    omega
  | assign k a as svcs hrunning =>
    obtain ⟨v, hv, -⟩ := hruns _ _ hrunning
    have ha : a ∈ (T.handle k v).assignments := hv.subset List.mem_cons_self
    have hpending : (s.pending.map (T.cost c (Function.update s.store a.1 a.2))).sum ≤
        (s.pending.map (T.cost c s.store)).sum :=
      List.sum_le_sum fun k' _ => cost_update_le c ha k'
    simp only [State.turnsLeft, hrunning, assign_store, assign_pending, List.map_append, List.sum_append,
      List.length_cons]
    by_cases hkey : T.loc k = a.1
    · have hself : T.key a.1 = some k := by simpa using mem_key.2 hkey
      have hselfs : T.selfs k (a :: as) = T.selfs k as + 1 := by simp [Handlers.selfs, hkey]
      rw [hself, hselfs]
      simp only [Option.toList_some, List.map_singleton, List.sum_singleton, cost_update_self c ha hkey, Nat.mul_add,
        Nat.mul_one]
      omega
    · have hnone : (T.key a.1).toList = [] := by
        apply List.eq_nil_iff_forall_not_mem.2
        intro k' hk'
        have howner := T.owner_handle ha
        rw [← mem_key.1 hk', T.owner_loc, Option.some.injEq] at howner
        subst howner
        exact hkey (mem_key.1 hk')
      have hselfs : T.selfs k (a :: as) = T.selfs k as := by simp [Handlers.selfs, Ne.symm hkey]
      rw [hnone, hselfs]
      simp only [List.map_nil, List.sum_nil]
      omega
  | restart k svc svcs hrunning =>
    simp only [State.turnsLeft, hrunning, List.length_cons]
    omega
  | finish k hrunning =>
    simp only [State.turnsLeft, hrunning]
    omega

omit [DecidableEq Svc] [DecidableEq Key] in
/-- A bound that does not depend on the store. -/
theorem turnsLeft_le {s : State Key Loc Val Svc} (hruns : s.Runs T) :
    s.turnsLeft T c ≤ 2 * c * (s.pending.length + 1) := by
  have hcost : ∀ k, T.cost c s.store k ≤ 2 * c := by
    intro k
    have hself := selfs_le_one (T := T) k (T.nodup k (s.store (T.loc k)))
    rw [Handlers.cost, Nat.mul_comm 2 c]
    exact Nat.mul_le_mul_left c (by omega)
  have hpending : (s.pending.map (T.cost c s.store)).sum ≤ s.pending.length * (2 * c) := by
    have hle := List.sum_le_card_nsmul (s.pending.map (T.cost c s.store)) (2 * c) (by simpa using fun k _ => hcost k)
    simpa using hle
  rw [Nat.mul_add, Nat.mul_one, Nat.mul_comm]
  unfold State.turnsLeft
  split
  · omega
  · rename_i k r hrunning
    obtain ⟨v, hv, hsvcs⟩ := hruns k r hrunning
    have hself := selfs_le_one (T := T) k (hv.map Prod.fst |>.sublist.nodup (T.nodup k v))
    have hmul : c * T.selfs k r.assignments ≤ c * 1 := Nat.mul_le_mul_left c hself
    have hlen := hc k v
    have hassignments := hv.length_le
    have hrestarts := hsvcs.length_le
    omega

omit [DecidableEq Key] in
theorem turnsLeft_step_turn {s : State Key Loc Val Svc} (hruns : s.Runs T) :
    (s.step T .turn).turnsLeft T c ≤ s.turnsLeft T c - 1 := by
  rcases turn_cases (T := T) s with ⟨⟨hrunning, hpending⟩, heq⟩ | hturn
  · rw [State.step, heq]
    simp [State.turnsLeft, hrunning, hpending]
  · exact Nat.le_sub_one_of_lt (turnsLeft_turn hc hruns hturn)

omit [DecidableEq Svc] [DecidableEq Key] in
theorem atRest_of_turnsLeft {s : State Key Loc Val Svc} (h : s.turnsLeft T c = 0) : s.AtRest := by
  rw [State.turnsLeft, Nat.add_eq_zero_iff] at h
  obtain ⟨hpending, hrunning⟩ := h
  constructor
  · cases hr : s.running with
    | none => rfl
    | some p => simp [hr] at hrunning
  · cases hp : s.pending with
    | nil => rfl
    | cons k ks =>
      have hlen := hc k (s.store (T.loc k))
      rw [hp, List.map_cons, List.sum_cons, Handlers.cost, Nat.mul_add, Nat.mul_one] at hpending
      omega

omit [DecidableEq Key] in
/-- Left alone for enough turns, nothing is left to do. -/
theorem atRest_run {s : State Key Loc Val Svc} (hruns : s.Runs T) {es : List (Event Loc Val Svc)}
    (hes : ∀ e ∈ es, Event.isSet e = false) (hturns : 2 * c * (s.pending.length + 1) ≤ es.countP Event.isTurn) :
    (Runs.run (State.step T) s es).AtRest := by
  have hzero : (Runs.run (State.step T) s es).turnsLeft T c ≤ s.turnsLeft T c - es.countP Event.isTurn := by
    refine Runs.run_measure (J := State.Runs T) (fun s e h _ => runs_step h e) ?_ ?_ hruns hes
    · rintro s (⟨l, v⟩ | _ | svc) h hset
      · cases hset
      · exact Nat.le_trans (turnsLeft_step_turn hc h) (Nat.sub_le _ 1)
      · exact Nat.le_refl _
    · rintro s (⟨l, v⟩ | _ | svc) h - hturn
      · cases hturn
      · exact turnsLeft_step_turn hc h
      · cases hturn
  have hbound := turnsLeft_le hc hruns
  generalize Runs.run (State.step T) s es = t at hzero
  exact atRest_of_turnsLeft hc (by omega)

end Bounded

end Triggers

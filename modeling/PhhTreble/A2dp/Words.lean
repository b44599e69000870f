import PhhTreble.A2dp.Bits
/-!
# A2dpBits in machine words

`A2dpBits` reads a range into an `unsigned` and writes one from an `int`, both
of 32 bits. For ranges of at most 32 bits these are the operations on numbers.
-/

namespace PhhTreble.A2dpBits

def getRange32 (data : Bytes) (range : Range) : BitVec 32 :=
  (List.range range.len).foldl
    (fun v i => v ||| (BitVec.ofNat 32 (get data (range.first + i)).toNat <<< ((range.len - 1) - i))) 0

/-- The shift of an `int` is arithmetic. -/
def setRange32 (data : Bytes) (range : Range) (value : BitVec 32) : Bytes :=
  (List.range range.len).foldl
    (fun d i => set d (range.first + i) (value.sshiftRight ((range.len - 1) - i) &&& 1 != 0)) data

/-- The loop of `find_active_bit`, with `n` positions left. -/
def skipZeros32 (v : BitVec 32) : Nat → Nat → Nat
  | i, 0 => i
  | i, n + 1 => if (v >>> i) &&& 1 = 0 then skipZeros32 v (i + 1) n else i

def findActiveBit32 (data : Bytes) (range : Range) : Int :=
  let v := getRange32 data range
  let i := skipZeros32 v 0 range.len
  if i < range.len ∧ v ^^^ (1 <<< i) = 0 then range.first + (range.len - 1) - i else -1

/-! ## Agreement with numbers -/

theorem toNat_bit (b : Bool) {k : Nat} (hk : k < 32) : (BitVec.ofNat 32 b.toNat <<< k).toNat = b.toNat <<< k := by
  have hpow : 2 ^ k < 2 ^ 32 := Nat.pow_lt_pow_right (by decide) hk
  have hbit : b.toNat ≤ 1 := Bool.toNat_le b
  have hlt : b.toNat * 2 ^ k < 2 ^ 32 := lt_of_le_of_lt (Nat.mul_le_mul_right _ hbit) (by rwa [Nat.one_mul])
  have hmod : b.toNat % 2 ^ 32 = b.toNat := Nat.mod_eq_of_lt (by omega)
  rw [BitVec.toNat_shiftLeft, BitVec.toNat_ofNat, hmod, Nat.shiftLeft_eq, Nat.mod_eq_of_lt hlt]

theorem toNat_getRange32 (data : Bytes) {r : Range} (hr : r.len ≤ 32) : (getRange32 data r).toNat = getRange data r := by
  have hfold : ∀ (is : List Nat) (v : BitVec 32), (∀ i ∈ is, i < r.len) →
      (is.foldl (fun v i => v ||| (BitVec.ofNat 32 (get data (r.first + i)).toNat <<< ((r.len - 1) - i))) v).toNat =
        is.foldl (fun v i => v ||| ((get data (r.first + i)).toNat <<< ((r.len - 1) - i))) v.toNat := by
    intro is
    induction is with
    | nil => intro v _; rfl
    | cons i is ih =>
      intro v h
      obtain ⟨hi, his⟩ := List.forall_mem_cons.1 h
      rw [List.foldl_cons, List.foldl_cons, ih _ his, BitVec.toNat_or, toNat_bit _ (by omega)]
  exact hfold _ 0 fun i hi => List.mem_range.1 hi

theorem and_one_ne_zero (x : BitVec 32) : (x &&& 1 != 0) = (x.toInt % 2 == 1) := by
  have hand : (x &&& 1).toNat = x.toNat % 2 := Nat.and_one_is_mod x.toNat
  have hmod : x.toInt % 2 = (x.toNat % 2 : Nat) := by
    rw [BitVec.toInt_eq_toNat_cond]
    split <;> omega
  rw [Bool.eq_iff_iff, bne_iff_ne, beq_iff_eq, ne_eq, ← BitVec.toNat_inj, hand, hmod]
  have hzero : (0 : BitVec 32).toNat = 0 := rfl
  omega

theorem setRange32_eq (data : Bytes) (r : Range) (v : BitVec 32) : setRange32 data r v = setRange data r v.toInt := by
  unfold setRange32 setRange bitOf
  simp only [and_one_ne_zero, BitVec.toInt_sshiftRight]

theorem skipZeros32_eq (v : BitVec 32) (i n : Nat) : skipZeros32 v i n = skipZeros v.toNat i n := by
  have hzero : ∀ k, (v >>> k) &&& 1 = 0 ↔ (v.toNat >>> k) &&& 1 = 0 := by
    intro k
    rw [← BitVec.toNat_inj]
    rfl
  induction n generalizing i with
  | zero => rfl
  | succ n ih => simp only [skipZeros32, skipZeros, hzero, ih]

theorem findActiveBit32_eq (data : Bytes) {r : Range} (hr : r.len ≤ 32) :
    findActiveBit32 data r = ((findActiveBit data r).map Int.ofNat).getD (-1) := by
  have hv := toNat_getRange32 data hr
  unfold findActiveBit32 findActiveBit
  simp only [skipZeros32_eq, hv]
  have hiff : ∀ i < r.len, getRange32 data r ^^^ (1 <<< i) = 0 ↔ getRange data r ^^^ (1 <<< i) = 0 := by
    intro i hi
    have hone := toNat_bit true (show i < 32 by omega)
    rw [← BitVec.toNat_inj, BitVec.toNat_xor, hv]
    exact Eq.congr_left (congrArg _ hone)
  split
  · rename_i h
    rw [if_pos ⟨h.1, (hiff _ h.1).1 h.2⟩]
    simp only [Option.map_some, Option.getD_some, Int.ofNat_eq_natCast]
    omega
  · rename_i h
    rw [if_neg fun h' => h ⟨h'.1, (hiff _ h'.1).2 h'.2⟩]
    rfl

/-! ## The laws -/

/-- What was written to a range is read back modulo its width, no bit outside
changes, writes to disjoint ranges commute, and the active bit is found exactly
when it is the only one. -/
theorem bits_laws (data : Bytes) (r s : Range) (hr : r.InBounds data) (hs : s.InBounds data) (hlen : r.len ≤ 32)
    (v w : BitVec 32) :
    ((getRange32 (setRange32 data r v) r).toNat : Int) = v.toInt % 2 ^ r.len ∧
      ((setRange32 data r v).length = data.length ∧ ∀ b, b ∉ r → get (setRange32 data r v) b = get data b) ∧
      ((∀ b ∈ r, b ∉ s) → setRange32 (setRange32 data r v) s w = setRange32 (setRange32 data s w) r v) ∧
      (∀ b : Nat, findActiveBit32 data r = b ↔
        b ∈ r ∧ get data b = true ∧ ∀ b' ∈ r, get data b' = true → b' = b) ∧
      (findActiveBit32 data r = -1 ↔ (∀ b ∈ r, get data b = false) ∨
        ∃ b ∈ r, ∃ b' ∈ r, b ≠ b' ∧ get data b = true ∧ get data b' = true) := by
  simp only [setRange32_eq, toNat_getRange32 _ hlen, findActiveBit32_eq _ hlen]
  refine ⟨?_, ⟨length_setRange data r _, fun b hb => ?_⟩, setRange_comm hr hs _ _, fun b => ?_, ?_⟩
  · rw [getRange_setRange hr, Int.toNat_of_nonneg (Int.emod_nonneg _ (by positivity))]
  · rw [get_setRange hr, if_neg hb]
  · rw [← findActiveBit_eq_some]
    cases findActiveBit data r with
    | none => simp
    | some b' => simp
  · rw [← findActiveBit_eq_none]
    cases findActiveBit data r with
    | none => simp
    | some b' => simp

/-- A range across the end of a byte, and one that shares bits with it. -/
theorem bits_laws_two :
    let data : Bytes := [0xff, 0x00]
    let r := Range.span 5 9
    ((getRange32 (setRange32 data r (-3)) r).toNat : Int) = 29 ∧ findActiveBit32 data r = -1 := by
  intro data r
  have hr : r.InBounds data := show 10 ≤ 16 by decide
  have hs : (Range.span 7 12).InBounds data := show 13 ≤ 16 by decide
  have h := bits_laws data r (.span 7 12) hr hs (by decide) (-3) 0
  refine ⟨h.1.trans (by decide), h.2.2.2.2.2 (.inr ⟨5, by decide, 6, by decide, by decide, by decide, by decide⟩)⟩

end PhhTreble.A2dpBits

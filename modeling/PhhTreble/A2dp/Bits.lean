import Mathlib.Algebra.Order.Ring.Int
import Mathlib.Data.Int.Bitwise
import Mathlib.Data.Nat.Bitwise
import Mathlib.Tactic.Linarith
import Mathlib.Tactic.Ring
import Mathlib.Tactic.Zify
/-!
# A2dpBits

The bit view both offload codecs take of a capability or configuration vector:
bit 0 is the most significant bit of byte 0, and a range is read most
significant bit first. Every codec lemma goes through `get`: what a write does
to it (`get_set`, `get_setRange`) and what a range read or a search for the
active bit says about it (`testBit_getRange`, `findActiveBit_eq_some`).
-/

namespace PhhTreble.A2dpBits

/-- A `std::vector<uint8_t>`. -/
abbrev Bytes := List (BitVec 8)

structure Range where
  first : Nat
  len : Nat
deriving DecidableEq, Repr

/-- The constructor `Range(int first, int last)`. -/
def Range.span (first last : Nat) : Range := ⟨first, last - first + 1⟩

/-- The constructor `Range(int index)`. -/
def Range.single (index : Nat) : Range := ⟨index, 1⟩

instance : Membership Nat Range := ⟨fun r b => r.first ≤ b ∧ b < r.first + r.len⟩

theorem mem_range {r : Range} {b : Nat} : b ∈ r ↔ r.first ≤ b ∧ b < r.first + r.len := Iff.rfl

instance (b : Nat) (r : Range) : Decidable (b ∈ r) := inferInstanceAs (Decidable (_ ∧ _))

/-- The range lies inside the vector. -/
def Range.InBounds (r : Range) (data : Bytes) : Prop := r.first + r.len ≤ 8 * data.length

def get (data : Bytes) (bit : Nat) : Bool :=
  (data.getD (bit >>> 3) 0 >>> (7 - (bit &&& 7))) &&& 1 == 1

def getRange (data : Bytes) (range : Range) : Nat :=
  (List.range range.len).foldl
    (fun v i => v ||| ((get data (range.first + i)).toNat <<< ((range.len - 1) - i))) 0

def set (data : Bytes) (bit : Nat) (value : Bool) : Bytes :=
  let m := 1#8 <<< (7 - (bit &&& 7))
  if value then data.modify (bit >>> 3) (· ||| m) else data.modify (bit >>> 3) (· &&& ~~~m)

/-- `(value >> n) & 1`; the value is an `int`, so the shift is arithmetic. -/
def bitOf (value : Int) (n : Nat) : Bool := (value >>> n) % 2 == 1

def setRange (data : Bytes) (range : Range) (value : Int) : Bytes :=
  (List.range range.len).foldl
    (fun d i => set d (range.first + i) (bitOf value ((range.len - 1) - i))) data

/-- The loop `for (; i < len && ((v >> i) & 1) == 0; i++)` of `find_active_bit`,
with `n` positions left. -/
def skipZeros (v : Nat) : Nat → Nat → Nat
  | i, 0 => i
  | i, n + 1 => if (v >>> i) &&& 1 = 0 then skipZeros v (i + 1) n else i

/-- `find_active_bit`, with `none` for the result -1. -/
def findActiveBit (data : Bytes) (range : Range) : Option Nat :=
  let v := getRange data range
  let i := skipZeros v 0 range.len
  if i < range.len ∧ v ^^^ (1 <<< i) = 0 then some (range.first + (range.len - 1) - i) else none

/-! ## One bit -/

theorem and_seven (bit : Nat) : bit &&& 7 = bit % 8 := Nat.and_two_pow_sub_one_eq_mod bit 3

theorem shiftRight_three (bit : Nat) : bit >>> 3 = bit / 8 := Nat.shiftRight_eq_div_pow bit 3

theorem get_eq (data : Bytes) (bit : Nat) : get data bit = (data.getD (bit / 8) 0).getLsbD (7 - bit % 8) := by
  have h : ∀ (x : BitVec 8) (k : Nat), ((x >>> k) &&& 1 == 1) = x.getLsbD k := by
    intro x k
    rw [Bool.eq_iff_iff, beq_iff_eq]
    constructor
    · intro h
      have := congrArg (·.getLsbD 0) h
      simpa using this
    · intro h
      apply BitVec.eq_of_getLsbD_eq
      intro i hi
      cases i with
      | zero => simpa using h
      | succ i => simp [BitVec.getLsbD_one]
  rw [get, h, shiftRight_three, and_seven]

@[simp] theorem length_set (data : Bytes) (bit : Nat) (v : Bool) : (set data bit v).length = data.length := by
  unfold set; dsimp only; split <;> simp

theorem getD_modify (data : Bytes) (i j : Nat) (f : BitVec 8 → BitVec 8) :
    (data.modify i f).getD j 0 = if i = j ∧ j < data.length then f (data.getD j 0) else data.getD j 0 := by
  by_cases hj : j < data.length
  · simp only [List.getD_eq_getElem?_getD, List.getElem?_modify, List.getElem?_eq_getElem hj, hj, and_true]
    split <;> rfl
  · simp [List.getD_eq_getElem?_getD, hj]

theorem getLsbD_mask {i j : Nat} (hj : j < 8) : (1#8 <<< i).getLsbD j = decide (j = i) := by
  rw [BitVec.getLsbD_shiftLeft, BitVec.getLsbD_one, Bool.eq_iff_iff]
  simp only [hj, Nat.ofNat_pos, decide_true, Bool.true_and, Bool.and_eq_true, Bool.not_eq_true',
    decide_eq_true_eq, decide_eq_false_iff_not]
  omega

theorem getLsbD_or_mask (x : BitVec 8) {i j : Nat} (hj : j < 8) :
    (x ||| 1#8 <<< i).getLsbD j = (x.getLsbD j || decide (j = i)) := by
  rw [BitVec.getLsbD_or, getLsbD_mask hj]

theorem getLsbD_and_not_mask (x : BitVec 8) {i j : Nat} (hj : j < 8) :
    (x &&& ~~~(1#8 <<< i)).getLsbD j = (x.getLsbD j && !decide (j = i)) := by
  rw [BitVec.getLsbD_and, BitVec.getLsbD_not, getLsbD_mask hj]
  simp [hj]

/-- A write changes the bit it names and no other. -/
theorem get_set (data : Bytes) (bit b : Nat) (v : Bool) :
    get (set data bit v) b = if b = bit ∧ b < 8 * data.length then v else get data b := by
  have hj : 7 - b % 8 < 8 := by omega
  have hlen : b / 8 < data.length ↔ b < 8 * data.length := by omega
  simp only [get_eq, set]
  rw [shiftRight_three, and_seven]
  by_cases hb : b = bit
  · subst hb
    cases v <;> simp only [Bool.false_eq_true, if_false, if_true, getD_modify, hlen, true_and]
    · split
      · rw [getLsbD_and_not_mask _ hj]; simp
      · rfl
    · split
      · rw [getLsbD_or_mask _ hj]; simp
      · rfl
  · -- Another bit of the same byte has another position in the mask.
    have hne : bit / 8 = b / 8 → 7 - b % 8 ≠ 7 - bit % 8 := by omega
    have hno : ¬ (b = bit ∧ b < 8 * data.length) := fun h => hb h.1
    rw [if_neg hno]
    cases v <;> simp only [Bool.false_eq_true, if_false, if_true, getD_modify]
    · split
      · rename_i h; rw [getLsbD_and_not_mask _ hj]; simp [hne h.1]
      · rfl
    · split
      · rename_i h; rw [getLsbD_or_mask _ hj]; simp [hne h.1]
      · rfl

/-! ## Ranges -/

/-- The value read from the first `n` positions of a range has the bits of
those positions, the first position at the top. -/
theorem testBit_foldl (data : Bytes) (first len n j : Nat) (hn : n ≤ len) :
    ((List.range n).foldl (fun v i => v ||| ((get data (first + i)).toNat <<< ((len - 1) - i))) 0).testBit j =
      (decide (len - n ≤ j ∧ j < len) && get data (first + (len - 1 - j))) := by
  induction n with
  | zero =>
    have : ¬ (len ≤ j ∧ j < len) := by omega
    simp [this]
  | succ n ih =>
    rw [List.range_succ, List.foldl_append, List.foldl_cons, List.foldl_nil, Nat.testBit_or, ih (by omega),
      Nat.testBit_shiftLeft]
    by_cases hj : j = len - 1 - n
    · subst hj
      rw [show len - 1 - (len - 1 - n) = n by omega, Nat.sub_self]
      have h1 : decide (len - n ≤ len - 1 - n ∧ len - 1 - n < len) = false := by simp; omega
      have h2 : decide (len - (n + 1) ≤ len - 1 - n ∧ len - 1 - n < len) = true := by simp; omega
      rw [h1, h2]
      cases get data (first + n) <;> simp
    · have hz : (decide (j ≥ len - 1 - n) && (get data (first + n)).toNat.testBit (j - (len - 1 - n))) = false := by
        by_cases h : len - 1 - n ≤ j
        · obtain ⟨k, hk⟩ : ∃ k, j - (len - 1 - n) = k + 1 := ⟨j - (len - 1 - n) - 1, by omega⟩
          rw [hk]
          cases get data (first + n) <;> simp [Nat.testBit_succ]
        · simp [h]
      have hiff : (len - n ≤ j ∧ j < len) ↔ (len - (n + 1) ≤ j ∧ j < len) := by omega
      rw [hz, Bool.or_false, decide_eq_decide.2 hiff]

theorem testBit_getRange (data : Bytes) (r : Range) (j : Nat) :
    (getRange data r).testBit j = (decide (j < r.len) && get data (r.first + (r.len - 1 - j))) := by
  rw [getRange, testBit_foldl data r.first r.len r.len j (Nat.le_refl _)]
  simp

theorem getRange_single (data : Bytes) (index : Nat) : getRange data (.single index) ≠ 0 ↔ get data index = true := by
  have hz : getRange data (.single index) = 0 ||| ((get data (index + 0)).toNat <<< ((1 - 1) - 0)) := rfl
  rw [hz]
  cases get data (index + 0) <;> simp [*]

/-- Two vectors that agree on a range read the same value from it. -/
theorem getRange_congr {data data' : Bytes} {r : Range} (h : ∀ b ∈ r, get data b = get data' b) :
    getRange data r = getRange data' r := by
  refine Nat.eq_of_testBit_eq fun j => ?_
  rw [testBit_getRange, testBit_getRange]
  by_cases hj : j < r.len
  · rw [h (r.first + (r.len - 1 - j)) ⟨by omega, by omega⟩]
  · simp [hj]

@[simp] theorem length_setRange (data : Bytes) (r : Range) (v : Int) :
    (setRange data r v).length = data.length := by
  unfold setRange
  induction (List.range r.len) generalizing data with
  | nil => rfl
  | cons i is ih => rw [List.foldl_cons, ih, length_set]

theorem get_setFold (data : Bytes) (first len : Nat) (v : Int) (n b : Nat) (hin : first + len ≤ 8 * data.length)
    (hn : n ≤ len) :
    get ((List.range n).foldl (fun d i => set d (first + i) (bitOf v ((len - 1) - i))) data) b =
      if first ≤ b ∧ b < first + n then bitOf v (len - 1 - (b - first)) else get data b := by
  induction n with
  | zero => simp
  | succ n ih =>
    have hlen : ∀ m, ((List.range m).foldl (fun d i => set d (first + i) (bitOf v ((len - 1) - i))) data).length =
        data.length := by
      intro m
      induction m with
      | zero => rfl
      | succ m ihm => rw [List.range_succ, List.foldl_append, List.foldl_cons, List.foldl_nil, length_set, ihm]
    rw [List.range_succ, List.foldl_append, List.foldl_cons, List.foldl_nil, get_set, hlen, ih (by omega)]
    by_cases hb : b = first + n
    · subst hb
      rw [if_pos ⟨rfl, by omega⟩, if_pos ⟨by omega, by omega⟩, show first + n - first = n by omega]
    · rw [if_neg (fun h => hb h.1)]
      by_cases hr : first ≤ b ∧ b < first + n
      · rw [if_pos hr, if_pos ⟨hr.1, by omega⟩]
      · rw [if_neg hr, if_neg (by omega)]

/-- A range write changes the bits of the range and no other. -/
theorem get_setRange {data : Bytes} {r : Range} (hin : r.InBounds data) (v : Int) (b : Nat) :
    get (setRange data r v) b = if b ∈ r then bitOf v (r.len - 1 - (b - r.first)) else get data b :=
  get_setFold data r.first r.len v r.len b hin (Nat.le_refl _)

/-- A vector is determined by its bits. -/
theorem eq_of_get_eq {data data' : Bytes} (hlen : data.length = data'.length) (h : ∀ b, get data b = get data' b) :
    data = data' := by
  refine List.ext_getElem hlen fun i hi hi' => BitVec.eq_of_getLsbD_eq fun j hj => ?_
  have hb := h (8 * i + (7 - j))
  have hdiv : (8 * i + (7 - j)) / 8 = i := by omega
  have hmod : 7 - (8 * i + (7 - j)) % 8 = j := by omega
  rw [get_eq, get_eq, hdiv, hmod] at hb
  simpa [List.getD_eq_getElem?_getD, hi, hi'] using hb

/-- Writes to ranges without a common bit commute. -/
theorem setRange_comm {data : Bytes} {r s : Range} (hr : r.InBounds data) (hs : s.InBounds data) (v w : Int)
    (hd : ∀ b ∈ r, b ∉ s) : setRange (setRange data r v) s w = setRange (setRange data s w) r v := by
  have hr' : r.InBounds (setRange data s w) := by rwa [Range.InBounds, length_setRange]
  have hs' : s.InBounds (setRange data r v) := by rwa [Range.InBounds, length_setRange]
  apply eq_of_get_eq
  · simp
  · intro b
    rw [get_setRange hs', get_setRange hr, get_setRange hr', get_setRange hs]
    by_cases hbr : b ∈ r
    · rw [if_neg (hd b hbr), if_pos hbr, if_pos hbr]
    · rw [if_neg hbr, if_neg hbr]

theorem bitOf_emod (v : Int) (len j : Nat) (hj : j < len) : bitOf v j = (v % 2 ^ len).toNat.testBit j := by
  have hnn : 0 ≤ v % 2 ^ len := Int.emod_nonneg _ (by positivity)
  rw [Nat.testBit_eq_decide_div_mod_eq, bitOf, Bool.eq_iff_iff, beq_iff_eq, decide_eq_true_eq,
    Int.shiftRight_eq_div_pow]
  have hcast : (((v % 2 ^ len).toNat / 2 ^ j % 2 : Nat) : Int) = v % 2 ^ len / 2 ^ j % 2 := by
    push_cast [Int.toNat_of_nonneg hnn]; rfl
  have hdiv : v % 2 ^ len / 2 ^ j % 2 = v / 2 ^ j % 2 := by
    -- `v` and `v % 2 ^ len` differ by an even multiple of `2 ^ j`.
    obtain ⟨k, rfl⟩ : ∃ k, len = j + 1 + k := ⟨len - (j + 1), by omega⟩
    have hv : v = v % 2 ^ (j + 1 + k) + 2 ^ j * (2 * (2 ^ k * (v / 2 ^ (j + 1 + k)))) := by
      have := Int.emod_add_mul_ediv v (2 ^ (j + 1 + k))
      rw [pow_add, pow_succ] at this ⊢
      linarith
    have hp : (2 : Int) ^ j ≠ 0 := by positivity
    conv_rhs => rw [hv, Int.add_mul_ediv_left _ _ hp, Int.add_mul_emod_self_left]
  push_cast
  rw [← hdiv, ← hcast]
  omega

/-- A range read gives back what was written, modulo the width of the range. -/
theorem getRange_setRange {data : Bytes} {r : Range} (hin : r.InBounds data) (v : Int) :
    getRange (setRange data r v) r = (v % 2 ^ r.len).toNat := by
  refine Nat.eq_of_testBit_eq fun j => ?_
  rw [testBit_getRange]
  by_cases hj : j < r.len
  · rw [get_setRange hin, if_pos ⟨by omega, by omega⟩,
      show r.len - 1 - (r.first + (r.len - 1 - j) - r.first) = j by omega, bitOf_emod v r.len j hj]
    simp [hj]
  · have hlt : (v % 2 ^ r.len).toNat < 2 ^ j := by
      have h1 : v % 2 ^ r.len < 2 ^ r.len := Int.emod_lt_of_pos _ (by positivity)
      have h2 : (2 : Int) ^ r.len ≤ 2 ^ j := pow_le_pow_right₀ (by norm_num) (by omega)
      have h3 := Int.emod_nonneg v (show (2 : Int) ^ r.len ≠ 0 by positivity)
      zify
      rw [Int.toNat_of_nonneg h3]
      exact lt_of_lt_of_le h1 h2
    rw [Nat.testBit_lt_two_pow hlt]
    simp [hj]

/-! ## The active bit -/

theorem shiftRight_and_one (v i : Nat) : (v >>> i) &&& 1 = 0 ↔ v.testBit i = false := by
  rw [Nat.testBit, Nat.and_comm]
  simp

/-- The scan stops at the lowest set bit, or after its last position. -/
theorem skipZeros_spec (v i n : Nat) :
    i ≤ skipZeros v i n ∧ skipZeros v i n ≤ i + n ∧ (∀ j, i ≤ j → j < skipZeros v i n → v.testBit j = false) ∧
      (skipZeros v i n < i + n → v.testBit (skipZeros v i n) = true) := by
  induction n generalizing i with
  | zero => exact ⟨Nat.le_refl _, Nat.le_refl _, fun j h1 h2 => absurd h2 (Nat.not_lt.2 h1), fun h => absurd h (by simp [skipZeros])⟩
  | succ n ih =>
    rw [skipZeros]
    split
    · rename_i hz
      obtain ⟨h1, h2, h3, h4⟩ := ih (i + 1)
      refine ⟨by omega, by omega, fun j hj hlt => ?_, fun h => h4 (by omega)⟩
      rcases Nat.eq_or_lt_of_le hj with rfl | hj
      · exact (shiftRight_and_one v i).1 hz
      · exact h3 j hj hlt
    · rename_i hz
      refine ⟨Nat.le_refl _, by omega, fun j h1 h2 => absurd h2 (Nat.not_lt.2 h1), fun _ => ?_⟩
      rw [shiftRight_and_one] at hz
      simpa using hz

/-- A power of two has one set bit, and the scan stops there. -/
theorem skipZeros_two_pow {i n : Nat} (hi : i < n) : skipZeros (2 ^ i) 0 n = i := by
  obtain ⟨-, hle, hlow, hset⟩ := skipZeros_spec (2 ^ i) 0 n
  rcases Nat.lt_trichotomy (skipZeros (2 ^ i) 0 n) i with h | h | h
  · have := hset (by omega)
    rw [Nat.testBit_two_pow, decide_eq_true_eq] at this
    exact this.symm
  · exact h
  · have := hlow i (Nat.zero_le _) h
    rw [Nat.testBit_two_pow_self] at this
    cases this

theorem findActiveBit_iff {data : Bytes} {r : Range} {b : Nat} :
    findActiveBit data r = some b ↔
      ∃ i, i < r.len ∧ getRange data r = 2 ^ i ∧ r.first + (r.len - 1) - i = b := by
  rw [findActiveBit]
  constructor
  · intro h
    split at h
    · rename_i hc
      obtain ⟨hi, hx⟩ := hc
      rw [Nat.xor_eq_zero_iff, Nat.one_shiftLeft] at hx
      exact ⟨_, hi, hx, Option.some.inj h⟩
    · cases h
  · rintro ⟨i, hi, hv, rfl⟩
    rw [hv]
    simp only [skipZeros_two_pow hi]
    rw [if_pos ⟨hi, by rw [Nat.one_shiftLeft, Nat.xor_self]⟩]

/-- The value of a range is a power of two when one of its bits is set. -/
theorem getRange_eq_two_pow {data : Bytes} {r : Range} {i : Nat} (hi : i < r.len) :
    getRange data r = 2 ^ i ↔ ∀ b ∈ r, (get data b = true ↔ b = r.first + (r.len - 1) - i) := by
  constructor
  · rintro hv b ⟨hb1, hb2⟩
    have hpos : r.first + (r.len - 1 - (r.len - 1 - (b - r.first))) = b := by omega
    have hj := testBit_getRange data r (r.len - 1 - (b - r.first))
    rw [hv, Nat.testBit_two_pow, hpos] at hj
    have hlt : r.len - 1 - (b - r.first) < r.len := by omega
    rw [decide_eq_true hlt, Bool.true_and] at hj
    rw [← hj, decide_eq_true_eq]
    omega
  · intro h
    refine Nat.eq_of_testBit_eq fun j => ?_
    rw [testBit_getRange, Nat.testBit_two_pow, Bool.eq_iff_iff, Bool.and_eq_true, decide_eq_true_eq, decide_eq_true_eq]
    by_cases hj : j < r.len
    · rw [h _ ⟨by omega, by omega⟩]
      omega
    · exact ⟨fun hx => absurd hx.1 hj, fun hx => absurd (hx ▸ hi) hj⟩

/-- `find_active_bit` returns a bit of the range exactly when it is the only
one that is set. -/
theorem findActiveBit_eq_some {data : Bytes} {r : Range} {b : Nat} :
    findActiveBit data r = some b ↔ b ∈ r ∧ get data b = true ∧ ∀ b' ∈ r, get data b' = true → b' = b := by
  rw [findActiveBit_iff]
  constructor
  · rintro ⟨i, hi, hv, rfl⟩
    have h := (getRange_eq_two_pow hi).1 hv
    have hb : r.first + (r.len - 1) - i ∈ r := ⟨by omega, by omega⟩
    exact ⟨hb, (h _ hb).2 rfl, fun b' hb' hg => (h b' hb').1 hg⟩
  · rintro ⟨hb, hg, huniq⟩
    obtain ⟨hb1, hb2⟩ := hb
    have hi : r.len - 1 - (b - r.first) < r.len := by omega
    have hpos : r.first + (r.len - 1) - (r.len - 1 - (b - r.first)) = b := by omega
    refine ⟨_, hi, (getRange_eq_two_pow hi).2 fun b' hb' => ?_, hpos⟩
    rw [hpos]
    constructor
    · exact huniq b' hb'
    · rintro rfl
      exact hg

/-- It returns -1 exactly when none of the bits is set, or more than one. -/
theorem findActiveBit_eq_none {data : Bytes} {r : Range} :
    findActiveBit data r = none ↔ (∀ b ∈ r, get data b = false) ∨
      ∃ b ∈ r, ∃ b' ∈ r, b ≠ b' ∧ get data b = true ∧ get data b' = true := by
  constructor
  · intro h
    by_contra hn
    obtain ⟨hset, hone⟩ := not_or.1 hn
    obtain ⟨b, hb, hg⟩ : ∃ b ∈ r, get data b = true := by simpa using hset
    have hactive : findActiveBit data r = some b := by
      refine findActiveBit_eq_some.2 ⟨hb, hg, fun b' hb' hg' => ?_⟩
      by_contra hne
      exact hone ⟨b', hb', b, hb, hne, hg', hg⟩
    rw [h] at hactive
    cases hactive
  · intro h
    rw [Option.eq_none_iff_forall_ne_some]
    intro b hb
    obtain ⟨hmem, hg, huniq⟩ := findActiveBit_eq_some.1 hb
    rcases h with hzero | ⟨b₁, h₁, b₂, h₂, hne, hg₁, hg₂⟩
    · rw [hzero b hmem] at hg
      cases hg
    · exact hne ((huniq b₁ h₁ hg₁).trans (huniq b₂ h₂ hg₂).symm)

/-- Two vectors that agree on a range have the same active bit in it. -/
theorem findActiveBit_congr {data data' : Bytes} {r : Range} (h : ∀ b ∈ r, get data b = get data' b) :
    findActiveBit data r = findActiveBit data' r := by
  unfold findActiveBit
  rw [getRange_congr h]

end PhhTreble.A2dpBits

import PhhTreble.A2dp.Bits
/-!
# What the two offload codecs share

The parameters a codec reports, the statuses its parser returns and the
selection chain of both `BuildConfiguration`s.
-/

namespace PhhTreble.A2dp

open A2dpBits

inductive ChannelMode where
  | unknown | mono | stereo | dualmono
deriving DecidableEq, Repr

structure CodecParameters where
  channelMode : ChannelMode
  samplingFrequencyHz : Int
  bitdepth : Int
  minBitrate : Int
  maxBitrate : Int
deriving DecidableEq, Repr

/-- The statuses a parser refuses with; a result `.ok` stands for `A2dpStatus::OK`. -/
inductive A2dpStatus where
  | badLength
  | invalidObjectType | notSupportedObjectType
  | invalidSamplingFrequency | notSupportedSamplingFrequency
  | invalidChannels | notSupportedChannels
  | invalidChannelMode | notSupportedChannelMode
  | invalidBlockLength
  | invalidSubbands | notSupportedSubbands
  | invalidAllocationMethod | notSupportedAllocationMethod
  | invalidMinimumBitpoolValue | notSupportedMinimumBitpoolValue
  | invalidMaximumBitpoolValue | notSupportedMaximumBitpoolValue
  | notSupportedVbr | notSupportedBitRate
deriving DecidableEq, Repr

/-! ## Switches -/

/-- A `switch` that maps each case to its result. -/
def switch {α β : Type} [BEq α] (cases : List (α × β)) (x : α) : Option β := cases.lookup x

theorem mem_of_switch {α β : Type} [BEq α] [LawfulBEq α] {cases : List (α × β)} {x : α} {y : β}
    (h : switch cases x = some y) : (x, y) ∈ cases := by
  obtain ⟨l₁, l₂, rfl, -⟩ := List.lookup_eq_some_iff.1 h
  simp

theorem switch_nil {α β : Type} [BEq α] (x : α) : switch ([] : List (α × β)) x = none := by simp [switch]

theorem switch_cons {α β : Type} [BEq α] [LawfulBEq α] [DecidableEq α] (a x : α) (y : β) (cases : List (α × β)) :
    switch ((a, y) :: cases) x = if x = a then some y else switch cases x := by
  by_cases h : x = a
  · simp [switch, h]
  · simp [switch, List.lookup_cons, h, beq_eq_false_iff_ne.2 h]

/-! ## Selection -/

/-- One selection of `BuildConfiguration`: `if (hint >= 0 && lcaps.get(hint) &&
rcaps.get(hint)) ... else if (lcaps.get(b) && rcaps.get(b)) ...` over the
ranked bits `b`, failing when neither side's capabilities meet. -/
def pick (lcaps rcaps : Bytes) (hint : Option Nat) (ranked : List Nat) : Option Nat :=
  (hint.toList ++ ranked).find? fun bit => get lcaps bit && get rcaps bit

section pick
variable {lcaps rcaps : Bytes} {hint : Option Nat} {ranked : List Nat} {bit : Nat}

theorem pick_nil : pick lcaps rcaps none [] = none := by simp [pick]

theorem pick_cons : pick lcaps rcaps none (bit :: ranked) =
    if get lcaps bit && get rcaps bit then some bit else pick lcaps rcaps none ranked := by
  simp only [pick, Option.toList_none, List.nil_append, List.find?_cons]
  cases get lcaps bit && get rcaps bit <;> rfl

theorem pick_some : pick lcaps rcaps (some bit) ranked =
    if get lcaps bit && get rcaps bit then some bit else pick lcaps rcaps none ranked := pick_cons

theorem pick_mem (h : pick lcaps rcaps hint ranked = some bit) : hint = some bit ∨ bit ∈ ranked := by
  have := List.mem_of_find?_eq_some h
  simpa [Option.mem_toList, or_comm] using this

/-- A selected bit lies where the hint and the ranked bits lie. -/
theorem mem_of_pick {r : Range} (h : pick lcaps rcaps hint ranked = some bit) (hh : ∀ b, hint = some b → b ∈ r)
    (hr : ∀ b ∈ ranked, b ∈ r) : bit ∈ r := (pick_mem h).elim (hh bit) (hr bit)

theorem pick_supported (h : pick lcaps rcaps hint ranked = some bit) :
    get lcaps bit = true ∧ get rcaps bit = true := by
  simpa using List.find?_some h

/-- A hinted bit that both sides have is the one selected. -/
theorem pick_hint {b : Nat} (h : pick lcaps rcaps (some b) ranked = some bit) (hl : get lcaps b = true)
    (hr : get rcaps b = true) : bit = b := by
  rw [pick_some, hl, hr] at h
  exact (Option.some.inj h).symm

end pick

/-! ## A vector with given bits set -/

/-- A zeroed vector of `size` bytes with the bits `bits` set, as both builders
start their configuration. -/
def setBits (size : Nat) (bits : List Nat) : Bytes :=
  bits.foldl (fun config bit => set config bit true) (List.replicate size 0#8)

theorem get_replicate (size b : Nat) : get (List.replicate size 0#8) b = false := by
  rw [get_eq, List.getD_eq_getElem?_getD, List.getElem?_replicate]
  split <;> simp

theorem length_setBits (size : Nat) (bits : List Nat) : (setBits size bits).length = size := by
  unfold setBits
  generalize hd : List.replicate size 0#8 = data
  have hl : data.length = size := by simp [← hd]
  clear hd
  induction bits generalizing data with
  | nil => exact hl
  | cons bit bits ih => exact ih _ (by rw [length_set, hl])

theorem get_foldl_set (data : Bytes) {bits : List Nat} (hin : ∀ bit ∈ bits, bit < 8 * data.length) (b : Nat) :
    get (bits.foldl (fun config bit => set config bit true) data) b = true ↔ b ∈ bits ∨ get data b = true := by
  induction bits generalizing data with
  | nil => simp
  | cons bit bits ih =>
    have h0 := hin bit List.mem_cons_self
    rw [List.foldl_cons, ih _ (fun c hc => by rw [length_set]; exact hin c (List.mem_cons_of_mem _ hc)), get_set,
      List.mem_cons]
    by_cases hb : b = bit
    · simp [hb, h0]
    · simp [hb]

section setBits
variable {size : Nat} {bits : List Nat} (hin : ∀ bit ∈ bits, bit < 8 * size)
include hin

theorem get_setBits (b : Nat) : get (setBits size bits) b = true ↔ b ∈ bits := by
  rw [setBits, get_foldl_set _ (by simpa using hin), get_replicate]
  simp

/-- The only one of the bits that lies in a range is the active bit of the range. -/
theorem findActiveBit_setBits {r : Range} {bit : Nat} (hr : bit ∈ r) (hb : bit ∈ bits)
    (hu : ∀ b ∈ bits, b ∈ r → b = bit) : findActiveBit (setBits size bits) r = some bit :=
  findActiveBit_eq_some.2 ⟨hr, (get_setBits hin bit).2 hb, fun b hbr hg => hu b ((get_setBits hin b).1 hg) hbr⟩

end setBits

end PhhTreble.A2dp

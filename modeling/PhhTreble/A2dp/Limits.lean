import PhhTreble.A2dp.SbcBuild
import PhhTreble.A2dp.Aac
/-!
# Negotiated limits

When the bitpools and the bitrate a successful build writes stay inside both
sides' capabilities. The SBC builder raises the remote's maximum bitpool to the
local one, so only the hint can bring it down again; the AAC builder looks at
the hint and the local bitrate but never at the remote's.
-/

namespace PhhTreble.Sbc

open A2dpBits A2dp

/-! ## The negotiated SBC stream -/

inductive Mode where
  | mono | dualChannel | stereo | jointStereo
deriving DecidableEq, Repr

def Mode.bit : Mode → Nat
  | .mono => kChannelModeMono
  | .dualChannel => kChannelModeDualChannel
  | .stereo => kChannelModeStereo
  | .jointStereo => kChannelModeJointStereo

theorem Mode.bit_inj {m m' : Mode} (h : m.bit = m'.bit) : m = m' := by
  cases m <;> cases m' <;> first | rfl | exact absurd h (by decide)

/-- What decides the bitrate of an SBC stream, the bitpool apart. -/
structure Stream where
  hz : Nat
  mode : Mode
  blocks : Nat
  subbands : Nat
deriving DecidableEq, Repr

/-- The bits of a frame after its header: scale factors, samples, and the join
bits of a joint stereo frame. -/
def Stream.frameBits (s : Stream) (bitpool : Nat) : Nat :=
  4 * s.subbands * (if s.mode = .mono then 1 else 2) +
    s.blocks * bitpool * (if s.mode = .dualChannel then 2 else 1) + (if s.mode = .jointStereo then s.subbands else 0)

def Stream.bitrate (s : Stream) (bitpool : Nat) : Nat :=
  8 * (4 + (s.frameBits bitpool + 7) / 8) * s.hz / (s.blocks * s.subbands)

/-- The stream a remote and a hint lead to: the hinted frequency and mode where
the remote offers them, else the preferred ones it offers. The local side
offers no frequency below 44100. -/
def negotiated (remote : Bytes) (hint : Option CodecParameters) : Stream where
  hz :=
    if (hint.any (·.samplingFrequencyHz == 48000)) && get remote kSamplingFrequency48000 then 48000
    else if get remote kSamplingFrequency44100 then 44100 else 48000
  mode :=
    if hint.any (·.channelMode == .dualmono) && get remote kChannelModeDualChannel then .dualChannel
    else if hint.any (·.channelMode == .mono) && get remote kChannelModeMono then .mono
    else if get remote kChannelModeJointStereo then .jointStereo
    else if get remote kChannelModeStereo then .stereo
    else if get remote kChannelModeDualChannel then .dualChannel else .mono
  blocks :=
    if get remote kBlockLength16 then 16 else if get remote kBlockLength12 then 12
    else if get remote kBlockLength8 then 8 else 4
  subbands := if get remote kSubbands8 then 8 else 4

/-! ## The builder selects the negotiated stream -/

section
variable {remote : Bytes} {hint : Option CodecParameters} {f : Fields} (h : Selects remote hint f)
include h

theorem Selects.hz_eq : getSamplingFrequencyValue (some f.sf) = (negotiated remote hint).hz := by
  have hsf := h.sf
  have l16 : get capabilities kSamplingFrequency16000 = false := rfl
  have l32 : get capabilities kSamplingFrequency32000 = false := rfl
  have l44 : get capabilities kSamplingFrequency44100 = true := rfl
  have l48 : get capabilities kSamplingFrequency48000 = true := rfl
  have v44 : getSamplingFrequencyValue (some kSamplingFrequency44100) = 44100 := rfl
  have v48 : getSamplingFrequencyValue (some kSamplingFrequency48000) = 48000 := rfl
  cases hint with
  | none =>
    simp only [negotiated, Option.bind_none, pick_cons, pick_nil, l44, l48] at hsf ⊢
    grind
  | some hint =>
    simp only [negotiated, Option.bind_some, getSamplingFrequencyBit, switch_cons, switch_nil, Option.any_some] at hsf ⊢
    split_ifs at hsf with h16 h32 h44 h48
    · simp only [h16, pick_some, pick_cons, pick_nil, l16, l44, l48] at hsf ⊢; grind
    · simp only [h32, pick_some, pick_cons, pick_nil, l32, l44, l48] at hsf ⊢; grind
    · simp only [h44, pick_some, pick_cons, pick_nil, l44, l48] at hsf ⊢; grind
    · simp only [h48, pick_some, pick_cons, pick_nil, l44, l48] at hsf ⊢; grind
    · simp only [pick_cons, pick_nil, l44, l48] at hsf ⊢; grind

theorem Selects.mode_eq : f.cm = (negotiated remote hint).mode.bit := by
  have hcm := h.cm
  have lm : get capabilities kChannelModeMono = true := rfl
  have ld : get capabilities kChannelModeDualChannel = true := rfl
  have ls : get capabilities kChannelModeStereo = true := rfl
  have lj : get capabilities kChannelModeJointStereo = true := rfl
  have hor : kChannelModeJointStereo ||| kChannelModeStereo = kChannelModeJointStereo := rfl
  cases hint with
  | none =>
    simp only [negotiated, Option.bind_none, pick_cons, pick_nil, lm, ld, ls, lj] at hcm ⊢
    grind [Mode.bit]
  | some hint =>
    obtain ⟨mode, hz, bitdepth, minBitrate, maxBitrate⟩ := hint
    cases mode
    all_goals
      simp only [negotiated, Option.bind_some, Option.any_some, getChannelModeBit, hor, pick_some, pick_cons, pick_nil,
        lm, ld, ls, lj] at hcm ⊢
      grind [Mode.bit]

theorem Selects.blocks_eq : getBlockLengthValue (some f.bl) = (negotiated remote hint).blocks := by
  have hbl := h.bl
  have l : ∀ b ∈ [kBlockLength4, kBlockLength8, kBlockLength12, kBlockLength16], get capabilities b = true := by decide
  have v16 : getBlockLengthValue (some kBlockLength16) = 16 := rfl
  have v12 : getBlockLengthValue (some kBlockLength12) = 12 := rfl
  have v8 : getBlockLengthValue (some kBlockLength8) = 8 := rfl
  have v4 : getBlockLengthValue (some kBlockLength4) = 4 := rfl
  simp only [negotiated, pick_cons, pick_nil] at hbl ⊢
  grind

theorem Selects.subbands_eq : getSubbandsValue (some f.sb) = (negotiated remote hint).subbands := by
  have hsb := h.sb
  have l : ∀ b ∈ [kSubbands4, kSubbands8], get capabilities b = true := by decide
  have v8 : getSubbandsValue (some kSubbands8) = 8 := rfl
  have v4 : getSubbandsValue (some kSubbands4) = 4 := rfl
  simp only [negotiated, pick_cons, pick_nil] at hsb ⊢
  grind

/-- The bitrate of a built configuration is the negotiated stream's. -/
theorem Selects.bitrate_eq (bitpool : Nat) : getBitrate f.config bitpool = (negotiated remote hint).bitrate bitpool := by
  have hmode : ∀ m : Mode, get f.config m.bit = decide ((negotiated remote hint).mode = m) := by
    intro m
    have hin : m.bit ∈ f.bits ↔ m.bit = f.cm := by
      have hb := f.bounds
      have hm : m.bit ∈ kChannelMode := by cases m <;> decide
      simp only [mem_range, kChannelMode, Range.span] at hm
      simp only [Fields.bits, List.mem_cons, List.not_mem_nil, or_false]
      omega
    rw [Bool.eq_iff_iff, f.get_config, hin, h.mode_eq, decide_eq_true_eq]
    exact ⟨fun he => (Mode.bit_inj he).symm, fun he => by rw [he]⟩
  unfold getBitrate getFrameSize
  have hmono : get f.config kChannelModeMono = _ := hmode .mono
  have hdual : get f.config kChannelModeDualChannel = _ := hmode .dualChannel
  have hjoint : get f.config kChannelModeJointStereo = _ := hmode .jointStereo
  rw [f.active_sf, f.active_bl, f.active_sb, h.hz_eq, h.blocks_eq, h.subbands_eq, hmono, hdual, hjoint]
  simp only [Stream.bitrate, Stream.frameBits, Nat.shiftLeft_eq, Nat.shiftRight_eq_div_pow]
  cases (negotiated remote hint).mode <;> simp

end

/-! ## The SBC limits -/

/-- The remote's bitpools are a range. -/
def ValidBitpools (remote : Bytes) : Prop :=
  2 ≤ getRange remote kMinimumBitpool ∧ getRange remote kMinimumBitpool ≤ getRange remote kMaximumBitpool ∧
    getRange remote kMaximumBitpool ≤ 250

/-- The bitpools written form a range inside the local and the remote one. -/
def BitpoolsWithin (remote cfg : Bytes) : Prop :=
  ValidBitpools remote →
    max (getRange capabilities kMinimumBitpool) (getRange remote kMinimumBitpool) ≤ getRange cfg kMinimumBitpool ∧
      getRange cfg kMinimumBitpool ≤ getRange cfg kMaximumBitpool ∧
      getRange cfg kMaximumBitpool ≤ min (getRange capabilities kMaximumBitpool) (getRange remote kMaximumBitpool)

/-- The hint bounds the bitrate from above. -/
def BoundsBitrate (hint : Option CodecParameters) (bitrate : Int) : Prop :=
  ∃ h, hint = some h ∧ h.maxBitrate = bitrate ∧ bitrate ≠ 0 ∧ h.minBitrate ≤ bitrate

/-- A valid remote range is respected when it goes up to 250 or the hint's upper
bound is no more than what the first bitpool above the range needs, and when
that bound still leaves the remote's minimum bitpool. -/
def BitpoolsAgree (remote : Bytes) (hint : Option CodecParameters) : Prop :=
  ValidBitpools remote →
    (getRange remote kMaximumBitpool = 250 ∨ ∃ bitrate, BoundsBitrate hint bitrate ∧
        bitrate ≤ (negotiated remote hint).bitrate (getRange remote kMaximumBitpool + 1)) ∧
      (getRange remote kMinimumBitpool = 2 ∨ ∀ bitrate, BoundsBitrate hint bitrate →
        (negotiated remote hint).bitrate (getRange remote kMinimumBitpool) < bitrate)

theorem selectBitpool_valid {remote : Bytes} (hv : ValidBitpools remote) (hint : Option CodecParameters) (cfg : Bytes) :
    selectBitpool remote hint cfg =
      (hint.elim (getRange remote kMinimumBitpool) (fun h =>
          max (getRange remote kMinimumBitpool) (getBitpool cfg h.minBitrate)),
        hint.elim 250 (fun h => if h.maxBitrate ≠ 0 ∧ h.maxBitrate ≥ h.minBitrate then getBitpool cfg h.maxBitrate else 250)) := by
  obtain ⟨h1, h2, h3⟩ := hv
  unfold selectBitpool
  dsimp only
  rw [if_neg (by omega), local_bitpools.1, local_bitpools.2, kDefaultMinimumBitpool, kDefaultMaximumBitpool,
    Nat.max_eq_left h1, Nat.max_eq_right h3]
  cases hint with
  | none => rfl
  | some h =>
    simp only [Option.elim]
    rw [Nat.min_eq_right (getBitpool_bounds cfg h.maxBitrate).2]

/-- The written maximum stays in the remote's range exactly when the bound is
at most the bitrate of the next bitpool. -/
theorem getBitpool_le_iff (cfg : Bytes) (bitrate : Int) {b : Nat} (h2 : 2 ≤ b) :
    getBitpool cfg bitrate ≤ b ↔ 250 ≤ b ∨ bitrate ≤ getBitrate cfg (b + 1) := by
  have hle := (getBitpool_bounds cfg bitrate).2
  by_cases hb : 250 ≤ b
  · exact ⟨fun _ => .inl hb, fun _ => by omega⟩
  · have := le_getBitpool cfg bitrate (b := b + 1) (by omega) (by omega)
    omega

theorem bitpoolsWithin_iff {remote cfg : Bytes} {hint : Option CodecParameters}
    (h : buildConfiguration remote hint = some cfg) : BitpoolsWithin remote cfg ↔ BitpoolsAgree remote hint := by
  obtain ⟨-, f, hsel, rfl⟩ := buildConfiguration_eq_some h
  refine forall_congr' fun hv => ?_
  obtain ⟨⟨-, hmin⟩, -, hmax⟩ := selectBitpool_bounds remote hint f.config
  rw [f.min_withBitpool _ (by omega), f.max_withBitpool _ (by omega), selectBitpool_valid hv, local_bitpools.1,
    local_bitpools.2, kDefaultMinimumBitpool, kDefaultMaximumBitpool]
  obtain ⟨h2, hle, h250⟩ := hv
  generalize getRange remote kMinimumBitpool = rmin at h2 hle ⊢
  generalize getRange remote kMaximumBitpool = rmax at hle h250 ⊢
  by_cases he : ∃ bitrate, BoundsBitrate hint bitrate
  · -- The hint's upper bound decides the maximum.
    obtain ⟨bitrate, hint, rfl, rfl, hne, hge⟩ := he
    have hb : ∀ x, BoundsBitrate (some hint) x ↔ x = hint.maxBitrate := by
      intro x
      constructor
      · rintro ⟨h, hs, rfl, -⟩
        cases hs
        rfl
      · rintro rfl
        exact ⟨hint, rfl, rfl, hne, hge⟩
    have hmono := getBitpool_mono f.config hge
    have hlow := (getBitpool_bounds f.config hint.maxBitrate).1
    have hup := getBitpool_le_iff f.config hint.maxBitrate (b := rmax) (by omega)
    have hdown : 2 < rmin → (rmin ≤ getBitpool f.config hint.maxBitrate ↔ (getBitrate f.config rmin : Int) < hint.maxBitrate) :=
      fun hlt => le_getBitpool f.config hint.maxBitrate hlt (by omega)
    simp only [hb, Option.elim, if_pos (show hint.maxBitrate ≠ 0 ∧ hint.maxBitrate ≥ hint.minBitrate from ⟨hne, hge⟩),
      exists_eq_left, forall_eq, ← hsel.bitrate_eq]
    omega
  · -- Without one the maximum is the local 250.
    have hno : ∀ x, ¬ BoundsBitrate hint x := fun x hx => he ⟨x, hx⟩
    have hmax : hint.elim 250 (fun h => if h.maxBitrate ≠ 0 ∧ h.maxBitrate ≥ h.minBitrate then
        getBitpool f.config h.maxBitrate else 250) = 250 := by
      cases hint with
      | none => rfl
      | some hint => exact if_neg fun hc => hno _ ⟨hint, rfl, rfl, hc⟩
    have hmin : rmin ≤ hint.elim rmin (fun h => max rmin (getBitpool f.config h.minBitrate)) ∧
        hint.elim rmin (fun h => max rmin (getBitpool f.config h.minBitrate)) ≤ 250 := by
      cases hint with
      | none => exact ⟨Nat.le_refl _, by simp only [Option.elim]; omega⟩
      | some hint =>
        have := getBitpool_bounds f.config hint.minBitrate
        simp only [Option.elim]; omega
    simp only [hno, hmax, false_and, exists_false, or_false, false_implies, implies_true, or_true, and_true]
    omega

end PhhTreble.Sbc

namespace PhhTreble.Aac

open A2dpBits A2dp

/-! ## The AAC limits -/

/-- The bitrate written is at most the remote's and the hint's, and is the one
the builder meant to write. -/
def BitrateWithin (remote : Bytes) (hint : Option CodecParameters) (cfg : Bytes) : Prop :=
  (getRange remote kBitrate ≠ 0 → getRange cfg kBitrate ≤ getRange remote kBitrate) ∧
    ∀ h, hint = some h → 0 < h.maxBitrate →
      (getRange cfg kBitrate : Int) ≤ h.maxBitrate ∧ (getRange cfg kBitrate : Int) = selectBitrate hint

/-- A positive hinted maximum fits the field and is at most what the remote advertises. -/
def BitrateAgrees (remote : Bytes) (hint : Option CodecParameters) : Prop :=
  ∀ h, hint = some h → 0 < h.maxBitrate →
    h.maxBitrate < 2 ^ 23 ∧ (getRange remote kBitrate ≠ 0 → h.maxBitrate ≤ getRange remote kBitrate)

/-- The local bitrate is 0, so the hinted maximum is taken as it is. -/
theorem selectBitrate_eq (hint : Option CodecParameters) :
    selectBitrate hint = hint.elim 0 (fun h => max h.maxBitrate 0) := by
  unfold selectBitrate
  rw [local_bitrate]
  cases hint with
  | none => rfl
  | some h =>
    simp only [Nat.cast_zero, ne_eq, not_true_eq_false, and_false, if_false, Option.elim]
    split <;> omega

theorem bitrateWithin_iff {remote cfg : Bytes} {hint : Option CodecParameters}
    (h : buildConfiguration remote hint = some cfg) : BitrateWithin remote hint cfg ↔ BitrateAgrees remote hint := by
  obtain ⟨-, f, -, rfl⟩ := buildConfiguration_eq_some h
  unfold BitrateWithin BitrateAgrees
  rw [f.bitrate_withBitrate, selectBitrate_eq]
  cases hint with
  | none => simp
  | some hint =>
    simp only [Option.elim, Option.some.injEq, forall_eq']
    generalize getRange remote kBitrate = limit
    by_cases hpos : 0 < hint.maxBitrate
    · rw [Int.max_eq_left (Int.le_of_lt hpos)]
      simp only [hpos, true_implies]
      omega
    · rw [Int.max_eq_right (Int.not_lt.1 hpos)]
      simp [hpos]

end PhhTreble.Aac

namespace PhhTreble.A2dp

open A2dpBits

/-- The limits a successful build writes lie inside both sides' exactly when
the remote's range and the hint agree. -/
theorem negotiated_limits (remote : Bytes) (hint : Option CodecParameters) (cfg : Bytes) :
    (Sbc.buildConfiguration remote hint = some cfg →
      (Sbc.BitpoolsWithin remote cfg ↔ Sbc.BitpoolsAgree remote hint)) ∧
    (Aac.buildConfiguration remote hint = some cfg →
      (Aac.BitrateWithin remote hint cfg ↔ Aac.BitrateAgrees remote hint)) :=
  ⟨Sbc.bitpoolsWithin_iff, Aac.bitrateWithin_iff⟩

/-- Bitpools 2..250 on both sides, and AAC without a hint. -/
theorem negotiated_limits_full_range :
    Sbc.BitpoolsWithin [0x3f#8, 0xff#8, 2#8, 250#8] [0x21#8, 0x19#8, 2#8, 250#8] ∧
      Aac.BitrateWithin [0x80#8, 0x01#8, 0x84#8, 0x00#8, 0x01#8, 0x00#8] none [0x80#8, 0x00#8, 0x84#8, 0#8, 0#8, 0#8] :=
  ⟨((negotiated_limits _ none _).1 (by decide)).2 fun _ => ⟨.inl (by decide), .inl (by decide)⟩,
    ((negotiated_limits _ none _).2 (by decide)).2 fun _ h => nomatch h⟩

/-- A remote with the usual bitpools 2..53 is offered up to 250, and a remote
that allows 100000 bit/s of AAC is sent the hinted 320000. -/
theorem negotiated_limits_exceeded :
    (¬ ∀ (remote : Bytes) (hint : Option CodecParameters) (cfg : Bytes),
      Sbc.buildConfiguration remote hint = some cfg → Sbc.BitpoolsWithin remote cfg) ∧
    ¬ ∀ (remote : Bytes) (hint : Option CodecParameters) (cfg : Bytes),
      Aac.buildConfiguration remote hint = some cfg → Aac.BitrateWithin remote hint cfg := by
  constructor
  · intro h
    have hw := h [0x3f#8, 0xff#8, 2#8, 53#8] none [0x21#8, 0x19#8, 2#8, 250#8] (by decide)
    exact absurd (hw ⟨by decide, by decide, by decide⟩).2.2 (by decide)
  · intro h
    have hw := h [0x80#8, 0x01#8, 0x04#8, 0x01#8, 0x86#8, 0xa0#8] (some ⟨.stereo, 44100, 24, 0, 320000⟩)
      [0x80#8, 0x01#8, 0x04#8, 0x04#8, 0xe2#8, 0x00#8] (by decide)
    exact absurd (hw.1 (by decide)) (by decide)

end PhhTreble.A2dp

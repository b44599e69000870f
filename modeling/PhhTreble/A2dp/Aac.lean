import PhhTreble.A2dp.Codec
/-!
# The AAC offload codec

`A2dpOffloadCodecAac`: its local capabilities, the validating parser and the
configuration builder, and what the builder writes.
-/

namespace PhhTreble.Aac

open A2dpBits A2dp

/-! ## Signaling format -/

def kObjectType : Range := .span 0 6
def kDrcEnable : Range := .single 7
def kSamplingFrequency : Range := .span 8 19
def kChannels : Range := .span 20 23
def kVbrSupported : Range := .single 24
def kBitrate : Range := .span 25 47
def kCapabilitiesSize : Nat := 48 / 8

def kObjectTypeMpeg2AacLc : Nat := kObjectType.first
def kObjectTypeMpeg4AacLc : Nat := kObjectTypeMpeg2AacLc + 1

def kSamplingFrequency8000 : Nat := kSamplingFrequency.first
def kSamplingFrequency11025 : Nat := kSamplingFrequency8000 + 1
def kSamplingFrequency12000 : Nat := kSamplingFrequency11025 + 1
def kSamplingFrequency16000 : Nat := kSamplingFrequency12000 + 1
def kSamplingFrequency22050 : Nat := kSamplingFrequency16000 + 1
def kSamplingFrequency24000 : Nat := kSamplingFrequency22050 + 1
def kSamplingFrequency32000 : Nat := kSamplingFrequency24000 + 1
def kSamplingFrequency44100 : Nat := kSamplingFrequency32000 + 1
def kSamplingFrequency48000 : Nat := kSamplingFrequency44100 + 1
def kSamplingFrequency64000 : Nat := kSamplingFrequency48000 + 1
def kSamplingFrequency88200 : Nat := kSamplingFrequency64000 + 1
def kSamplingFrequency96000 : Nat := kSamplingFrequency88200 + 1

def kChannels1 : Nat := kChannels.first
def kChannels2 : Nat := kChannels1 + 1

def kBitdepth : Int := 24

/-! ## Conversions -/

inductive ObjectType where
  | mpeg2AacLc | mpeg4AacLc
deriving DecidableEq, Repr

def getObjectTypeEnum (bit : Nat) : ObjectType :=
  (switch [(kObjectTypeMpeg2AacLc, ObjectType.mpeg2AacLc)] bit).getD .mpeg4AacLc

def getSamplingFrequencyBit : Int → Option Nat := switch [
  (8000, kSamplingFrequency8000), (11025, kSamplingFrequency11025), (12000, kSamplingFrequency12000),
  (16000, kSamplingFrequency16000), (22050, kSamplingFrequency22050), (24000, kSamplingFrequency24000),
  (32000, kSamplingFrequency32000), (44100, kSamplingFrequency44100), (48000, kSamplingFrequency48000),
  (64000, kSamplingFrequency64000), (88200, kSamplingFrequency88200), (96000, kSamplingFrequency96000)]

def getSamplingFrequencyValue (bit : Nat) : Int := (switch [
  (kSamplingFrequency8000, 8000), (kSamplingFrequency11025, 11025), (kSamplingFrequency12000, 12000),
  (kSamplingFrequency16000, 16000), (kSamplingFrequency22050, 22050), (kSamplingFrequency24000, 24000),
  (kSamplingFrequency32000, 32000), (kSamplingFrequency44100, 44100), (kSamplingFrequency48000, 48000),
  (kSamplingFrequency64000, 64000), (kSamplingFrequency88200, 88200), (kSamplingFrequency96000, 96000)] bit).getD 0

def getChannelsBit : ChannelMode → Option Nat
  | .mono => some kChannels1
  | .stereo => some kChannels2
  | _ => none

def getChannelModeEnum (bit : Nat) : ChannelMode :=
  (switch [(kChannels1, ChannelMode.mono), (kChannels2, .stereo)] bit).getD .unknown

/-! ## Local capabilities -/

/-- The capabilities the constructor sets up: 88200 and 96000 are not enabled,
and no bitrate is written. -/
def capabilities : Bytes :=
  let capabilities := List.replicate kCapabilitiesSize 0#8
  let capabilities := [(kObjectTypeMpeg2AacLc, true), (kObjectTypeMpeg4AacLc, true),
    (kSamplingFrequency44100, true), (kSamplingFrequency48000, true),
    (kSamplingFrequency88200, false), (kSamplingFrequency96000, false),
    (kChannels1, true), (kChannels2, true)].foldl (fun c p => set c p.1 p.2) capabilities
  setRange capabilities kVbrSupported 1

theorem capabilities_eq : capabilities = [0xc0#8, 0x01#8, 0x8c#8, 0x80#8, 0#8, 0#8] := rfl

theorem length_capabilities : capabilities.length = 6 := rfl

/-! ## ParseConfiguration -/

structure AacParameters extends CodecParameters where
  object_type : ObjectType
deriving DecidableEq, Repr

/-- The overload with an `AacParameters`. -/
def parseConfiguration (configuration : Bytes) : Except A2dpStatus AacParameters :=
  if configuration.length ≠ capabilities.length then .error .badLength else
  match findActiveBit configuration kObjectType with
  | none => .error .invalidObjectType
  | some object_type =>
  if !get capabilities object_type then .error .notSupportedObjectType else
  match findActiveBit configuration kSamplingFrequency with
  | none => .error .invalidSamplingFrequency
  | some sampling_frequency =>
  if !get capabilities sampling_frequency then .error .notSupportedSamplingFrequency else
  match findActiveBit configuration kChannels with
  | none => .error .invalidChannels
  | some channels =>
  if !get capabilities channels then .error .notSupportedChannels else
  let vbr := getRange configuration kVbrSupported ≠ 0
  if vbr ∧ getRange capabilities kVbrSupported = 0 then .error .notSupportedVbr else
  let bitrate := getRange configuration kBitrate
  if vbr ∧ getRange capabilities kBitrate ≠ 0 ∧ bitrate > getRange capabilities kBitrate then .error .notSupportedBitRate else
  .ok {
    channelMode := getChannelModeEnum channels
    samplingFrequencyHz := getSamplingFrequencyValue sampling_frequency
    bitdepth := kBitdepth
    minBitrate := if vbr then 0 else bitrate
    maxBitrate := bitrate
    object_type := getObjectTypeEnum object_type }

/-! ## BuildConfiguration -/

/-- Whether the VBR bit is written, and with which value. -/
def selectVbr (remote_capabilities : Bytes) (hint : Option CodecParameters) : Option Int :=
  if hint.all (fun hint => hint.minBitrate == 0) then
    some (if getRange capabilities kVbrSupported ≠ 0 ∧ getRange remote_capabilities kVbrSupported ≠ 0 then 1 else 0)
  else none

/-- The bitrate to write: the local one, against the hinted maximum. -/
def selectBitrate (hint : Option CodecParameters) : Int :=
  let bitrate : Int := getRange capabilities kBitrate
  match hint with
  | none => bitrate
  | some hint =>
    -- The remote's bitrate is not among the arguments.
    if hint.maxBitrate > 0 ∧ bitrate ≠ 0 then min hint.maxBitrate bitrate
    else if hint.maxBitrate > 0 then hint.maxBitrate
    else bitrate

/-- `BuildConfiguration`, with `none` for the result `false`. -/
def buildConfiguration (remote_capabilities : Bytes) (hint : Option CodecParameters) : Option Bytes :=
  if remote_capabilities.length ≠ capabilities.length then none else do
  let config := List.replicate capabilities.length 0#8
  let config := set config (← pick capabilities remote_capabilities none
    [kObjectTypeMpeg2AacLc, kObjectTypeMpeg4AacLc]) true
  let sf_hint := hint.bind fun hint => getSamplingFrequencyBit hint.samplingFrequencyHz
  let config := set config (← pick capabilities remote_capabilities sf_hint
    [kSamplingFrequency96000, kSamplingFrequency88200, kSamplingFrequency48000, kSamplingFrequency44100]) true
  let ch_hint := hint.bind fun hint => getChannelsBit hint.channelMode
  let config := set config (← pick capabilities remote_capabilities ch_hint [kChannels2, kChannels1]) true
  let config := match selectVbr remote_capabilities hint with
    | some vbr => setRange config kVbrSupported vbr
    | none => config
  return setRange config kBitrate (selectBitrate hint)

/-! ## What the builder writes -/

/-- One bit number of each of the three selected fields, and the VBR value if it is written. -/
structure Fields where
  ot : Nat
  sf : Nat
  ch : Nat
  vbr : Option Int
  ot_mem : ot ∈ kObjectType
  sf_mem : sf ∈ kSamplingFrequency
  ch_mem : ch ∈ kChannels

namespace Fields
variable (f : Fields)

def bits : List Nat := [f.ot, f.sf, f.ch]

/-- The vector with the three bits set. -/
def config : Bytes := setBits capabilities.length f.bits

/-- The fields, the VBR bit and the bitrate. -/
def withBitrate (bitrate : Int) : Bytes :=
  setRange (match f.vbr with | some vbr => setRange f.config kVbrSupported vbr | none => f.config) kBitrate bitrate

theorem bounds : f.ot ≤ 6 ∧ (8 ≤ f.sf ∧ f.sf ≤ 19) ∧ (20 ≤ f.ch ∧ f.ch ≤ 23) := by
  have h1 := f.ot_mem
  have h2 := f.sf_mem
  have h3 := f.ch_mem
  simp only [mem_range, kObjectType, kSamplingFrequency, kChannels, Range.span] at h1 h2 h3
  omega

theorem bits_lt : ∀ bit ∈ f.bits, bit < 8 * capabilities.length := by
  have h := f.bounds
  simp only [bits, List.mem_cons, List.not_mem_nil, or_false, length_capabilities]
  rintro bit (rfl | rfl | rfl) <;> omega

@[simp] theorem length_config : f.config.length = 6 := length_setBits _ _

theorem length_withBitrate (bitrate : Int) : (f.withBitrate bitrate).length = capabilities.length := by
  unfold withBitrate
  split <;> simp [capabilities_eq]

theorem get_config (b : Nat) : get f.config b = true ↔ b ∈ f.bits := get_setBits f.bits_lt b

/-- Below the bitrate field, only the VBR bit can differ from the three fields. -/
theorem get_withBitrate (bitrate : Int) {b : Nat} (hb : b < 25) :
    get (f.withBitrate bitrate) b =
      if b = 24 then f.vbr.elim false (fun vbr => bitOf vbr 0) else get f.config b := by
  have hl : ∀ v : Option Int, (match v with | some vbr => setRange f.config kVbrSupported vbr | none => f.config).length = 6 := by
    intro v; cases v <;> simp
  have hnm : ¬ b ∈ kBitrate := by simp only [mem_range, kBitrate, Range.span]; omega
  rw [withBitrate, get_setRange (by rw [Range.InBounds, hl]; decide), if_neg hnm]
  cases hv : f.vbr with
  | none =>
    dsimp only [Option.elim]
    -- Bit 24 is none of the three, so it reads 0 when it is not written.
    split
    · rename_i h
      have hno : ¬ b ∈ f.bits := by
        have := f.bounds
        simp only [bits, List.mem_cons, List.not_mem_nil, or_false]
        omega
      rw [← get_config] at hno
      simpa using hno
    · rfl
  | some vbr =>
    dsimp only [Option.elim]
    rw [get_setRange (by simp [Range.InBounds, kVbrSupported, Range.single])]
    have hiff : b ∈ kVbrSupported ↔ b = 24 := by simp only [mem_range, kVbrSupported, Range.single]; omega
    simp only [hiff]
    split
    · rename_i h; subst h; rfl
    · rfl

theorem findActiveBit_withBitrate (bitrate : Int) {r : Range} (hr : r.first + r.len ≤ 24) :
    findActiveBit (f.withBitrate bitrate) r = findActiveBit f.config r :=
  findActiveBit_congr fun b hb => by
    have := hb.2
    rw [f.get_withBitrate bitrate (by omega), if_neg (by omega)]

/-- The 23-bit field holds the bitrate modulo its width. -/
theorem bitrate_withBitrate (bitrate : Int) :
    getRange (f.withBitrate bitrate) kBitrate = (bitrate % 2 ^ 23).toNat := by
  unfold withBitrate
  split <;> exact getRange_setRange (by simp [Range.InBounds, kBitrate, Range.span]) bitrate

theorem active {r : Range} {bit : Nat} (hr : bit ∈ r) (hb : bit ∈ f.bits)
    (hu : ∀ b ∈ f.bits, r.first ≤ b → b < r.first + r.len → b = bit) : findActiveBit f.config r = some bit :=
  findActiveBit_setBits f.bits_lt hr hb fun b hb hbr => hu b hb hbr.1 hbr.2

theorem active_ot : findActiveBit f.config kObjectType = some f.ot := by
  have h := f.bounds
  refine f.active f.ot_mem (by simp [bits]) ?_
  simp only [bits, List.mem_cons, List.not_mem_nil, or_false, kObjectType, Range.span]
  omega

theorem active_sf : findActiveBit f.config kSamplingFrequency = some f.sf := by
  have h := f.bounds
  refine f.active f.sf_mem (by simp [bits]) ?_
  simp only [bits, List.mem_cons, List.not_mem_nil, or_false, kSamplingFrequency, Range.span]
  omega

theorem active_ch : findActiveBit f.config kChannels = some f.ch := by
  have h := f.bounds
  refine f.active f.ch_mem (by simp [bits]) ?_
  simp only [bits, List.mem_cons, List.not_mem_nil, or_false, kChannels, Range.span]
  omega

theorem withBitrate_ot (bitrate : Int) : findActiveBit (f.withBitrate bitrate) kObjectType = some f.ot :=
  (f.findActiveBit_withBitrate bitrate (by decide)).trans f.active_ot

theorem withBitrate_sf (bitrate : Int) : findActiveBit (f.withBitrate bitrate) kSamplingFrequency = some f.sf :=
  (f.findActiveBit_withBitrate bitrate (by decide)).trans f.active_sf

theorem withBitrate_ch (bitrate : Int) : findActiveBit (f.withBitrate bitrate) kChannels = some f.ch :=
  (f.findActiveBit_withBitrate bitrate (by decide)).trans f.active_ch

end Fields

/-! ## A successful build -/

/-- The selections of a build. -/
structure Selects (remote : Bytes) (hint : Option CodecParameters) (f : Fields) : Prop where
  ot : pick capabilities remote none [kObjectTypeMpeg2AacLc, kObjectTypeMpeg4AacLc] = some f.ot
  sf : pick capabilities remote (hint.bind fun h => getSamplingFrequencyBit h.samplingFrequencyHz)
    [kSamplingFrequency96000, kSamplingFrequency88200, kSamplingFrequency48000, kSamplingFrequency44100] = some f.sf
  ch : pick capabilities remote (hint.bind fun h => getChannelsBit h.channelMode) [kChannels2, kChannels1] = some f.ch
  vbr : f.vbr = selectVbr remote hint

theorem Selects.bits {remote : Bytes} {hint : Option CodecParameters} {f : Fields} (h : Selects remote hint f) :
    ∀ bit ∈ f.bits, get capabilities bit = true ∧ get remote bit = true := by
  simp only [Fields.bits, List.mem_cons, List.not_mem_nil, or_false]
  rintro bit (rfl | rfl | rfl)
  · exact pick_supported h.ot
  · exact pick_supported h.sf
  · exact pick_supported h.ch

/-- A hinted frequency both sides have is the one selected. -/
theorem Selects.sf_hint {remote : Bytes} {hint : CodecParameters} {f : Fields} {b : Nat}
    (h : Selects remote (some hint) f) (hb : getSamplingFrequencyBit hint.samplingFrequencyHz = some b)
    (hl : get capabilities b = true) (hr : get remote b = true) : f.sf = b := by
  have hsf := h.sf
  rw [Option.bind_some, hb] at hsf
  exact pick_hint hsf hl hr

theorem Selects.ch_hint {remote : Bytes} {hint : CodecParameters} {f : Fields} {b : Nat}
    (h : Selects remote (some hint) f) (hb : getChannelsBit hint.channelMode = some b)
    (hl : get capabilities b = true) (hr : get remote b = true) : f.ch = b := by
  have hch := h.ch
  rw [Option.bind_some, hb] at hch
  exact pick_hint hch hl hr

/-- The two frequency tables are inverse to each other. -/
theorem samplingFrequencyBit_inv {hz : Int} {b : Nat} (h : getSamplingFrequencyBit hz = some b) :
    b ∈ kSamplingFrequency ∧ getSamplingFrequencyValue b = hz := by
  have hall : ∀ p ∈ [((8000 : Int), kSamplingFrequency8000), (11025, kSamplingFrequency11025),
      (12000, kSamplingFrequency12000), (16000, kSamplingFrequency16000), (22050, kSamplingFrequency22050),
      (24000, kSamplingFrequency24000), (32000, kSamplingFrequency32000), (44100, kSamplingFrequency44100),
      (48000, kSamplingFrequency48000), (64000, kSamplingFrequency64000), (88200, kSamplingFrequency88200),
      (96000, kSamplingFrequency96000)], p.2 ∈ kSamplingFrequency ∧ getSamplingFrequencyValue p.2 = p.1 := by decide
  exact hall _ (mem_of_switch h)

theorem channelModeEnum_bit {mode : ChannelMode} {b : Nat} (h : getChannelsBit mode = some b) :
    getChannelModeEnum b = mode := by
  cases mode <;> simp only [getChannelsBit, Option.some.injEq, reduceCtorEq] at h <;> subst h <;> decide

theorem channelsBit_mem {mode : ChannelMode} {b : Nat} (h : getChannelsBit mode = some b) : b ∈ kChannels := by
  cases mode <;> simp only [getChannelsBit, Option.some.injEq, reduceCtorEq] at h <;> subst h <;> decide

/-- A build that returns true selects one bit of each field that both sides
have, the VBR bit of `selectVbr` and the bitrate of `selectBitrate`. -/
theorem buildConfiguration_eq_some {remote cfg : Bytes} {hint : Option CodecParameters}
    (h : buildConfiguration remote hint = some cfg) :
    remote.length = 6 ∧ ∃ f : Fields, Selects remote hint f ∧ cfg = f.withBitrate (selectBitrate hint) := by
  unfold buildConfiguration at h
  split at h
  · cases h
  · rename_i hlen
    simp only [Option.bind_eq_bind, Option.bind_eq_some_iff, Option.pure_def, Option.some.injEq] at h
    obtain ⟨ot, hot, sf, hsf, ch, hch, rfl⟩ := h
    refine ⟨by simpa [capabilities_eq] using hlen, ⟨ot, sf, ch, selectVbr remote hint,
      mem_of_pick hot (by simp) (by decide), mem_of_pick hsf (fun b hb => ?_) (by decide),
      mem_of_pick hch (fun b hb => ?_) (by decide)⟩, ⟨hot, hsf, hch, rfl⟩, rfl⟩
    · obtain ⟨_, _, hb'⟩ := Option.bind_eq_some_iff.1 hb
      exact (samplingFrequencyBit_inv hb').1
    · obtain ⟨_, _, hb'⟩ := Option.bind_eq_some_iff.1 hb
      exact channelsBit_mem hb'

/-! ## Parsing what was built -/

theorem local_bitrate : getRange capabilities kBitrate = 0 := rfl

theorem local_vbr : getRange capabilities kVbrSupported ≠ 0 := by decide

theorem selectVbr_supported {remote : Bytes} {hint : Option CodecParameters}
    (h : (selectVbr remote hint).elim false (fun vbr => bitOf vbr 0) = true) :
    get capabilities 24 = true ∧ get remote 24 = true := by
  rw [selectVbr] at h
  split at h
  · by_cases hv : getRange capabilities kVbrSupported ≠ 0 ∧ getRange remote kVbrSupported ≠ 0
    · exact ⟨(getRange_single capabilities 24).1 hv.1, (getRange_single remote 24).1 hv.2⟩
    · rw [if_neg hv] at h
      exact absurd h (by decide)
  · exact absurd h (by decide)

/-- The parser accepts every vector whose fields the local capabilities have,
whatever its bitrate: the local bitrate is 0, which disables that check. -/
theorem parseConfiguration_withBitrate (f : Fields) (bitrate : Int) (hl : ∀ bit ∈ f.bits, get capabilities bit = true) :
    ∃ p, parseConfiguration (f.withBitrate bitrate) = .ok p ∧ p.channelMode = getChannelModeEnum f.ch ∧
      p.samplingFrequencyHz = getSamplingFrequencyValue f.sf := by
  have hot : get capabilities f.ot = true := hl _ (by simp [Fields.bits])
  have hsf : get capabilities f.sf = true := hl _ (by simp [Fields.bits])
  have hch : get capabilities f.ch = true := hl _ (by simp [Fields.bits])
  unfold parseConfiguration
  rw [if_neg (by simp [f.length_withBitrate]), f.withBitrate_ot, f.withBitrate_sf, f.withBitrate_ch]
  simp only [hot, hsf, hch, local_bitrate, local_vbr, Bool.not_true, Bool.false_eq_true, if_false, and_false,
    ne_eq, not_true_eq_false, false_and]
  exact ⟨_, rfl, rfl, rfl⟩

end PhhTreble.Aac

import PhhTreble.A2dp.SbcBuild
import PhhTreble.A2dp.Aac
/-!
# A2dpOffloadCodecFactory

The factory offers the codecs in rank order, the hinted one first, and takes
the first that builds a configuration for the remote. Dereferencing the end
iterator of `ranked_codecs_` and a failed `assert` are faults of the run.
-/

namespace PhhTreble.A2dp

open A2dpBits

/-! ## The data model -/

inductive A2dpCodecId where
  | sbc | aac
deriving DecidableEq, Repr

/-- The AIDL union `CodecId`. -/
inductive CodecId where
  | core (id : Nat)
  | a2dp (id : A2dpCodecId)
  | vendor (id codecId : Int)
deriving DecidableEq, Repr

structure A2dpRemoteCapabilities where
  seid : Int
  id : CodecId
  capabilities : Bytes
deriving DecidableEq, Repr

structure A2dpConfigurationHint where
  codecId : CodecId
  codecParameters : Option CodecParameters
deriving DecidableEq, Repr

structure A2dpConfiguration where
  remoteSeid : Int
  id : CodecId
  parameters : CodecParameters
  configuration : Bytes
deriving DecidableEq, Repr

/-! ## The two codecs behind `A2dpOffloadCodec` -/

inductive A2dpOffloadCodec where
  | aac | sbc
deriving DecidableEq, Repr

namespace A2dpOffloadCodec

/-- `info.id`. -/
def id : A2dpOffloadCodec → CodecId
  | aac => .a2dp .aac
  | sbc => .a2dp .sbc

def capabilities : A2dpOffloadCodec → Bytes
  | aac => Aac.capabilities
  | sbc => Sbc.capabilities

def parseConfiguration : A2dpOffloadCodec → Bytes → Except A2dpStatus CodecParameters
  | aac, configuration => (Aac.parseConfiguration configuration).map (·.toCodecParameters)
  | sbc, configuration => (Sbc.parseConfiguration configuration).map (·.toCodecParameters)

def buildConfiguration : A2dpOffloadCodec → Bytes → Option CodecParameters → Option Bytes
  | aac => Aac.buildConfiguration
  | sbc => Sbc.buildConfiguration

end A2dpOffloadCodec

/-! ## The factory -/

inductive Fault where
  | readPastEnd | assertFailed
deriving DecidableEq, Repr

/-- `ranked_codecs_`. -/
def rankedCodecs : List A2dpOffloadCodec := [.aac, .sbc]

/-- `GetCodec`. -/
def getCodec (id : CodecId) : Option A2dpOffloadCodec := rankedCodecs.find? fun c => id == c.id

/-- `std::copy_if` with `c != *hinted_codec`, which reads the iterator for each
codec it looks at; `none` is the end iterator. -/
def copyOthers (hinted : Option A2dpOffloadCodec) : List A2dpOffloadCodec → Except Fault (List A2dpOffloadCodec)
  | [] => .ok []
  | c :: cs =>
    match hinted with
    -- `*hinted_codec` is read before the comparison, also when there is none.
    | none => .error .readPastEnd
    | some h => (copyOthers hinted cs).map fun codecs => if c ≠ h then c :: codecs else codecs

/-- The list `codecs` of `GetConfiguration`. -/
def codecOrder (hint : A2dpConfigurationHint) : Except Fault (List A2dpOffloadCodec) :=
  let hinted := rankedCodecs.find? fun c => hint.codecId == c.id
  (copyOthers hinted rankedCodecs).map (hinted.toList ++ ·)

/-- The loop of `GetConfiguration` over `codecs`. -/
def tryCodecs (remote : List A2dpRemoteCapabilities) (hint : A2dpConfigurationHint) :
    List A2dpOffloadCodec → Except Fault (Option A2dpConfiguration)
  | [] => .ok none
  | codec :: codecs =>
    -- `std::find_if` stops at the first entry; a later one of the codec is never tried.
    match remote.find? fun rc => codec.id == rc.id with
    | none => tryCodecs remote hint codecs
    | some rc =>
      match codec.buildConfiguration rc.capabilities hint.codecParameters with
      | none => tryCodecs remote hint codecs
      | some configuration =>
        match codec.parseConfiguration configuration with
        | .error _ => .error .assertFailed
        | .ok parameters => .ok (some ⟨rc.seid, codec.id, parameters, configuration⟩)

/-- `GetConfiguration`, with `none` for the result `false`. -/
def getConfiguration (remote : List A2dpRemoteCapabilities) (hint : A2dpConfigurationHint) :
    Except Fault (Option A2dpConfiguration) :=
  (codecOrder hint).bind (tryCodecs remote hint)

/-! ## The order of the tries -/

/-- The hinted codec is one of the factory's. -/
def IsLocal (hint : A2dpConfigurationHint) : Prop := ∃ c ∈ rankedCodecs, c.id = hint.codecId

theorem id_inj {c c' : A2dpOffloadCodec} (h : c.id = c'.id) : c = c' := by
  cases c <;> cases c' <;> first | rfl | exact absurd h (by decide)

theorem mem_rankedCodecs (c : A2dpOffloadCodec) : c ∈ rankedCodecs := by cases c <;> decide

theorem find_hinted (hint : A2dpConfigurationHint) (c : A2dpOffloadCodec) :
    (rankedCodecs.find? fun c => hint.codecId == c.id) = some c ↔ c.id = hint.codecId := by
  constructor
  · intro h
    have : hint.codecId = c.id := by simpa using List.find?_some h
    exact this.symm
  · intro h
    rw [← h]
    cases c <;> decide

theorem copyOthers_some (h : A2dpOffloadCodec) (cs : List A2dpOffloadCodec) :
    copyOthers (some h) cs = .ok (cs.filter (· ≠ h)) := by
  induction cs with
  | nil => rfl
  | cons c cs ih =>
    rw [copyOthers, ih]
    by_cases hc : c = h <;> simp [Except.map, hc]

theorem codecOrder_hinted {hint : A2dpConfigurationHint} {c : A2dpOffloadCodec} (h : c.id = hint.codecId) :
    codecOrder hint = .ok (c :: rankedCodecs.filter (· ≠ c)) := by
  rw [codecOrder, (find_hinted hint c).2 h]
  simp only [copyOthers_some, Except.map]
  rfl

/-- An unknown hint makes the first comparison of the copy read the end iterator. -/
theorem codecOrder_unknown {hint : A2dpConfigurationHint} (h : ¬ IsLocal hint) :
    codecOrder hint = .error .readPastEnd := by
  have : (rankedCodecs.find? fun c => hint.codecId == c.id) = none := by
    cases hf : rankedCodecs.find? fun c => hint.codecId == c.id with
    | none => rfl
    | some c => exact absurd ⟨c, mem_rankedCodecs c, (find_hinted hint c).1 hf⟩ h
  rw [codecOrder, this]
  rfl

/-! ## The tries -/

/-- The first remote entry of the codec lets it build. -/
def FirstBuilds (remote : List A2dpRemoteCapabilities) (hint : A2dpConfigurationHint) (codec : A2dpOffloadCodec) : Prop :=
  ∃ rc, (remote.find? fun rc => codec.id == rc.id) = some rc ∧
    (codec.buildConfiguration rc.capabilities hint.codecParameters).isSome

namespace A2dpOffloadCodec

/-- The fields that hold exactly one bit. -/
def oneHotFields : A2dpOffloadCodec → List Range
  | aac => [Aac.kObjectType, Aac.kSamplingFrequency, Aac.kChannels]
  | sbc => [Sbc.kSamplingFrequency, Sbc.kChannelMode, Sbc.kBlockLength, Sbc.kSubbands, Sbc.kAllocationMethod]

def flagFields : A2dpOffloadCodec → List Range
  | aac => [Aac.kVbrSupported]
  | sbc => []

def samplingFrequencyField : A2dpOffloadCodec → Range
  | aac => Aac.kSamplingFrequency
  | sbc => Sbc.kSamplingFrequency

def channelModeField : A2dpOffloadCodec → Range
  | aac => Aac.kChannels
  | sbc => Sbc.kChannelMode

/-- `GetSamplingFrequencyBit` of the codec. -/
def samplingFrequencyBit : A2dpOffloadCodec → Int → Option Nat
  | aac => Aac.getSamplingFrequencyBit
  | sbc => Sbc.getSamplingFrequencyBit

/-- `GetChannelsBit` and `GetChannelModeBit`. -/
def channelModeBit : A2dpOffloadCodec → ChannelMode → Option Nat
  | aac => Aac.getChannelsBit
  | sbc => Sbc.getChannelModeBit

end A2dpOffloadCodec

/-- What a configuration owes to both sides' capabilities and to the hint. -/
structure Agrees (codec : A2dpOffloadCodec) (remote : Bytes) (hint : Option CodecParameters) (cfg : Bytes)
    (p : CodecParameters) : Prop where
  parses : codec.parseConfiguration cfg = .ok p
  oneHot : ∀ r ∈ codec.oneHotFields, (findActiveBit cfg r).isSome
  supported : ∀ r ∈ codec.oneHotFields ++ codec.flagFields, ∀ b ∈ r, get cfg b = true →
    get codec.capabilities b = true ∧ get remote b = true
  frequency : ∀ h b, hint = some h → codec.samplingFrequencyBit h.samplingFrequencyHz = some b →
    get codec.capabilities b = true → get remote b = true →
    findActiveBit cfg codec.samplingFrequencyField = some b ∧ p.samplingFrequencyHz = h.samplingFrequencyHz
  channelMode : ∀ h b, hint = some h → codec.channelModeBit h.channelMode = some b →
    get codec.capabilities b = true → get remote b = true →
    findActiveBit cfg codec.channelModeField = some b ∧ p.channelMode = h.channelMode

theorem agrees_sbc {remote cfg : Bytes} {hint : Option CodecParameters} (h : Sbc.buildConfiguration remote hint = some cfg) :
    ∃ p, Agrees .sbc remote hint cfg p := by
  obtain ⟨-, f, hsel, rfl⟩ := Sbc.buildConfiguration_eq_some h
  obtain ⟨hmin, hmax⟩ := Sbc.selectBitpool_bounds remote hint f.config
  generalize (Sbc.selectBitpool remote hint f.config).1 = min at hmin ⊢
  generalize (Sbc.selectBitpool remote hint f.config).2 = max at hmax ⊢
  have hbits := hsel.bits
  have hp := Sbc.parseConfiguration_withBitpool f hmin hmax fun b hm => (hbits b hm).1
  refine ⟨_, by rw [A2dpOffloadCodec.parseConfiguration, hp]; rfl, fun r hr => ?_, fun r hr b hb hg => ?_,
    fun p b hh hbit hl hrc => ?_, fun p b hh hbit hl hrc => ?_⟩
  · simp only [A2dpOffloadCodec.oneHotFields, List.mem_cons, List.not_mem_nil, or_false] at hr
    rcases hr with rfl | rfl | rfl | rfl | rfl
    · rw [f.withBitpool_sf]; rfl
    · rw [f.withBitpool_cm]; rfl
    · rw [f.withBitpool_bl]; rfl
    · rw [f.withBitpool_sb]; rfl
    · rw [f.withBitpool_am]; rfl
  · have hlt : b < 16 := by
      have hall : ∀ r ∈ A2dpOffloadCodec.sbc.oneHotFields ++ A2dpOffloadCodec.sbc.flagFields, r.first + r.len ≤ 16 := by
        decide
      exact Nat.lt_of_lt_of_le hb.2 (hall r hr)
    rw [f.get_withBitpool min max hlt, f.get_config] at hg
    exact hbits b hg
  · subst hh
    obtain rfl := hsel.sf_hint hbit hl hrc
    exact ⟨f.withBitpool_sf min max, (Sbc.samplingFrequencyBit_inv hbit).2⟩
  · subst hh
    obtain rfl := hsel.cm_hint hbit hl hrc
    exact ⟨f.withBitpool_cm min max, Sbc.channelModeEnum_bit hbit⟩

theorem agrees_aac {remote cfg : Bytes} {hint : Option CodecParameters} (h : Aac.buildConfiguration remote hint = some cfg) :
    ∃ p, Agrees .aac remote hint cfg p := by
  obtain ⟨-, f, hsel, rfl⟩ := Aac.buildConfiguration_eq_some h
  generalize Aac.selectBitrate hint = bitrate
  have hbits := hsel.bits
  obtain ⟨p, hp, hmode, hhz⟩ := Aac.parseConfiguration_withBitrate f bitrate fun b hm => (hbits b hm).1
  refine ⟨_, by rw [A2dpOffloadCodec.parseConfiguration, hp]; rfl, fun r hr => ?_, fun r hr b hb hg => ?_,
    fun q b hh hbit hl hrc => ?_, fun q b hh hbit hl hrc => ?_⟩
  · simp only [A2dpOffloadCodec.oneHotFields, List.mem_cons, List.not_mem_nil, or_false] at hr
    rcases hr with rfl | rfl | rfl
    · rw [f.withBitrate_ot]; rfl
    · rw [f.withBitrate_sf]; rfl
    · rw [f.withBitrate_ch]; rfl
  · have hlt : b < 25 := by
      have hall : ∀ r ∈ A2dpOffloadCodec.aac.oneHotFields ++ A2dpOffloadCodec.aac.flagFields, r.first + r.len ≤ 25 := by
        decide
      exact Nat.lt_of_lt_of_le hb.2 (hall r hr)
    rw [f.get_withBitrate bitrate hlt] at hg
    split at hg
    · -- The VBR bit is written only from the two VBR capabilities.
      rename_i hb24
      subst hb24
      exact Aac.selectVbr_supported (hsel.vbr ▸ hg)
    · rw [f.get_config] at hg
      exact hbits b hg
  · subst hh
    obtain rfl := hsel.sf_hint hbit hl hrc
    exact ⟨f.withBitrate_sf bitrate, hhz.trans (Aac.samplingFrequencyBit_inv hbit).2⟩
  · subst hh
    obtain rfl := hsel.ch_hint hbit hl hrc
    exact ⟨f.withBitrate_ch bitrate, hmode.trans (Aac.channelModeEnum_bit hbit)⟩

/-- Every configuration a codec builds parses back and agrees with both sides. -/
theorem build_agrees {codec : A2dpOffloadCodec} {remote cfg : Bytes} {hint : Option CodecParameters}
    (h : codec.buildConfiguration remote hint = some cfg) : ∃ p, Agrees codec remote hint cfg p := by
  cases codec with
  | aac => exact agrees_aac h
  | sbc => exact agrees_sbc h

/-! ## What the tries come to -/

theorem tryCodecs_spec (remote : List A2dpRemoteCapabilities) (hint : A2dpConfigurationHint)
    (codecs : List A2dpOffloadCodec) :
    ∃ r, tryCodecs remote hint codecs = .ok r ∧ (r.isSome ↔ ∃ codec ∈ codecs, FirstBuilds remote hint codec) ∧
      ∀ cfg ∈ r, ∃ codec ∈ codecs, ∃ rc ∈ remote, rc.id = codec.id ∧ cfg.id = rc.id ∧ cfg.remoteSeid = rc.seid ∧
        Agrees codec rc.capabilities hint.codecParameters cfg.configuration cfg.parameters := by
  induction codecs with
  | nil => exact ⟨none, rfl, by simp, by simp⟩
  | cons codec codecs ih =>
    obtain ⟨r, hr, hiff, hcfg⟩ := ih
    have hcfg' : ∀ cfg ∈ r, ∃ c ∈ codec :: codecs, ∃ rc ∈ remote, rc.id = c.id ∧ cfg.id = rc.id ∧
        cfg.remoteSeid = rc.seid ∧ Agrees c rc.capabilities hint.codecParameters cfg.configuration cfg.parameters :=
      fun cfg hm => let ⟨c, hc, h⟩ := hcfg cfg hm; ⟨c, List.mem_cons_of_mem _ hc, h⟩
    rw [tryCodecs]
    cases hf : remote.find? fun rc => codec.id == rc.id with
    | none =>
      have hno : ¬ FirstBuilds remote hint codec := fun ⟨rc, hrc, _⟩ => by rw [hf] at hrc; cases hrc
      exact ⟨r, hr, by simp [hiff, hno], hcfg'⟩
    | some rc =>
      have hid : rc.id = codec.id := by
        have : codec.id = rc.id := by simpa using List.find?_some hf
        exact this.symm
      dsimp only
      cases hb : codec.buildConfiguration rc.capabilities hint.codecParameters with
      | none =>
        have hno : ¬ FirstBuilds remote hint codec := by
          rintro ⟨rc', hrc', hbuild⟩
          rw [hf] at hrc'
          cases hrc'
          rw [hb] at hbuild
          cases hbuild
        exact ⟨r, hr, by simp [hiff, hno], hcfg'⟩
      | some configuration =>
        obtain ⟨p, hp⟩ := build_agrees hb
        refine ⟨some ⟨rc.seid, codec.id, p, configuration⟩, by dsimp only; rw [hp.parses], ?_, ?_⟩
        · exact ⟨fun _ => ⟨codec, List.mem_cons_self, rc, hf, by rw [hb]; rfl⟩, fun _ => rfl⟩
        · rintro cfg ⟨⟩
          exact ⟨codec, List.mem_cons_self, rc, List.mem_of_find?_eq_some hf, hid, hid.symm, rfl, hp⟩

theorem getConfiguration_unknown {hint : A2dpConfigurationHint} (h : ¬ IsLocal hint)
    (remote : List A2dpRemoteCapabilities) : getConfiguration remote hint = .error .readPastEnd := by
  rw [getConfiguration, codecOrder_unknown h]
  rfl

theorem getConfiguration_hinted {hint : A2dpConfigurationHint} {c : A2dpOffloadCodec} (h : c.id = hint.codecId)
    (remote : List A2dpRemoteCapabilities) :
    getConfiguration remote hint = tryCodecs remote hint (c :: rankedCodecs.filter (· ≠ c)) := by
  rw [getConfiguration, codecOrder_hinted h]
  rfl

theorem mem_order (c codec : A2dpOffloadCodec) : codec ∈ c :: rankedCodecs.filter (· ≠ c) := by
  cases c <;> cases codec <;> decide

/-- With a known hint the factory returns, and it returns true when the first
entry of one of its codecs builds. -/
theorem getConfiguration_spec {hint : A2dpConfigurationHint} (h : IsLocal hint) (remote : List A2dpRemoteCapabilities) :
    ∃ r, getConfiguration remote hint = .ok r ∧ (r.isSome ↔ ∃ codec ∈ rankedCodecs, FirstBuilds remote hint codec) ∧
      ∀ cfg ∈ r, ∃ codec ∈ rankedCodecs, ∃ rc ∈ remote, rc.id = codec.id ∧ cfg.id = rc.id ∧ cfg.remoteSeid = rc.seid ∧
        Agrees codec rc.capabilities hint.codecParameters cfg.configuration cfg.parameters := by
  obtain ⟨c, -, hc⟩ := h
  obtain ⟨r, hr, hiff, hcfg⟩ := tryCodecs_spec remote hint (c :: rankedCodecs.filter (· ≠ c))
  refine ⟨r, by rw [getConfiguration_hinted hc, hr], ?_, fun cfg hm => ?_⟩
  · simp only [mem_order, mem_rankedCodecs, true_and] at hiff ⊢
    exact hiff
  · obtain ⟨codec, -, h⟩ := hcfg cfg hm
    exact ⟨codec, mem_rankedCodecs codec, h⟩

/-! ## Completeness -/

/-- Some remote entry of the codec lets it build. -/
def SomeBuilds (remote : List A2dpRemoteCapabilities) (hint : A2dpConfigurationHint) (codec : A2dpOffloadCodec) : Prop :=
  ∃ rc ∈ remote, codec.id = rc.id ∧ (codec.buildConfiguration rc.capabilities hint.codecParameters).isSome

theorem FirstBuilds.some {remote : List A2dpRemoteCapabilities} {hint : A2dpConfigurationHint} {codec : A2dpOffloadCodec}
    (h : FirstBuilds remote hint codec) : SomeBuilds remote hint codec := by
  obtain ⟨rc, hf, hb⟩ := h
  exact ⟨rc, List.mem_of_find?_eq_some hf, by simpa using List.find?_some hf, hb⟩

/-- The hinted codec is tried first and the others in rank order, no read goes
past the end, and a configuration is found whenever an entry allows one. -/
structure Complete (remote : List A2dpRemoteCapabilities) (hint : A2dpConfigurationHint) : Prop where
  order : ∃ order, codecOrder hint = .ok order ∧ order.Perm rankedCodecs ∧
    (∀ c ∈ rankedCodecs, c.id = hint.codecId → order.head? = some c) ∧
    (order.filter (·.id ≠ hint.codecId)).Sublist rankedCodecs
  inBounds : getConfiguration remote hint ≠ .error .readPastEnd
  complete : (∃ cfg, getConfiguration remote hint = .ok (some cfg)) ↔ ∃ codec ∈ rankedCodecs, SomeBuilds remote hint codec

/-- The search is complete exactly when the hint names one of the factory's
codecs and looking at the first entry of each codec loses nothing. -/
theorem getConfiguration_complete (remote : List A2dpRemoteCapabilities) (hint : A2dpConfigurationHint) :
    Complete remote hint ↔ IsLocal hint ∧
      ((∃ codec ∈ rankedCodecs, SomeBuilds remote hint codec) → ∃ codec ∈ rankedCodecs, FirstBuilds remote hint codec) := by
  constructor
  · intro h
    have hloc : IsLocal hint := by
      by_contra hno
      exact h.inBounds (getConfiguration_unknown hno remote)
    obtain ⟨r, hr, hiff, -⟩ := getConfiguration_spec hloc remote
    refine ⟨hloc, fun hs => hiff.1 ?_⟩
    obtain ⟨cfg, hcfg⟩ := h.complete.2 hs
    rw [hr] at hcfg
    cases hcfg
    rfl
  · rintro ⟨hloc, hfirst⟩
    obtain ⟨r, hr, hiff, -⟩ := getConfiguration_spec hloc remote
    obtain ⟨c, -, hc⟩ := hloc
    refine ⟨⟨_, codecOrder_hinted hc, ?_, fun c' _ hc' => ?_, ?_⟩, by simp [hr], fun ⟨cfg, hcfg⟩ => ?_, fun hs => ?_⟩
    · cases c <;> decide
    · rw [id_inj (hc.trans hc'.symm)]; rfl
    · rw [← hc]; cases c <;> decide
    · rw [hr] at hcfg
      obtain ⟨codec, hm, hb⟩ := hiff.1 (by cases hcfg; rfl)
      exact ⟨codec, hm, hb.some⟩
    · obtain ⟨cfg, rfl⟩ := Option.isSome_iff_exists.1 (hiff.2 (hfirst hs))
      exact ⟨cfg, hr⟩

/-- A vendor codec in the hint reads past the end, and a first SBC entry that
offers nothing hides the second. -/
theorem getConfiguration_incomplete :
    ¬ Complete [] ⟨.vendor 1 1, none⟩ ∧
      ¬ Complete [⟨1, .a2dp .sbc, [0#8, 0#8, 2#8, 53#8]⟩, ⟨2, .a2dp .sbc, [0x3f#8, 0xff#8, 2#8, 53#8]⟩] ⟨.a2dp .sbc, none⟩ := by
  constructor
  · intro h
    exact h.inBounds (by decide)
  · intro h
    obtain ⟨cfg, hcfg⟩ := h.complete.2 ⟨.sbc, by decide, ⟨2, .a2dp .sbc, [0x3f#8, 0xff#8, 2#8, 53#8]⟩, by decide, by decide, by decide⟩
    cases hcfg

/-! ## What is returned -/

/-- With a known hint no `assert` fires, and what is returned comes from one
remote entry and agrees with it, with the local capabilities and with the hint. -/
theorem getConfiguration_agrees (remote : List A2dpRemoteCapabilities) (hint : A2dpConfigurationHint)
    (h : ∃ c ∈ rankedCodecs, c.id = hint.codecId) :
    (∀ fault, getConfiguration remote hint ≠ .error fault) ∧
      ∀ cfg, getConfiguration remote hint = .ok (some cfg) → ∃ codec ∈ rankedCodecs, ∃ rc ∈ remote,
        rc.id = codec.id ∧ cfg.id = rc.id ∧ cfg.remoteSeid = rc.seid ∧
        Agrees codec rc.capabilities hint.codecParameters cfg.configuration cfg.parameters := by
  obtain ⟨r, hr, -, hcfg⟩ := getConfiguration_spec h remote
  refine ⟨fun fault hf => (by rw [hr] at hf; cases hf), fun cfg hc => hcfg cfg ?_⟩
  rw [hr] at hc
  cases hc
  rfl

/-- One SBC entry and an SBC hint for 48000 Hz mono. -/
theorem getConfiguration_agrees_sbc : ∃ codec ∈ rankedCodecs, ∃ rc ∈ [(⟨1, .a2dp .sbc, [0x3f#8, 0xff#8, 2#8, 53#8]⟩ : A2dpRemoteCapabilities)],
    rc.id = codec.id ∧ Agrees codec rc.capabilities (some ⟨.mono, 48000, 16, 0, 0⟩) [0x18#8, 0x19#8, 2#8, 250#8]
      ⟨.mono, 48000, 16, 36000, 1524000⟩ := by
  obtain ⟨codec, hc, rc, hrc, hid, -, -, h⟩ := (getConfiguration_agrees [⟨1, .a2dp .sbc, [0x3f#8, 0xff#8, 2#8, 53#8]⟩]
    ⟨.a2dp .sbc, some ⟨.mono, 48000, 16, 0, 0⟩⟩ ⟨.sbc, by decide, rfl⟩).2
    ⟨1, .a2dp .sbc, ⟨.mono, 48000, 16, 36000, 1524000⟩, [0x18#8, 0x19#8, 2#8, 250#8]⟩ (by decide +kernel)
  exact ⟨codec, hc, rc, hrc, hid, h⟩

end PhhTreble.A2dp

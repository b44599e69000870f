import Mathlib.Data.BitVec
import PhhTreble.Hidl.Translate
/-!
# What the translation keeps

A translated configuration is faithful when it says what the AIDL one says,
whatever the memory of the unset fields holds.
-/

namespace PhhTreble.Hidl

open Audio (PcmConfiguration SbcConfiguration AacConfiguration LdacConfiguration AptxConfiguration Configuration
  ProviderClass)
open Audio.BluetoothAudioCodecs

/-! ## Faithfulness -/

/-- The HIDL value says what the configuration says. Nothing is asked of the
`a2dp` alternative, which HIDL does not have. -/
def Carries : Configuration → AudioConfiguration_2_1 → Prop
  | .pcmConfig c, .pcmConfig h => h.read = some c
  | .a2dpConfig c, .codecConfig h => h.codecType.read = c.codecType ∧ h.config.read = some c.config
  | .a2dp _, _ => True
  | .leAudioConfig c, .leAudioCodecConfig h =>
    (∀ lc3, c.leAudioCodecConfig = .lc3Config lc3 → h.lc3Config.read = some lc3) ∧
      ∀ i, h.audioChannelAllocation.getLsbD i = c.streamMap.any (·.getLsbD i)
  | .leAudioBroadcastConfig c, .leAudioCodecConfig h =>
    (∀ m ∈ c.streamMap, ∀ lc3, m.leAudioCodecConfig = .lc3Config lc3 → h.lc3Config.read = some lc3) ∧
      ∀ i, h.audioChannelAllocation.getLsbD i = c.streamMap.any (·.audioChannelAllocation.getLsbD i)
  | _, _ => False

def Faithful (audio_config : Configuration) : Prop :=
  ∀ u : Uninitialized, ∃ hidl, toHidlAudioConfig_2_1 u audio_config = some hidl ∧ Carries audio_config hidl

/-- The configurations that are translated faithfully. -/
def Translatable : Configuration → Prop
  | .pcmConfig c => 0 ≤ c.dataIntervalUs ∧ c.dataIntervalUs < 2 ^ 32
  | .a2dpConfig c => c.codecType ≠ .opus
  | .a2dp _ => True
  | .leAudioBroadcastConfig c => c.streamMap = []
  | .leAudioConfig _ | .hfpConfig _ => False

/-! ## The configurations of a session -/

/-- The events that providers of the class cause: a start is one that the class
lets through. -/
def FromProviders (c : ProviderClass) : Audio.SessionEvent Configuration → Prop
  | .onSessionStarted _ _ audio_config _ => ∃ config, audio_config = config.toAudio ∧ c.accepts config = true
  | .reportAudioConfigChanged audio_config => ∃ config : Configuration, audio_config = config.toAudio
  | _ => True

/-- The session after the events. -/
def sessionOf (c : ProviderClass) (es : List { e : Audio.SessionEvent Configuration // FromProviders c e }) :
    Audio.Session Configuration := Runs.run (fun s e => s.next c.sessionType e.1) .init es

/-- In some run a ready session of the class's type holds the configuration. -/
def CanHold (c : ProviderClass) (audio_config : Configuration) : Prop :=
  ∃ es, (sessionOf c es).isSessionReady c.sessionType = true ∧
    (sessionOf c es).getAudioConfig c.sessionType = audio_config.toAudio

/-- What the session holds the class lets through. -/
def HoldsAccepted (c : ProviderClass) (s : Audio.Session Configuration) : Prop :=
  ∀ a, s.audio_config_ = some a → ∃ config, a = Configuration.toAudio config ∧ c.accepts config = true

theorem accepts_of_leAudioConfig {c : ProviderClass} (ht : c.sessionType.isLeUnicastOffload = true)
    {config : Configuration} (htag : config.getTag = .leAudioConfig) : c.accepts config = true := by
  cases config with
  | leAudioConfig config => cases c <;> first | rfl | cases ht
  | _ => cases htag

theorem holdsAccepted_next {c : ProviderClass} {s : Audio.Session Configuration} (hs : HoldsAccepted c s)
    {e : Audio.SessionEvent Configuration} (he : FromProviders c e) : HoldsAccepted c (s.next c.sessionType e) := by
  intro a ha
  rcases Audio.Session.audio_config_next c.sessionType s e with h | h | ⟨_, _, a', _, rfl, -, h⟩ | ⟨a', rfl, ht, htag, h⟩
  · rw [h] at ha
    cases ha
  · rw [h] at ha
    exact hs a ha
  · rw [h] at ha
    cases ha
    exact he
  · rw [h] at ha
    cases ha
    obtain ⟨config, rfl⟩ := he
    exact ⟨config, rfl, accepts_of_leAudioConfig ht htag⟩

/-- Exactly what its providers let through can a ready session hold. -/
theorem canHold_iff {c : ProviderClass} {audio_config : Configuration} :
    CanHold c audio_config ↔ c.accepts audio_config = true := by
  constructor
  · rintro ⟨es, hready, hget⟩
    have hinv : HoldsAccepted c (sessionOf c es) := by
      apply Runs.run_inv
      · intro s e hs
        exact holdsAccepted_next hs e.2
      · intro a ha
        cases ha
    obtain ⟨a, ha⟩ := Option.isSome_iff_exists.1 ((Audio.Session.ready_iff _ _).1 hready).2.2
    obtain ⟨config, rfl, hc⟩ := hinv a ha
    rw [Audio.Session.getAudioConfig_ready hready ha] at hget
    rwa [← Configuration.toAudio_injective hget]
  · intro h
    -- One start with a port and a valid queue.
    refine ⟨[⟨.onSessionStarted (some 0) (some ⟨true⟩) audio_config.toAudio [], audio_config, rfl, h⟩], ?_⟩
    have htag : c.sessionType.accepts audio_config.toAudio.tag = true := Audio.accepts_of_accepts h
    have hs : (sessionOf c [⟨.onSessionStarted (some 0) (some ⟨true⟩) audio_config.toAudio [], audio_config, rfl, h⟩]) =
        ⟨some 0, some ⟨true⟩, some audio_config.toAudio, [], true, []⟩ := by
      simp only [sessionOf, Runs.run_cons, Runs.run_nil, Audio.Session.next, Audio.Session.step,
        Audio.Session.onSessionStarted, Audio.Session.updateAudioConfig, htag, if_true, Bool.not_true, Bool.false_eq_true,
        if_false, Audio.Session.updateDataPath]
      rfl
    rw [hs]
    have hready : Audio.Session.isSessionReady c.sessionType
        (⟨some 0, some ⟨true⟩, some audio_config.toAudio, [], true, []⟩ : Audio.Session Configuration) = true := by
      simp [Audio.Session.isSessionReady]
    exact ⟨hready, Audio.Session.getAudioConfig_ready hready rfl⟩

/-! ## Fields -/

/-- A rate of the table reads back. -/
theorem hz_toHidlSampleRate {r : Int} (h : r ∈ sample_rate_to_hidl_2_1_map.map (·.1)) :
    (toHidlSampleRate_2_1 r).hz = some r := by
  have hall : ∀ r ∈ sample_rate_to_hidl_2_1_map.map (·.1), (toHidlSampleRate_2_1 r).hz = some r := by decide
  exact hall r h

theorem bits_toHidlBitsPerSample {b : Int} (h : b ∈ [16, 24, 32]) : (toHidlBitsPerSample b).bits = some b := by
  have hall : ∀ b ∈ [16, 24, 32], (toHidlBitsPerSample b).bits = some b := by decide
  exact hall b h

theorem read_toHidlChannelMode {m : A2dp.ChannelMode} (h : m ∈ [A2dp.ChannelMode.mono, .stereo]) :
    (toHidlChannelMode m).read = m := by
  cases m <;> first | rfl | simp at h

theorem toNat_ofInt_eq {w : Nat} {v : Int} : ((BitVec.ofInt w v).toNat : Int) = v ↔ 0 ≤ v ∧ v < 2 ^ w := by
  have hpos : (0 : Int) < 2 ^ w := by positivity
  rw [BitVec.toNat_ofInt, Int.toNat_of_nonneg (Int.emod_nonneg _ (by exact_mod_cast hpos.ne'))]
  push_cast
  constructor
  · intro h
    rw [← h]
    exact ⟨Int.emod_nonneg _ hpos.ne', Int.emod_lt_of_pos _ hpos⟩
  · rintro ⟨h0, h1⟩
    exact Int.emod_eq_of_lt h0 h1

/-! ## PCM -/

theorem read_pcm {c : PcmConfiguration} (h : isSoftwarePcmConfigurationValid c = true) :
    (toHidlPcmConfig_2_1 c).read = some c ↔ 0 ≤ c.dataIntervalUs ∧ c.dataIntervalUs < 2 ^ 32 := by
  simp only [isSoftwarePcmConfigurationValid, Bool.and_eq_true, List.contains_iff_mem] at h
  obtain ⟨⟨hrate, hbits⟩, hmode⟩ := h
  have hrate : c.sampleRateHz ∈ sample_rate_to_hidl_2_1_map.map (·.1) := by
    have hsub : Audio.kDefaultSoftwarePcmCapabilities.sampleRateHz ⊆ sample_rate_to_hidl_2_1_map.map (·.1) := by decide
    exact hsub hrate
  rw [← toNat_ofInt_eq]
  simp only [PcmParameters_2_1.read, toHidlPcmConfig_2_1, hz_toHidlSampleRate hrate, bits_toHidlBitsPerSample hbits,
    read_toHidlChannelMode hmode]
  cases c
  simp

theorem hz_inj {r r' : SampleRate} (h : r.hz = r'.hz) : r = r' := by
  revert h
  cases r <;> cases r' <;> decide

theorem bits_inj {b b' : BitsPerSample} (h : b.bits = b'.bits) : b = b' := by
  revert h
  cases b <;> cases b' <;> decide

theorem channelMode_inj {m m' : ChannelMode} (h : m.read = m'.read) : m = m' := by
  revert h
  cases m <;> cases m' <;> decide

theorem dataIntervalUs_nonneg {h : PcmParameters_2_1} {c : PcmConfiguration} (hr : h.read = some c) : 0 ≤ c.dataIntervalUs := by
  simp only [PcmParameters_2_1.read, Option.bind_eq_bind, Option.bind_eq_some_iff] at hr
  obtain ⟨_, _, _, _, hc⟩ := hr
  cases hc
  exact Int.natCast_nonneg _

/-- Only one value says the configuration. -/
theorem read_pcm_inj {h h' : PcmParameters_2_1} {c : PcmConfiguration} (hr : h.read = some c) (hr' : h'.read = some c) :
    h = h' := by
  obtain ⟨rate, mode, bits, interval⟩ := h
  obtain ⟨rate', mode', bits', interval'⟩ := h'
  simp only [PcmParameters_2_1.read, Option.bind_eq_bind, Option.bind_eq_some_iff] at hr hr'
  obtain ⟨hz, hrate, b, hbits, hc⟩ := hr
  obtain ⟨hz', hrate', b', hbits', hc'⟩ := hr'
  have hsame := Option.some.inj (hc.trans hc'.symm)
  simp only [PcmConfiguration.mk.injEq, Int.natCast_inj] at hsame
  obtain ⟨rfl, hmode, rfl, hinterval⟩ := hsame
  rw [hz_inj (hrate.trans hrate'.symm), bits_inj (hbits.trans hbits'.symm), channelMode_inj hmode,
    BitVec.eq_of_toNat_eq hinterval]

/-! ## Codecs -/

theorem read_sbc (u : Uninitialized) {c : SbcConfiguration} (h : isOffloadSbcConfigurationValid (.sbcConfig c) = true) :
    (toHidlSbcConfig u c).read = some c := by
  obtain ⟨rate, mode, blocks, subbands, method, bits, minBitpool, maxBitpool⟩ := c
  simp only [isOffloadSbcConfigurationValid, Audio.kDefaultOffloadSbcCapability, Bool.and_eq_true, List.contains_iff_mem,
    List.mem_cons, List.not_mem_nil, or_false, decide_eq_true_eq] at h
  obtain ⟨⟨⟨⟨⟨⟨⟨⟨rfl, hblocks⟩, rfl⟩, rfl⟩, hmode⟩, rfl⟩, hle⟩, hmin⟩, hmax⟩ := h
  have hmin : 2 ≤ minBitpool := of_decide_eq_true hmin
  have hmax : maxBitpool ≤ 53 := of_decide_eq_true hmax
  have hminBitpool : ((BitVec.ofInt 8 minBitpool).toNat : Int) = minBitpool := toNat_ofInt_eq.2 (by omega)
  have hmaxBitpool : ((BitVec.ofInt 8 maxBitpool).toNat : Int) = maxBitpool := toNat_ofInt_eq.2 (by omega)
  have hread : ((sbc_block_length_to_hidl_map.lookup blocks).getD u.hidl_sbc_config.blockLength).read = blocks := by
    rcases hblocks with rfl | rfl | rfl | rfl <;> rfl
  have hmodeRead : ((sbc_channel_mode_to_hidl_2_0_map.lookup mode).getD u.hidl_sbc_config.channelMode).read = mode := by
    rcases hmode with rfl | rfl <;> rfl
  simp only [SbcParameters.read, toHidlSbcConfig, hread, hmodeRead, hminBitpool, hmaxBitpool]
  rfl

theorem read_aac (u : Uninitialized) {c : AacConfiguration} (h : isOffloadAacConfigurationValid (.aacConfig c) = true) :
    (toHidlAacConfig u c).read = some c := by
  obtain ⟨type, rate, mode, vbr, bits⟩ := c
  simp only [isOffloadAacConfigurationValid, Audio.kDefaultOffloadAacCapability, Bool.and_eq_true, List.contains_iff_mem,
    List.mem_cons, List.not_mem_nil, or_false] at h
  obtain ⟨⟨⟨⟨rfl, rfl⟩, rfl⟩, rfl⟩, -⟩ := h
  cases vbr <;> rfl

theorem read_ldac (u : Uninitialized) {c : LdacConfiguration} (h : isOffloadLdacConfigurationValid (.ldacConfig c) = true) :
    (toHidlLdacConfig u c).read = some c := by
  obtain ⟨rate, mode, quality, bits⟩ := c
  simp only [isOffloadLdacConfigurationValid, Audio.kDefaultOffloadLdacCapability, Bool.and_eq_true, List.contains_iff_mem,
    List.mem_cons, List.not_mem_nil, or_false] at h
  obtain ⟨⟨⟨hrate, hbits⟩, hmode⟩, rfl⟩ := h
  have hrate : (toHidlSampleRate_2_0 rate).hz = some rate := by
    rcases hrate with rfl | rfl | rfl | rfl <;> rfl
  have hbits : (toHidlBitsPerSample bits).bits = some bits := bits_toHidlBitsPerSample (by simpa using hbits)
  simp only [LdacParameters.read, toHidlLdacConfig, hrate, hbits]
  rcases hmode with rfl | rfl <;> rfl

/-- aptX and aptX HD differ in the bits only. -/
theorem read_aptx {k : Audio.AptxCapabilities} (hk : k.sampleRateHz = [44100, 48000] ∧ k.channelMode = [.stereo])
    (hb : k.bitsPerSample ⊆ [16, 24, 32]) {c : AptxConfiguration} (h : isAptxConfigurationValid k (.aptxConfig c) = true) :
    (toHidlAptxConfig c).read = some c := by
  obtain ⟨rate, mode, bits⟩ := c
  simp only [isAptxConfigurationValid, hk.1, hk.2, Bool.and_eq_true, List.contains_iff_mem, List.mem_cons,
    List.not_mem_nil, or_false] at h
  obtain ⟨⟨hrate, hbits⟩, rfl⟩ := h
  have hrate : (toHidlSampleRate_2_0 rate).hz = some rate := by
    rcases hrate with rfl | rfl <;> rfl
  simp only [AptxParameters.read, toHidlAptxConfig, hrate, bits_toHidlBitsPerSample (hb hbits)]
  rfl

/-- HIDL has every codec that the offload path accepts but Opus. -/
theorem carries_codec (u : Uninitialized) {t : Audio.SessionType} {c : Audio.CodecConfiguration}
    (h : isOffloadCodecConfigurationValid t c = true) :
    Carries (.a2dpConfig c) (.codecConfig (toHidlCodecConfig_2_0 u c)) ↔ c.codecType ≠ .opus := by
  obtain ⟨codecType, bitrate, mtu, scmst, config⟩ := c
  unfold isOffloadCodecConfigurationValid at h
  split at h
  · cases h
  cases codecType with
  | sbc =>
    cases config with
    | sbcConfig c => exact iff_of_true ⟨rfl, by simp only [toHidlCodecConfig_2_0, CodecSpecific.read, read_sbc u h]; rfl⟩ nofun
    | _ => cases h
  | aac =>
    cases config with
    | aacConfig c => exact iff_of_true ⟨rfl, by simp only [toHidlCodecConfig_2_0, CodecSpecific.read, read_aac u h]; rfl⟩ nofun
    | _ => cases h
  | ldac =>
    cases config with
    | ldacConfig c =>
      exact iff_of_true ⟨rfl, by simp only [toHidlCodecConfig_2_0, CodecSpecific.read, read_ldac u h]; rfl⟩ nofun
    | _ => cases h
  | aptx =>
    cases config with
    | aptxConfig c =>
      have hread := read_aptx ⟨rfl, rfl⟩ (by decide) h
      exact iff_of_true ⟨rfl, by simp only [toHidlCodecConfig_2_0, CodecSpecific.read, hread]; rfl⟩ nofun
    | _ => cases h
  | aptxHd =>
    cases config with
    | aptxConfig c =>
      have hread := read_aptx ⟨rfl, rfl⟩ (by decide) h
      exact iff_of_true ⟨rfl, by simp only [toHidlCodecConfig_2_0, CodecSpecific.read, hread]; rfl⟩ nofun
    | _ => cases h
  | opus =>
    refine iff_of_false ?_ (fun hne => hne rfl)
    rintro ⟨hc, -⟩
    cases hc
  | _ => cases h

/-! ## LE audio -/

/-- The unicast translation aborts. -/
theorem toHidlLeaudioConfig_none (u : Uninitialized) (c : Audio.LeAudioConfiguration) : toHidlLeaudioConfig_2_1 u c = none := by
  unfold toHidlLeaudioConfig_2_1
  cases c.leAudioCodecConfig with
  | lc3Config lc3 => rfl
  | other => rfl

/-- The frame duration is what the memory held: 10000 and 7500 are no rates. -/
theorem frameDuration_of_read {u : Uninitialized} {lc3 : Audio.Lc3Configuration}
    (h : (toHidlLc3Config_2_1 u lc3).read = some lc3) : u.hidl_lc3_config.frameDuration.us = lc3.frameDurationUs := by
  obtain ⟨bits, -, h⟩ := Option.bind_eq_some_iff.1 h
  obtain ⟨rate, hrate, h⟩ := Option.bind_eq_some_iff.1 h
  have hus : (toHidlLc3Config_2_1 u lc3).frameDuration.us = lc3.frameDurationUs := by
    injection h with h
    exact congrArg (·.frameDurationUs) h
  have hne : lc3.samplingFrequencyHz ≠ 10000 ∧ lc3.samplingFrequencyHz ≠ 7500 := by
    constructor
    · intro he
      simp only [toHidlLc3Config_2_1, he] at hrate
      cases hrate
    · intro he
      simp only [toHidlLc3Config_2_1, he] at hrate
      cases hrate
  rw [← hus, toHidlLc3Config_2_1, if_neg hne.1, if_neg hne.2]

/-- A memory that holds another duration. -/
theorem exists_frameDuration_ne (v : Int) : ∃ u : Uninitialized, u.hidl_lc3_config.frameDuration.us ≠ v := by
  have hall : ∀ d : Lc3FrameDuration, ∃ u : Uninitialized, u.hidl_lc3_config.frameDuration = d := by
    intro d
    exact ⟨⟨⟨.rateUnknown, .unknown, .blocks4, .subband4, .allocMdS, .bitsUnknown, 0, 0⟩,
      ⟨.mpeg2Lc, .rateUnknown, .unknown, .disabled, .bitsUnknown⟩, ⟨.rateUnknown, .unknown, .qualityHigh, .bitsUnknown⟩,
      ⟨.bitsUnknown, .rateUnknown, d, 0, 0⟩⟩, rfl⟩
  by_cases hv : v = 10000
  · obtain ⟨u, hu⟩ := hall .duration7500us
    refine ⟨u, ?_⟩
    rw [hu, hv]
    decide
  · obtain ⟨u, hu⟩ := hall .duration10000us
    refine ⟨u, ?_⟩
    rw [hu]
    exact fun he => hv he.symm

theorem Faithful.carried {audio_config : Configuration} (h : Faithful audio_config) :
    ∃ u hidl, toHidlAudioConfig_2_1 u audio_config = some hidl ∧ Carries audio_config hidl := by
  obtain ⟨u, -⟩ := exists_frameDuration_ne 0
  exact ⟨u, h u⟩

theorem faithful_broadcast (c : Audio.LeAudioBroadcastConfiguration) :
    Faithful (.leAudioBroadcastConfig c) ↔ c.streamMap = [] := by
  obtain ⟨streamMap, rest⟩ := c
  cases streamMap with
  | nil =>
    refine iff_of_true (fun u => ⟨_, rfl, ?_, ?_⟩) rfl
    · intro m hm
      cases hm
    · intro i
      simp
  | cons first streams =>
    refine iff_of_false ?_ (List.cons_ne_nil _ _)
    intro h
    cases hf : first.leAudioCodecConfig with
    | other =>
      obtain ⟨u, hidl, hh, -⟩ := h.carried
      simp only [toHidlAudioConfig_2_1, toHidlLeaudioBroadcastConfig_2_1, hf] at hh
      cases hh
    | lc3Config lc3 =>
      obtain ⟨u, hu⟩ := exists_frameDuration_ne lc3.frameDurationUs
      obtain ⟨hidl, hh, hc⟩ := h u
      simp only [toHidlAudioConfig_2_1, toHidlLeaudioBroadcastConfig_2_1, hf, getLc3Config] at hh
      cases hh
      exact hu (frameDuration_of_read (hc.1 first List.mem_cons_self lc3 hf))

/-! ## The translation of what a session holds -/

theorem valid_of_accepts_pcm {c : ProviderClass} {pcm : PcmConfiguration} (h : c.accepts (.pcmConfig pcm) = true) :
    isSoftwarePcmConfigurationValid pcm = true := by
  cases c with
  | a2dpSoftwareEncoding | a2dpSoftwareDecoding | hearingAid => exact h
  | leAudioSoftwareOutput | leAudioSoftwareInput | leAudioSoftwareBroadcast => exact (Bool.and_eq_true_iff.1 h).1
  | hfpSoftwareOutput | hfpSoftwareInput =>
    simp only [ProviderClass.accepts, Audio.HfpSoftwareAudioProvider.accepts, Bool.and_eq_true] at h
    exact h.1.1.1.1
  | _ => cases h

theorem valid_of_accepts_codec {c : ProviderClass} {codec : Audio.CodecConfiguration}
    (h : c.accepts (.a2dpConfig codec) = true) : isOffloadCodecConfigurationValid c.sessionType codec = true := by
  cases c <;> exact h

/-- A configuration that a ready session holds is translated faithfully exactly
when it is Pcm with an interval that is not negative, an A2DP codec other than
Opus, or a broadcast without streams; for LE audio unicast the translation
always aborts. -/
theorem faithful_iff {c : ProviderClass} {audio_config : Configuration} (h : CanHold c audio_config) :
    Faithful audio_config ↔ Translatable audio_config := by
  rw [canHold_iff] at h
  cases audio_config with
  | pcmConfig pcm =>
    have hread := read_pcm (valid_of_accepts_pcm h)
    refine Iff.trans ⟨?_, ?_⟩ hread
    · intro hf
      obtain ⟨u, hidl, hh, hc⟩ := hf.carried
      cases hh
      exact hc
    · intro hc u
      exact ⟨_, rfl, hc⟩
  | a2dpConfig codec =>
    have hcarries := fun u => carries_codec u (valid_of_accepts_codec h)
    constructor
    · intro hf
      obtain ⟨u, hidl, hh, hc⟩ := hf.carried
      cases hh
      exact (hcarries u).1 hc
    · intro hne u
      exact ⟨_, rfl, (hcarries u).2 hne⟩
  | a2dp a2dp => exact iff_of_true (fun u => ⟨_, rfl, trivial⟩) trivial
  | leAudioConfig unicast =>
    refine iff_of_false ?_ id
    intro hf
    obtain ⟨u, hidl, hh, -⟩ := hf.carried
    simp only [toHidlAudioConfig_2_1, toHidlLeaudioConfig_none] at hh
    cases hh
  | leAudioBroadcastConfig broadcast => exact faithful_broadcast broadcast
  | hfpConfig =>
    refine iff_of_false ?_ id
    intro hf
    obtain ⟨u, hidl, hh, -⟩ := hf.carried
    cases hh

/-- A hearing aid session at 16 kHz. -/
theorem faithful_hearingAid : Faithful (.pcmConfig ⟨16000, .mono, 16, 10000⟩) :=
  (faithful_iff (c := .hearingAid) (canHold_iff.2 rfl)).2 ⟨by decide, by decide⟩

/-- An LE audio output session with one LC3 stream. -/
theorem faithful_fails_leAudio :
    CanHold .leAudioOffloadOutput (.leAudioConfig ⟨[1], .lc3Config ⟨16, 48000, 10000, 120, 1⟩, 0⟩) ∧
      ¬ Faithful (.leAudioConfig ⟨[1], .lc3Config ⟨16, 48000, 10000, 120, 1⟩, 0⟩) := by
  refine ⟨canHold_iff.2 rfl, ?_⟩
  intro h
  obtain ⟨u, hidl, hh, -⟩ := h.carried
  cases hh

end PhhTreble.Hidl

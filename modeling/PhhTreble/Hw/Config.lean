import PhhTreble.Audio.QueueSize
import PhhTreble.Hidl.Faithful
import PhhTreble.Hw.Mono
/-!
# The configuration of a stream

What `adev_open_output_stream` and `adev_open_input_stream` make of the
configuration of the session, over AIDL and over HIDL, and what the stream says
of it later. The size of a buffer is held against the data queue of the session.
-/

namespace PhhTreble.Hw
open Audio

/-! ## The data model -/

/-- `audio_channel_mask_t`; another mask counts so many channels. -/
inductive ChannelMask where
  | outMono | outStereo | inMono | inStereo
  | other (channels : Nat)
deriving DecidableEq, Repr

/-- `audio_format_t`; another format has so many bytes per sample. -/
inductive AudioFormat where
  | pcm16Bit | pcm24BitPacked | pcm8_24Bit | pcm32Bit
  | other (bytes : Nat)
deriving DecidableEq, Repr

/-- `audio_channel_count_from_out_mask` and `audio_channel_count_from_in_mask`. -/
def ChannelMask.channels : ChannelMask → Nat
  | outMono | inMono => 1
  | outStereo | inStereo => 2
  | other channels => channels

/-- `audio_bytes_per_sample`. -/
def AudioFormat.bytesPerSample : AudioFormat → Nat
  | pcm16Bit => 2
  | pcm24BitPacked => 3
  | pcm8_24Bit | pcm32Bit => 4
  | other bytes => bytes

/-- `audio_config`. -/
structure AudioConfig where
  sample_rate : Nat
  channel_mask : ChannelMask
  format : AudioFormat
deriving DecidableEq, Repr

inductive Direction where
  | output | input
deriving DecidableEq, Repr

def kBluetoothDefaultSampleRate : Nat := 44100

def kBluetoothDefaultAudioFormatBitsPerSample : AudioFormat := .pcm16Bit

def kBluetoothDefaultInputBufferMs : Nat := 20

def kBluetoothDefaultOutputBufferMs : Nat := 10

def kBluetoothSpatializerOutputBufferMs : Nat := 10

/-- `kBluetoothDefaultOutputChannelModeMask` and `kBluetoothDefaultInputChannelModeMask`. -/
def defaultChannelModeMask : Direction → ChannelMask
  | .output => .outStereo
  | .input => .inMono

def defaultConfig (direction : Direction) : AudioConfig :=
  ⟨kBluetoothDefaultSampleRate, defaultChannelModeMask direction, kBluetoothDefaultAudioFormatBitsPerSample⟩

/-! ## The port over AIDL -/

namespace BluetoothAudioPortAidl

/-- `OutputChannelModeToAudioFormat` and `InputChannelModeToAudioFormat`. -/
def channelModeToAudioFormat : Direction → A2dp.ChannelMode → ChannelMask
  | .output, .mono => .outMono
  | .output, .stereo => .outStereo
  | .input, .mono => .inMono
  | .input, .stereo => .inStereo
  | direction, _ => defaultChannelModeMask direction

def bitsPerSampleToAudioFormat (bits_per_sample : Int) (session_type : SessionType) : AudioFormat :=
  if bits_per_sample = 16 then .pcm16Bit
  else if bits_per_sample = 24 then
    -- Classic sessions take packed samples, the LC3 encoder takes unpacked ones.
    if session_type = .a2dpHardwareOffloadEncodingDatapath ∨ session_type = .a2dpSoftwareEncodingDatapath then
      .pcm24BitPacked
    else .pcm8_24Bit
  else if bits_per_sample = 32 then .pcm32Bit
  else kBluetoothDefaultAudioFormatBitsPerSample

/-- `LoadAudioConfig` of a port in use; only an output port has `is_stereo_to_mono_` set. -/
def loadAudioConfig (direction : Direction) (session_type_ : SessionType) (hal_audio_cfg : Configuration)
    (is_stereo_to_mono_ : Bool) (audio_cfg : AudioConfig) : Bool × AudioConfig :=
  match hal_audio_cfg with
  | .pcmConfig pcm_cfg =>
    if pcm_cfg.channelMode = .unknown then (false, audio_cfg)
    else
      (true,
        { sample_rate := (BitVec.ofInt 32 pcm_cfg.sampleRateHz).toNat
          channel_mask :=
            if is_stereo_to_mono_ then .outStereo else channelModeToAudioFormat direction pcm_cfg.channelMode
          format := bitsPerSampleToAudioFormat pcm_cfg.bitsPerSample session_type_ })
  | _ => (false, defaultConfig direction)

/-- `GetPreferredDataIntervalUs`: an `int` that becomes a `size_t`. -/
def getPreferredDataIntervalUs : Configuration → Option Nat
  | .pcmConfig pcm_cfg => some (BitVec.ofInt 64 pcm_cfg.dataIntervalUs).toNat
  | _ => none

end BluetoothAudioPortAidl

/-! ## The port over HIDL -/

namespace BluetoothAudioPortHidl

open Hidl (SampleRate ChannelMode BitsPerSample AudioConfiguration_2_1)

def sampleRateToAudioFormat : SampleRate → Nat
  | .rate8000 => 8000
  | .rate16000 => 16000
  | .rate24000 => 24000
  | .rate32000 => 32000
  | .rate44100 => 44100
  | .rate48000 => 48000
  | .rate88200 => 88200
  | .rate96000 => 96000
  | .rate176400 => 176400
  | .rate192000 => 192000
  | _ => kBluetoothDefaultSampleRate

/-- `OutputChannelModeToAudioFormat` and `InputChannelModeToAudioFormat`. -/
def channelModeToAudioFormat : Direction → ChannelMode → ChannelMask
  | .output, .mono => .outMono
  | .output, .stereo => .outStereo
  | .input, .mono => .inMono
  | .input, .stereo => .inStereo
  | direction, _ => defaultChannelModeMask direction

def bitsPerSampleToAudioFormat : BitsPerSample → AudioFormat
  | .bits16 => .pcm16Bit
  | .bits24 => .pcm24BitPacked
  | .bits32 => .pcm32Bit
  | _ => kBluetoothDefaultAudioFormatBitsPerSample

def loadAudioConfig (direction : Direction) (hal_audio_cfg : AudioConfiguration_2_1) (is_stereo_to_mono_ : Bool)
    (audio_cfg : AudioConfig) : Bool × AudioConfig :=
  match hal_audio_cfg with
  | .pcmConfig pcm_cfg =>
    if pcm_cfg.sampleRate = .rateUnknown ∨ pcm_cfg.channelMode = .unknown ∨ pcm_cfg.bitsPerSample = .bitsUnknown then
      (false, audio_cfg)
    else
      (true,
        { sample_rate := sampleRateToAudioFormat pcm_cfg.sampleRate
          channel_mask :=
            if is_stereo_to_mono_ then .outStereo else channelModeToAudioFormat direction pcm_cfg.channelMode
          format := bitsPerSampleToAudioFormat pcm_cfg.bitsPerSample })
  | _ => (false, defaultConfig direction)

def getPreferredDataIntervalUs : AudioConfiguration_2_1 → Option Nat
  | .pcmConfig pcm_cfg => some pcm_cfg.dataIntervalUs.toNat
  | _ => none

end BluetoothAudioPortHidl

/-! ## Opening a stream -/

/-- What a port says of the session: `LoadAudioConfig` and `GetPreferredDataIntervalUs`. -/
structure PortConfig where
  loadAudioConfig : Bool → AudioConfig → Bool × AudioConfig
  preferredDataIntervalUs : Option Nat

def BluetoothAudioPortAidl.port (direction : Direction) (session_type_ : SessionType) (hal_audio_cfg : Configuration) : PortConfig :=
  ⟨loadAudioConfig direction session_type_ hal_audio_cfg, getPreferredDataIntervalUs hal_audio_cfg⟩

def BluetoothAudioPortHidl.port (direction : Direction) (hal_audio_cfg : Hidl.AudioConfiguration_2_1) : PortConfig :=
  ⟨loadAudioConfig direction hal_audio_cfg, getPreferredDataIntervalUs hal_audio_cfg⟩

/-- The configuration in a `BluetoothStreamOut` or `BluetoothStreamIn`. -/
structure StreamConfig where
  sample_rate_ : Nat
  channel_mask_ : ChannelMask
  format_ : AudioFormat
  is_stereo_to_mono_ : Bool
  preferred_data_interval_us : Nat
  frames_count_ : Nat
deriving DecidableEq, Repr

/-- `FrameCount`, in `uint64_t`. -/
def frameCount (microseconds sample_rate : Nat) : Nat := microseconds * sample_rate % 2 ^ 64 / 1000000

/-- The interval of the port, or the default for none and for zero. -/
def dataIntervalUs (port : PortConfig) (defaultMs : Nat) : Nat :=
  match port.preferredDataIntervalUs with
  | some interval => if interval ≠ 0 then interval else defaultMs * 1000
  | none => defaultMs * 1000

/-- `adev_open_output_stream`, with the `config` of its caller; `spatialized` are
the flags for spatialized output. -/
def adevOpenOutputStream (port : PortConfig) (spatialized : Bool) (config : AudioConfig) : StreamConfig :=
  let config := (port.loadAudioConfig false config).2
  let mono := config.channel_mask == .outMono && config.format == .pcm16Bit
  let interval := dataIntervalUs port kBluetoothDefaultOutputBufferMs
  let interval :=
    if spatialized ∧ interval < kBluetoothSpatializerOutputBufferMs * 1000 then kBluetoothSpatializerOutputBufferMs * 1000
    else interval
  { sample_rate_ := config.sample_rate
    channel_mask_ := if mono then .outStereo else config.channel_mask
    format_ := config.format
    is_stereo_to_mono_ := mono
    preferred_data_interval_us := interval
    frames_count_ := frameCount interval config.sample_rate }

/-- `adev_open_input_stream`; none is -EINVAL. -/
def adevOpenInputStream (port : PortConfig) (config : AudioConfig) : Option StreamConfig :=
  let (loaded, config) := port.loadAudioConfig false config
  if !loaded then none
  else
    let interval := dataIntervalUs port kBluetoothDefaultInputBufferMs
    some
      { sample_rate_ := config.sample_rate
        channel_mask_ := config.channel_mask
        format_ := config.format
        is_stereo_to_mono_ := false
        preferred_data_interval_us := interval
        frames_count_ := frameCount interval config.sample_rate }

namespace StreamConfig

variable (s : StreamConfig) (port : PortConfig) (audio_cfg : AudioConfig)

/-- What the session says now, or else what it said as the stream was opened;
`audio_cfg` is not initialised. -/
def current : AudioConfig :=
  let (loaded, audio_cfg) := port.loadAudioConfig s.is_stereo_to_mono_ audio_cfg
  if loaded then audio_cfg else ⟨s.sample_rate_, s.channel_mask_, s.format_⟩

def outGetSampleRate : Nat := (s.current port audio_cfg).sample_rate

def outGetChannels : ChannelMask := (s.current port audio_cfg).channel_mask

def outGetFormat : AudioFormat := (s.current port audio_cfg).format

/-- `audio_stream_out_frame_size`. -/
def frameSize : Nat := (s.outGetChannels port audio_cfg).channels * (s.outGetFormat port audio_cfg).bytesPerSample

/-- `out_get_buffer_size`, a `size_t`. -/
def outGetBufferSize : Nat := s.frames_count_ * s.frameSize port audio_cfg % 2 ^ 64

/-- What is mixed are the samples of the stream: `WriteData` takes 16 bit ones. -/
def MixesSamples : Prop := s.is_stereo_to_mono_ = true → s.outGetFormat port audio_cfg = .pcm16Bit

/-- The bytes that `WriteData` has for the queue. -/
def queued (mix : BitVec 16 → BitVec 16 → BitVec 16) (buffer : List Byte) : List Byte :=
  if s.is_stereo_to_mono_ then downmix mix buffer else buffer

end StreamConfig

/-! ## An accepted configuration -/

/-- Classic sessions take 24 bit samples packed. -/
def Packed (session_type : SessionType) : Prop :=
  session_type = .a2dpHardwareOffloadEncodingDatapath ∨ session_type = .a2dpSoftwareEncodingDatapath

section Accepted

variable {pcm : PcmConfiguration} (h : BluetoothAudioCodecs.isSoftwarePcmConfigurationValid pcm = true)
include h

theorem accepted_fields :
    pcm.sampleRateHz ∈ kDefaultSoftwarePcmCapabilities.sampleRateHz ∧ pcm.bitsPerSample ∈ [16, 24, 32] ∧
      pcm.channelMode ∈ [A2dp.ChannelMode.mono, .stereo] := by
  simp only [BluetoothAudioCodecs.isSoftwarePcmConfigurationValid, Bool.and_eq_true, List.contains_iff_mem] at h
  exact ⟨h.1.1, h.1.2, h.2⟩

theorem BluetoothAudioPortAidl.loadAudioConfig_accepted (direction : Direction) (session_type_ : SessionType)
    (is_stereo_to_mono_ : Bool) (audio_cfg : AudioConfig) :
    loadAudioConfig direction session_type_ (.pcmConfig pcm) is_stereo_to_mono_ audio_cfg =
      (true,
        ⟨(BitVec.ofInt 32 pcm.sampleRateHz).toNat,
          if is_stereo_to_mono_ then .outStereo else channelModeToAudioFormat direction pcm.channelMode,
          bitsPerSampleToAudioFormat pcm.bitsPerSample session_type_⟩) := by
  have hknown : pcm.channelMode ≠ .unknown := by
    have hmode := (accepted_fields h).2.2
    intro hu
    rw [hu] at hmode
    exact absurd hmode (by decide)
  simp only [loadAudioConfig, if_neg hknown]

/-- Over HIDL it is what a classic session has over AIDL. -/
theorem BluetoothAudioPortHidl.loadAudioConfig_accepted (direction : Direction) (is_stereo_to_mono_ : Bool)
    (audio_cfg : AudioConfig) :
    loadAudioConfig direction (.pcmConfig (Hidl.toHidlPcmConfig_2_1 pcm)) is_stereo_to_mono_ audio_cfg =
      (true,
        ⟨(BitVec.ofInt 32 pcm.sampleRateHz).toNat,
          if is_stereo_to_mono_ then .outStereo
          else BluetoothAudioPortAidl.channelModeToAudioFormat direction pcm.channelMode,
          BluetoothAudioPortAidl.bitsPerSampleToAudioFormat pcm.bitsPerSample .a2dpSoftwareEncodingDatapath⟩) := by
  obtain ⟨hrate, hbits, hmode⟩ := accepted_fields h
  have hrates : ∀ r ∈ kDefaultSoftwarePcmCapabilities.sampleRateHz, Hidl.toHidlSampleRate_2_1 r ≠ .rateUnknown ∧
      sampleRateToAudioFormat (Hidl.toHidlSampleRate_2_1 r) = (BitVec.ofInt 32 r).toNat := by decide
  have hbitss : ∀ b ∈ [16, 24, 32], Hidl.toHidlBitsPerSample b ≠ .bitsUnknown ∧
      bitsPerSampleToAudioFormat (Hidl.toHidlBitsPerSample b) =
        BluetoothAudioPortAidl.bitsPerSampleToAudioFormat b .a2dpSoftwareEncodingDatapath := by decide
  have hmodes : ∀ m ∈ [A2dp.ChannelMode.mono, .stereo], Hidl.toHidlChannelMode m ≠ .unknown ∧
      channelModeToAudioFormat direction (Hidl.toHidlChannelMode m) =
        BluetoothAudioPortAidl.channelModeToAudioFormat direction m := by
    cases direction <;> decide
  simp only [loadAudioConfig, Hidl.toHidlPcmConfig_2_1, (hrates _ hrate).1, (hrates _ hrate).2, (hbitss _ hbits).1,
    (hbitss _ hbits).2, (hmodes _ hmode).1, (hmodes _ hmode).2, or_self, if_false]

end Accepted

/-- The two formats are one, but for unpacked samples. -/
theorem format_iff {bits : Int} (h : bits ∈ [16, 24, 32]) (session_type : SessionType) :
    BluetoothAudioPortAidl.bitsPerSampleToAudioFormat bits .a2dpSoftwareEncodingDatapath =
        BluetoothAudioPortAidl.bitsPerSampleToAudioFormat bits session_type ↔
      (bits = 24 → Packed session_type) := by
  simp only [List.mem_cons, List.not_mem_nil, or_false] at h
  unfold Packed
  rcases h with rfl | rfl | rfl
  · simp [BluetoothAudioPortAidl.bitsPerSampleToAudioFormat]
  · by_cases hp : session_type = .a2dpHardwareOffloadEncodingDatapath ∨ session_type = .a2dpSoftwareEncodingDatapath
    · simp [BluetoothAudioPortAidl.bitsPerSampleToAudioFormat, hp]
    · simp [BluetoothAudioPortAidl.bitsPerSampleToAudioFormat, hp]
  · simp [BluetoothAudioPortAidl.bitsPerSampleToAudioFormat]

/-! ## AIDL against HIDL -/

/-- Where they agree on the format, the two ports say the same. -/
theorem port_eq {pcm : PcmConfiguration} (h : BluetoothAudioCodecs.isSoftwarePcmConfigurationValid pcm = true)
    (session_type_ : SessionType) (direction : Direction) (hlow : 0 ≤ pcm.dataIntervalUs) (hhigh : pcm.dataIntervalUs < 2 ^ 31)
    (hpacked : pcm.bitsPerSample = 24 → Packed session_type_) :
    BluetoothAudioPortHidl.port direction (.pcmConfig (Hidl.toHidlPcmConfig_2_1 pcm)) =
      BluetoothAudioPortAidl.port direction session_type_ (.pcmConfig pcm) := by
  have hload : BluetoothAudioPortHidl.loadAudioConfig direction (.pcmConfig (Hidl.toHidlPcmConfig_2_1 pcm)) =
      BluetoothAudioPortAidl.loadAudioConfig direction session_type_ (.pcmConfig pcm) := by
    funext is_stereo_to_mono_ audio_cfg
    rw [BluetoothAudioPortHidl.loadAudioConfig_accepted h, BluetoothAudioPortAidl.loadAudioConfig_accepted h,
      (format_iff (accepted_fields h).2.1 session_type_).2 hpacked]
  have hus : (BitVec.ofInt 32 pcm.dataIntervalUs).toNat = (BitVec.ofInt 64 pcm.dataIntervalUs).toNat := by
    rw [BitVec.toNat_ofInt, BitVec.toNat_ofInt]
    omega
  unfold BluetoothAudioPortHidl.port BluetoothAudioPortAidl.port
  rw [hload]
  exact congrArg (PortConfig.mk _) (congrArg some hus)

/-- A session says a configuration over HIDL, another one says it over AIDL: the
streams opened on them are the same exactly when the samples are not the unpacked
ones of LE audio. -/
theorem opened_alike_iff {c : ProviderClass} {pcm : PcmConfiguration} (h : Hidl.CanHold c (.pcmConfig pcm))
    (hhigh : pcm.dataIntervalUs < 2 ^ 31) {hidl : Hidl.PcmParameters_2_1} (hread : hidl.read = some pcm)
    (spatialized : Bool) (config : AudioConfig) :
    (adevOpenOutputStream (BluetoothAudioPortHidl.port .output (.pcmConfig hidl)) spatialized config =
        adevOpenOutputStream (BluetoothAudioPortAidl.port .output c.sessionType (.pcmConfig pcm)) spatialized config ↔
      (pcm.bitsPerSample = 24 → Packed c.sessionType)) ∧
    (adevOpenInputStream (BluetoothAudioPortHidl.port .input (.pcmConfig hidl)) config =
        adevOpenInputStream (BluetoothAudioPortAidl.port .input c.sessionType (.pcmConfig pcm)) config ↔
      (pcm.bitsPerSample = 24 → Packed c.sessionType)) := by
  have hvalid : BluetoothAudioCodecs.isSoftwarePcmConfigurationValid pcm = true :=
    Hidl.valid_of_accepts_pcm (Hidl.canHold_iff.1 h)
  have hlow : 0 ≤ pcm.dataIntervalUs := Hidl.dataIntervalUs_nonneg hread
  obtain rfl : hidl = Hidl.toHidlPcmConfig_2_1 pcm :=
    Hidl.read_pcm_inj hread ((Hidl.read_pcm hvalid).2 ⟨hlow, hhigh.trans (by decide)⟩)
  have hformat := format_iff (accepted_fields hvalid).2.1 c.sessionType
  refine ⟨⟨?_, ?_⟩, ⟨?_, ?_⟩⟩
  · intro hsame
    have hformats := congrArg StreamConfig.format_ hsame
    simp only [adevOpenOutputStream, BluetoothAudioPortHidl.port, BluetoothAudioPortAidl.port,
      BluetoothAudioPortHidl.loadAudioConfig_accepted hvalid, BluetoothAudioPortAidl.loadAudioConfig_accepted hvalid]
      at hformats
    exact hformat.1 hformats
  · intro hpacked
    rw [port_eq hvalid c.sessionType .output hlow hhigh hpacked]
  · intro hsame
    simp only [adevOpenInputStream, BluetoothAudioPortHidl.port, BluetoothAudioPortAidl.port,
      BluetoothAudioPortHidl.loadAudioConfig_accepted hvalid, BluetoothAudioPortAidl.loadAudioConfig_accepted hvalid,
      Bool.not_true, Bool.false_eq_true, if_false, Option.some.injEq, StreamConfig.mk.injEq] at hsame
    obtain ⟨-, -, hformats, -, -, -⟩ := hsame
    exact hformat.1 hformats
  · intro hpacked
    rw [port_eq hvalid c.sessionType .input hlow hhigh hpacked]

/-- LE audio at 24 bits. -/
theorem opened_alike_iff_unpacked :
    let config : AudioConfig := ⟨44100, .outStereo, .pcm16Bit⟩
    ¬ adevOpenOutputStream (BluetoothAudioPortHidl.port .output (.pcmConfig ⟨.rate48000, .stereo, .bits24, 10000⟩)) false config =
      adevOpenOutputStream
        (BluetoothAudioPortAidl.port .output .leAudioSoftwareEncodingDatapath (.pcmConfig ⟨48000, .stereo, 24, 10000⟩)) false
        config := by
  intro config hsame
  have hhold : Hidl.CanHold .leAudioSoftwareOutput (.pcmConfig ⟨48000, .stereo, 24, 10000⟩) := Hidl.canHold_iff.2 (by decide)
  have hread : (⟨.rate48000, .stereo, .bits24, 10000⟩ : Hidl.PcmParameters_2_1).read = some ⟨48000, .stereo, 24, 10000⟩ := rfl
  have h := opened_alike_iff hhold (by decide) hread false config
  have hpacked : Packed .leAudioSoftwareEncodingDatapath := h.1.1 hsame rfl
  simp [Packed] at hpacked

/-! ## Buffers and the data queue -/

/-- The frames of an interval take no more of the queue than it has, and half of
it for whole milliseconds. -/
theorem frames_le (rate frame : Nat) {interval : Nat} (hms : 0 < interval / 1000) :
    interval * rate / 1000000 * frame ≤ rate * frame * (interval / 1000) * 2 / 1000 ∧
      (1000 ∣ interval → 2 * (interval * rate / 1000000 * frame) ≤ rate * frame * (interval / 1000) * 2 / 1000) := by
  have hframes : interval * rate / 1000000 * 1000000 ≤ interval * rate := Nat.div_mul_le_self _ _
  generalize interval * rate / 1000000 = frames at hframes ⊢
  -- of `count` milliseconds no more than these
  have hcut : ∀ count : Nat, interval ≤ 1000 * count → frames * 1000 ≤ count * rate := by
    intro count hle
    have hmul : interval * rate ≤ 1000 * count * rate := Nat.mul_le_mul_right rate hle
    have hsplit : 1000 * (frames * 1000) = frames * 1000000 := Nat.mul_left_comm 1000 frames 1000
    have hle : 1000 * (frames * 1000) ≤ 1000 * (count * rate) := by
      rw [hsplit, ← Nat.mul_assoc]
      exact Nat.le_trans hframes hmul
    exact Nat.le_of_mul_le_mul_left hle (by decide)
  generalize hcount : interval / 1000 = ms at hms ⊢
  rw [Nat.le_div_iff_mul_le (by decide), Nat.le_div_iff_mul_le (by decide)]
  constructor
  · have hle : frames * 1000 ≤ 2 * ms * rate := hcut (2 * ms) (by omega)
    calc frames * frame * 1000 = frames * 1000 * frame := by ring
      _ ≤ 2 * ms * rate * frame := Nat.mul_le_mul_right frame hle
      _ = rate * frame * ms * 2 := by ring
  · intro hdvd
    have hle : frames * 1000 ≤ ms * rate := hcut ms (by omega)
    calc 2 * (frames * frame) * 1000 = frames * 1000 * (frame * 2) := by ring
      _ ≤ ms * rate * (frame * 2) := Nat.mul_le_mul_right (frame * 2) hle
      _ = rate * frame * ms * 2 := by ring

theorem frameCount_lt (microseconds sample_rate : Nat) : frameCount microseconds sample_rate < 2 ^ 45 := by
  unfold frameCount
  generalize microseconds * sample_rate = n
  omega

/-- What a frame of the caller comes to in the queue is a frame of the session. -/
theorem frame_cases {c : ProviderClass} (hc : c = .leAudioSoftwareOutput ∨ c = .leAudioSoftwareBroadcast)
    {pcm : PcmConfiguration} (h : BluetoothAudioCodecs.isSoftwarePcmConfigurationValid pcm = true) (spatialized : Bool)
    (config audio_cfg : AudioConfig) :
    let port := BluetoothAudioPortAidl.port .output c.sessionType (.pcmConfig pcm)
    let out := adevOpenOutputStream port spatialized config
    out.is_stereo_to_mono_ = true ∧ out.frameSize port audio_cfg = 4 ∧ pcm.channels * pcm.bytesPerSample = 2 ∨
      out.is_stereo_to_mono_ = false ∧ (out.frameSize port audio_cfg : Int) = pcm.channels * pcm.bytesPerSample := by
  obtain ⟨-, hbits, hmode⟩ := accepted_fields h
  obtain ⟨rate, mode, bits, interval⟩ := pcm
  simp only [List.mem_cons, List.not_mem_nil, or_false] at hbits hmode
  rcases hc with rfl | rfl <;> rcases hmode with rfl | rfl <;> rcases hbits with rfl | rfl | rfl <;>
    first
    | exact .inl ⟨rfl, rfl, rfl⟩
    | exact .inr ⟨rfl, rfl⟩

/-- The frames of a stream that opens on an accepted configuration. -/
theorem frames_count_eq {pcm : PcmConfiguration} (h : BluetoothAudioCodecs.isSoftwarePcmConfigurationValid pcm = true)
    {rate interval : Nat} (hrate : pcm.sampleRateHz = rate) (hinterval : pcm.dataIntervalUs = interval)
    (hpos : 0 < interval) (hhigh : interval < 2 ^ 31) (session_type_ : SessionType) (spatialized : Bool) (config : AudioConfig) :
    (adevOpenOutputStream (BluetoothAudioPortAidl.port .output session_type_ (.pcmConfig pcm)) spatialized
      config).frames_count_ = (if spatialized = true ∧ interval < 10000 then 10000 else interval) * rate / 1000000 := by
  have hall : ∀ r ∈ kDefaultSoftwarePcmCapabilities.sampleRateHz, r ≤ 96000 := by decide
  have hmax : rate ≤ 96000 := by
    have hle := hall _ (accepted_fields h).1
    omega
  have hport : dataIntervalUs (BluetoothAudioPortAidl.port .output session_type_ (.pcmConfig pcm))
      kBluetoothDefaultOutputBufferMs = interval := by
    have hto : (BitVec.ofInt 64 pcm.dataIntervalUs).toNat = interval := by
      rw [BitVec.toNat_ofInt]
      omega
    simp only [dataIntervalUs, BluetoothAudioPortAidl.port, BluetoothAudioPortAidl.getPreferredDataIntervalUs, hto]
    exact if_pos (Nat.ne_of_gt hpos)
  have hto : (BitVec.ofInt 32 pcm.sampleRateHz).toNat = rate := by
    rw [BitVec.toNat_ofInt]
    omega
  have hload : ((BluetoothAudioPortAidl.port .output session_type_ (.pcmConfig pcm)).loadAudioConfig false
      config).2.sample_rate = rate := by
    change (BluetoothAudioPortAidl.loadAudioConfig .output session_type_ (.pcmConfig pcm) false config).2.sample_rate = rate
    rw [BluetoothAudioPortAidl.loadAudioConfig_accepted h]
    exact hto
  have hmin : kBluetoothSpatializerOutputBufferMs * 1000 = 10000 := rfl
  simp only [adevOpenOutputStream, hport, hload, hmin]
  generalize heff : (if spatialized = true ∧ interval < 10000 then 10000 else interval) = effective
  have hle : effective ≤ 2 ^ 31 := by
    rw [← heff]
    split
    · decide
    · exact hhigh.le
  have hwrap : effective * rate < 2 ^ 64 := by
    calc effective * rate ≤ 2 ^ 31 * 96000 := Nat.mul_le_mul hle hmax
      _ < 2 ^ 64 := by decide
  rw [frameCount, Nat.mod_eq_of_lt hwrap]

/-- The frames of 10 ms fit a queue of twice `ms` milliseconds from 5 ms on. -/
theorem spatialized_le_iff {rate frame ms : Nat} (hdvd : 100 ∣ rate) (hrate : 0 < rate) (hframe : 0 < frame) :
    10000 * rate / 1000000 * frame ≤ rate * frame * ms * 2 / 1000 ↔ 5 ≤ ms := by
  obtain ⟨k, rfl⟩ := hdvd
  have hk : 10000 * (100 * k) / 1000000 = k := by omega
  have hpos : 0 < 200 * (k * frame) := by
    have hk0 : 0 < k := by omega
    have hkf := Nat.mul_pos hk0 hframe
    omega
  rw [hk, Nat.le_div_iff_mul_le (by decide)]
  calc k * frame * 1000 ≤ 100 * k * frame * ms * 2 ↔ 200 * (k * frame) * 5 ≤ 200 * (k * frame) * ms := by
        rw [show k * frame * 1000 = 200 * (k * frame) * 5 by ring, show 100 * k * frame * ms * 2 = 200 * (k * frame) * ms by ring]
    _ ↔ 5 ≤ ms := Nat.mul_le_mul_left_iff hpos

/-- A buffer of an LE audio stream, mixed to mono where the session is mono, is
so many frames of the session. It fits into the data queue of the provider, and
two of them do for whole milliseconds; but a spatialized stream has 10 ms at
least, which the queue holds from an interval of 5 ms on. -/
theorem buffer_fits {c : ProviderClass} (hc : c = .leAudioSoftwareOutput ∨ c = .leAudioSoftwareBroadcast)
    {pcm : PcmConfiguration} (h : Hidl.CanHold c (.pcmConfig pcm)) (hhigh : pcm.dataIntervalUs < 2 ^ 31) (spatialized : Bool)
    (mix : BitVec 16 → BitVec 16 → BitVec 16) (config audio_cfg : AudioConfig) (buffer : List Byte) :
    let port := BluetoothAudioPortAidl.port .output c.sessionType (.pcmConfig pcm)
    let out := adevOpenOutputStream port spatialized config
    let data_mq_size := LeAudioSoftwareAudioProvider.dataMqSize c.sessionType pcm
    buffer.length = out.outGetBufferSize port audio_cfg →
      ((out.queued mix buffer).length : Int) = out.frames_count_ * (pcm.channels * pcm.bytesPerSample) ∧
        ((out.queued mix buffer).length ≤ data_mq_size ↔ (spatialized = true → 5000 ≤ pcm.dataIntervalUs)) ∧
        ((spatialized = true → 10000 ≤ pcm.dataIntervalUs) → 1000 ∣ pcm.dataIntervalUs →
          2 * (out.queued mix buffer).length ≤ data_mq_size) := by
  intro port out data_mq_size hb
  have haccepts : LeAudioSoftwareAudioProvider.accepts c.sessionType (.pcmConfig pcm) = true := by
    have hacc := Hidl.canHold_iff.1 h
    rcases hc with rfl | rfl <;> exact hacc
  have hvalid : BluetoothAudioCodecs.isSoftwarePcmConfigurationValid pcm = true := (Bool.and_eq_true_iff.1 haccepts).1
  have hsome : 0 < data_mq_size := by
    have hdec := (Bool.and_eq_true_iff.1 haccepts).2
    exact of_decide_eq_true hdec
  obtain ⟨hmem, hframe, hpos, hsize⟩ := LeAudioSoftwareAudioProvider.accepts_pcm haccepts
  have hall : ∀ r ∈ kDefaultSoftwarePcmCapabilities.sampleRateHz, 0 < r ∧ 100 ∣ r := by decide
  obtain ⟨hrpos, hrdvd⟩ := hall _ hmem
  obtain ⟨rate, hrate⟩ := Int.eq_ofNat_of_zero_le hrpos.le
  obtain ⟨interval, hinterval⟩ := Int.eq_ofNat_of_zero_le hpos.le
  obtain ⟨frame, hframe'⟩ : ∃ frame : Nat, pcm.channels * pcm.bytesPerSample = frame :=
    Int.eq_ofNat_of_zero_le (by omega)
  have hmq : data_mq_size = rate * frame * (interval / 1000) * 2 / 1000 := by
    rw [hrate, hframe', hinterval] at hsize
    exact_mod_cast hsize
  have hms : 0 < interval / 1000 := by
    by_contra hno
    have hzero : interval / 1000 = 0 := Nat.eq_zero_of_not_pos hno
    rw [hmq, hzero] at hsome
    simp at hsome
  have hcount := frames_count_eq hvalid hrate hinterval (by omega) (by omega) c.sessionType spatialized config
  have hqueued : (out.queued mix buffer).length = out.frames_count_ * frame := by
    have hsmall : ∀ bytes, bytes ≤ 8 → out.frames_count_ * bytes % 2 ^ 64 = out.frames_count_ * bytes := by
      intro bytes hle
      apply Nat.mod_eq_of_lt
      calc out.frames_count_ * bytes ≤ 2 ^ 45 * 8 := Nat.mul_le_mul (frameCount_lt _ _).le hle
        _ < 2 ^ 64 := by decide
    rcases frame_cases hc hvalid spatialized config audio_cfg with ⟨hmono, hfour, htwo⟩ | ⟨hplain, hsame⟩
    · obtain rfl : frame = 2 := by omega
      rw [StreamConfig.queued, if_pos hmono, downmix_length, hb, StreamConfig.outGetBufferSize, hfour,
        hsmall 4 (by decide), Nat.mul_div_cancel _ (by decide)]
    · obtain rfl : out.frameSize port audio_cfg = frame := by
        rw [hframe'] at hsame
        exact_mod_cast hsame
      rw [StreamConfig.queued, if_neg (by rw [hplain]; decide), hb, StreamConfig.outGetBufferSize]
      exact hsmall _ (by omega)
  obtain ⟨hone, htwo⟩ := frames_le rate frame hms
  rw [hqueued, hframe', hinterval]
  refine ⟨by push_cast; rfl, ?_, fun hten hdvd => ?_⟩
  · change (adevOpenOutputStream _ spatialized config).frames_count_ * frame ≤ data_mq_size ↔ _
    rw [hcount, hmq]
    by_cases hs : spatialized = true ∧ interval < 10000
    · rw [if_pos hs, spatialized_le_iff (by omega) (by omega) (by omega)]
      simp only [hs.1, true_implies]
      omega
    · rw [if_neg hs]
      refine iff_of_true hone fun hsp => ?_
      have hten : ¬ interval < 10000 := fun hlt => hs ⟨hsp, hlt⟩
      omega
  · have hs : ¬ (spatialized = true ∧ interval < 10000) := by
      rintro ⟨hsp, hlt⟩
      have hle := hten hsp
      omega
    change 2 * ((adevOpenOutputStream _ spatialized config).frames_count_ * frame) ≤ data_mq_size
    rw [hcount, hmq, if_neg hs]
    exact htwo (by exact_mod_cast hdvd)

/-- 7.5 ms of a mono session. -/
theorem buffer_fits_mono :
    (StreamConfig.queued
      (adevOpenOutputStream
        (BluetoothAudioPortAidl.port .output .leAudioSoftwareEncodingDatapath (.pcmConfig ⟨48000, .mono, 16, 7500⟩)) false
        ⟨44100, .outStereo, .pcm16Bit⟩)
      (fun l _ => l) (List.replicate 1440 0)).length ≤
        LeAudioSoftwareAudioProvider.dataMqSize .leAudioSoftwareEncodingDatapath ⟨48000, .mono, 16, 7500⟩ := by
  have hsize : StreamConfig.outGetBufferSize
      (adevOpenOutputStream
        (BluetoothAudioPortAidl.port .output .leAudioSoftwareEncodingDatapath (.pcmConfig ⟨48000, .mono, 16, 7500⟩)) false
        ⟨44100, .outStereo, .pcm16Bit⟩)
      (BluetoothAudioPortAidl.port .output .leAudioSoftwareEncodingDatapath (.pcmConfig ⟨48000, .mono, 16, 7500⟩))
      ⟨44100, .outStereo, .pcm16Bit⟩ = 1440 := by decide
  have hhold : Hidl.CanHold .leAudioSoftwareOutput (.pcmConfig ⟨48000, .mono, 16, 7500⟩) :=
    Hidl.canHold_iff.2 (by decide)
  have h := buffer_fits (.inl rfl) hhold (by decide) false (fun l _ => l)
    ⟨44100, .outStereo, .pcm16Bit⟩ ⟨44100, .outStereo, .pcm16Bit⟩ (List.replicate 1440 0)
    (by rw [List.length_replicate]; exact hsize.symm)
  exact h.2.1.2 (by decide)

/-! ## A session that is configured anew -/

theorem is_stereo_to_mono_iff {pcm : PcmConfiguration}
    (h : BluetoothAudioCodecs.isSoftwarePcmConfigurationValid pcm = true) (session_type_ : SessionType) (spatialized : Bool)
    (config : AudioConfig) :
    (adevOpenOutputStream (BluetoothAudioPortAidl.port .output session_type_ (.pcmConfig pcm)) spatialized
        config).is_stereo_to_mono_ = true ↔ pcm.channelMode = .mono ∧ pcm.bitsPerSample = 16 := by
  obtain ⟨-, hbits, hmode⟩ := accepted_fields h
  obtain ⟨rate, mode, bits, interval⟩ := pcm
  simp only [List.mem_cons, List.not_mem_nil, or_false] at hbits hmode
  simp only [adevOpenOutputStream, BluetoothAudioPortAidl.port, BluetoothAudioPortAidl.loadAudioConfig_accepted h]
  rcases hmode with rfl | rfl <;> rcases hbits with rfl | rfl | rfl <;>
    by_cases hp : session_type_ = .a2dpHardwareOffloadEncodingDatapath ∨ session_type_ = .a2dpSoftwareEncodingDatapath <;>
    simp [BluetoothAudioPortAidl.channelModeToAudioFormat, BluetoothAudioPortAidl.bitsPerSampleToAudioFormat, hp]

/-- A frame of the stream, as it says now. -/
theorem frameSize_now {c : ProviderClass} (hc : c = .leAudioSoftwareOutput ∨ c = .leAudioSoftwareBroadcast)
    {pcm : PcmConfiguration} (h : BluetoothAudioCodecs.isSoftwarePcmConfigurationValid pcm = true) (s : StreamConfig)
    (audio_cfg : AudioConfig) :
    (s.frameSize (BluetoothAudioPortAidl.port .output c.sessionType (.pcmConfig pcm)) audio_cfg : Int) =
      (if s.is_stereo_to_mono_ then 2 else pcm.channels) * pcm.bytesPerSample := by
  obtain ⟨-, hbits, hmode⟩ := accepted_fields h
  obtain ⟨rate, channels, format, mono, us, frames⟩ := s
  obtain ⟨rate, mode, bits, interval⟩ := pcm
  simp only [List.mem_cons, List.not_mem_nil, or_false] at hbits hmode
  rcases hc with rfl | rfl <;> rcases hmode with rfl | rfl <;> rcases hbits with rfl | rfl | rfl <;> cases mono <;>
    rfl

theorem channels_cases {pcm : PcmConfiguration} (h : BluetoothAudioCodecs.isSoftwarePcmConfigurationValid pcm = true) :
    pcm.channelMode = .mono ∧ pcm.channels = 1 ∨ pcm.channelMode = .stereo ∧ pcm.channels = 2 := by
  have hmode := (accepted_fields h).2.2
  simp only [List.mem_cons, List.not_mem_nil, or_false] at hmode
  unfold PcmConfiguration.channels
  rcases hmode with hm | hm <;> rw [hm]
  · exact .inl ⟨rfl, rfl⟩
  · exact .inr ⟨rfl, rfl⟩

theorem bytesPerSample_cases {pcm : PcmConfiguration}
    (h : BluetoothAudioCodecs.isSoftwarePcmConfigurationValid pcm = true) :
    pcm.bytesPerSample = 2 ∨ pcm.bytesPerSample = 4 := by
  have hbits := (accepted_fields h).2.1
  simp only [List.mem_cons, List.not_mem_nil, or_false] at hbits
  unfold PcmConfiguration.bytesPerSample
  rcases hbits with hb | hb | hb <;> rw [hb] <;> decide

theorem outGetFormat_now {c : ProviderClass} {pcm : PcmConfiguration}
    (h : BluetoothAudioCodecs.isSoftwarePcmConfigurationValid pcm = true) (s : StreamConfig) (audio_cfg : AudioConfig) :
    s.outGetFormat (BluetoothAudioPortAidl.port .output c.sessionType (.pcmConfig pcm)) audio_cfg = .pcm16Bit ↔
      pcm.bitsPerSample = 16 := by
  have hbits := (accepted_fields h).2.1
  simp only [StreamConfig.outGetFormat, StreamConfig.current, BluetoothAudioPortAidl.port,
    BluetoothAudioPortAidl.loadAudioConfig_accepted h, if_true]
  simp only [List.mem_cons, List.not_mem_nil, or_false] at hbits
  unfold BluetoothAudioPortAidl.bitsPerSampleToAudioFormat
  rcases hbits with hb | hb | hb <;> rw [hb]
  · simp
  · by_cases hp : c.sessionType = .a2dpHardwareOffloadEncodingDatapath ∨ c.sessionType = .a2dpSoftwareEncodingDatapath
    · simp [hp]
    · simp [hp]
  · simp

/-- The session of an open stream is configured anew, while the stream is mixed
to mono or not as it was opened: its frames are frames of the session, mixed of
whole samples if at all, exactly when a stream that was opened for 16 bit mono
still is for it. -/
theorem reconfigured_iff {c : ProviderClass} (hc : c = .leAudioSoftwareOutput ∨ c = .leAudioSoftwareBroadcast)
    {pcm pcm' : PcmConfiguration} (h : Hidl.CanHold c (.pcmConfig pcm)) (h' : Hidl.CanHold c (.pcmConfig pcm'))
    (spatialized : Bool) (mix : BitVec 16 → BitVec 16 → BitVec 16) (config audio_cfg : AudioConfig) {n : Nat} (hn : 0 < n)
    (buffer : List Byte) :
    let port' := BluetoothAudioPortAidl.port .output c.sessionType (.pcmConfig pcm')
    let out := adevOpenOutputStream (BluetoothAudioPortAidl.port .output c.sessionType (.pcmConfig pcm)) spatialized config
    buffer.length = n * out.frameSize port' audio_cfg →
      (((out.queued mix buffer).length : Int) = n * (pcm'.channels * pcm'.bytesPerSample) ∧ out.MixesSamples port' audio_cfg ↔
        (pcm.channelMode = .mono ∧ pcm.bitsPerSample = 16 → pcm'.channelMode = .mono ∧ pcm'.bitsPerSample = 16)) := by
  intro port' out hb
  have hvalid := Hidl.valid_of_accepts_pcm (Hidl.canHold_iff.1 h)
  have hvalid' := Hidl.valid_of_accepts_pcm (Hidl.canHold_iff.1 h')
  have hframe := frameSize_now hc hvalid' out audio_cfg
  have hbytes := bytesPerSample_cases hvalid'
  have hmono : out.is_stereo_to_mono_ = true ↔ pcm.channelMode = .mono ∧ pcm.bitsPerSample = 16 :=
    is_stereo_to_mono_iff hvalid c.sessionType spatialized config
  rw [← hmono, StreamConfig.MixesSamples, outGetFormat_now hvalid' out audio_cfg]
  unfold StreamConfig.queued
  generalize out.frameSize _ audio_cfg = size at hb hframe
  cases hm : out.is_stereo_to_mono_ with
  | false =>
    rw [hm] at hframe
    refine iff_of_true ⟨?_, nofun⟩ nofun
    simp only [Bool.false_eq_true, if_false] at hframe ⊢
    rw [hb, ← hframe]
    push_cast
    rfl
  | true =>
    rw [hm] at hframe
    simp only [if_true, downmix_length, true_implies] at hframe ⊢
    have hhalf : ((buffer.length / 4 * 2 : Nat) : Int) = n * pcm'.bytesPerSample := by
      rcases hbytes with h2 | h4
      · obtain rfl : size = 4 := by omega
        rw [hb, h2]
        omega
      · obtain rfl : size = 8 := by omega
        rw [hb, h4]
        omega
    rw [hhalf]
    refine and_congr_left fun _ => ?_
    rcases channels_cases hvalid' with ⟨hmode, hone⟩ | ⟨hmode, htwo⟩
    · refine iff_of_true ?_ hmode
      rw [hone, Int.one_mul]
    · refine iff_of_false ?_ (by rw [hmode]; decide)
      rcases hbytes with h2 | h4
      · rw [htwo, h2]
        omega
      · rw [htwo, h4]
        omega

/-- The 16 bit mono session that a stream was opened on has become one of 32 bits:
the bytes are as many, but halves of samples are mixed. -/
theorem reconfigured_iff_halves :
    ¬ (((StreamConfig.queued
        (adevOpenOutputStream
          (BluetoothAudioPortAidl.port .output .leAudioSoftwareEncodingDatapath (.pcmConfig ⟨48000, .mono, 16, 10000⟩))
          false ⟨44100, .outStereo, .pcm16Bit⟩)
        (fun l _ => l) (List.replicate 8 0)).length : Int) = 1 * (1 * 4) ∧
      (adevOpenOutputStream
          (BluetoothAudioPortAidl.port .output .leAudioSoftwareEncodingDatapath (.pcmConfig ⟨48000, .mono, 16, 10000⟩))
          false ⟨44100, .outStereo, .pcm16Bit⟩).MixesSamples
        (BluetoothAudioPortAidl.port .output .leAudioSoftwareEncodingDatapath (.pcmConfig ⟨48000, .mono, 32, 10000⟩))
        ⟨44100, .outStereo, .pcm16Bit⟩) := by
  have hold : Hidl.CanHold .leAudioSoftwareOutput (.pcmConfig ⟨48000, .mono, 16, 10000⟩) := Hidl.canHold_iff.2 (by decide)
  have hnew : Hidl.CanHold .leAudioSoftwareOutput (.pcmConfig ⟨48000, .mono, 32, 10000⟩) :=
    Hidl.canHold_iff.2 (by decide)
  intro hboth
  have h := reconfigured_iff (.inl rfl) hold hnew false (fun l _ => l) ⟨44100, .outStereo, .pcm16Bit⟩
    ⟨44100, .outStereo, .pcm16Bit⟩ (n := 1) (by decide) (List.replicate 8 0) (by decide)
  exact absurd (h.1 hboth ⟨rfl, rfl⟩).2 (by decide)

end PhhTreble.Hw

import Mathlib.Tactic.Linarith
import PhhTreble.Audio.Providers
/-!
# The size of the data queue

The queue that a software provider makes for PCM, against the audio of two data
intervals.
-/

namespace PhhTreble.Audio

open BluetoothAudioCodecs (isSoftwarePcmConfigurationValid)

namespace PcmConfiguration

def channels (c : PcmConfiguration) : Int := LeAudioSoftwareAudioProvider.channelModeToChannelCount c.channelMode

/-- 24 bit samples take four bytes. -/
def bytesPerSample (c : PcmConfiguration) : Int := if c.bitsPerSample = 24 then 4 else c.bitsPerSample.tdiv 8

/-- The audio of two data intervals, in millionths of a byte. -/
def twoIntervals (c : PcmConfiguration) : Int :=
  2 * c.sampleRateHz * c.channels * c.bytesPerSample * c.dataIntervalUs

end PcmConfiguration

namespace HfpSoftwareAudioProvider

def kBufferCount : Int := 2

/-- `data_mq_size`, an `uint32_t`. -/
def dataMqSize (pcm_config : PcmConfiguration) : Nat :=
  (kBufferCount * pcm_config.bitsPerSample.tdiv 8 * pcm_config.sampleRateHz.tdiv 1000 * pcm_config.dataIntervalUs %
    4294967296 / 1000).toNat

/-- For its own configurations it is two intervals. -/
theorem dataMqSize_eq {c : PcmConfiguration} (h : accepts (.pcmConfig c) = true) :
    (dataMqSize c : Int) * 1000000 = c.twoIntervals := by
  obtain ⟨rate, mode, bits, interval⟩ := c
  simp only [accepts, Bool.and_eq_true, Bool.or_eq_true, beq_iff_eq] at h
  obtain ⟨⟨⟨⟨-, rfl⟩, hrate⟩, rfl⟩, rfl⟩ := h
  rcases hrate with (rfl | rfl) | rfl <;> decide

end HfpSoftwareAudioProvider

namespace LeAudioSoftwareAudioProvider

theorem dataMqSize_cases (session_type_ : SessionType) (c : PcmConfiguration) :
    dataMqSize session_type_ c = 0 ∨
      dataMqSize session_type_ c =
        (c.sampleRateHz * (c.channels * c.bytesPerSample) * c.dataIntervalUs.tdiv 1000 * 2 / 1000).toNat := by
  simp only [dataMqSize, PcmConfiguration.channels, PcmConfiguration.bytesPerSample, kBufferOutCount, kBufferInCount,
    ← Int.mul_assoc]
  by_cases hout : session_type_ = .leAudioSoftwareEncodingDatapath ∨
      session_type_ = .leAudioBroadcastSoftwareEncodingDatapath
  · right
    rw [if_pos hout]
  · rw [if_neg hout]
    by_cases hin : session_type_ = .leAudioSoftwareDecodingDatapath
    · right
      rw [if_pos hin]
    · left
      rw [if_neg hin, Int.mul_zero]
      rfl

/-- A frame of an accepted configuration has 2, 4 or 8 bytes. -/
theorem frame_bytes {c : PcmConfiguration} (h : isSoftwarePcmConfigurationValid c = true) :
    c.channels * c.bytesPerSample = 2 ∨ c.channels * c.bytesPerSample = 4 ∨ c.channels * c.bytesPerSample = 8 := by
  simp only [isSoftwarePcmConfigurationValid, kDefaultSoftwarePcmCapabilities, Bool.and_eq_true, List.contains_iff_mem,
    List.mem_cons, List.not_mem_nil, or_false] at h
  obtain ⟨⟨-, hbits⟩, hmode⟩ := h
  have hbytes : c.bytesPerSample = 2 ∨ c.bytesPerSample = 4 := by
    unfold PcmConfiguration.bytesPerSample
    rcases hbits with h | h | h <;> rw [h] <;> decide
  have hchannels : c.channels = 1 ∨ c.channels = 2 := by
    unfold PcmConfiguration.channels
    rcases hmode with h | h <;> rw [h] <;> decide
  rcases hbytes with hb | hb <;> rcases hchannels with hc | hc <;> rw [hb, hc] <;> decide

/-- The queue of an accepted configuration: two intervals, cut to whole milliseconds. -/
theorem accepts_pcm {session_type_ : SessionType} {c : PcmConfiguration}
    (h : accepts session_type_ (.pcmConfig c) = true) :
    c.sampleRateHz ∈ kDefaultSoftwarePcmCapabilities.sampleRateHz ∧
      (c.channels * c.bytesPerSample = 2 ∨ c.channels * c.bytesPerSample = 4 ∨ c.channels * c.bytesPerSample = 8) ∧
      0 < c.dataIntervalUs ∧
      (dataMqSize session_type_ c : Int) =
        c.sampleRateHz * (c.channels * c.bytesPerSample) * (c.dataIntervalUs / 1000) * 2 / 1000 := by
  simp only [accepts, Bool.and_eq_true, decide_eq_true_eq] at h
  obtain ⟨hvalid, hpos⟩ := h
  have hframe := frame_bytes hvalid
  have hrate : c.sampleRateHz ∈ kDefaultSoftwarePcmCapabilities.sampleRateHz := by
    simp only [isSoftwarePcmConfigurationValid, Bool.and_eq_true, List.contains_iff_mem] at hvalid
    exact hvalid.1.1
  have hrate0 : 0 ≤ c.sampleRateHz := by
    have hall : ∀ r ∈ kDefaultSoftwarePcmCapabilities.sampleRateHz, 0 ≤ r := by decide
    exact hall _ hrate
  have hframe0 : 0 ≤ c.channels * c.bytesPerSample := by omega
  rcases dataMqSize_cases session_type_ c with hz | hsize
  · omega
  · have hinterval : 0 < c.dataIntervalUs := by
      by_contra hle
      have ht : 0 ≤ (-c.dataIntervalUs).tdiv 1000 := Int.tdiv_nonneg (by omega) (by decide)
      rw [Int.neg_tdiv] at ht
      have hprod : c.sampleRateHz * (c.channels * c.bytesPerSample) * c.dataIntervalUs.tdiv 1000 ≤ 0 :=
        Int.mul_nonpos_of_nonneg_of_nonpos (Int.mul_nonneg hrate0 hframe0) (by omega)
      omega
    have ht : c.dataIntervalUs.tdiv 1000 = c.dataIntervalUs / 1000 := Int.tdiv_eq_ediv_of_nonneg hinterval.le
    refine ⟨hrate, hframe, hinterval, ?_⟩
    rw [ht] at hsize
    omega

/-- The condition: whole milliseconds, and of them a multiple of five where the
rate has no whole number of samples in one. -/
def WholeIntervals (c : PcmConfiguration) : Prop :=
  1000 ∣ c.dataIntervalUs ∧ (c.sampleRateHz = 44100 ∨ c.sampleRateHz = 88200 → 5000 ∣ c.dataIntervalUs)

/-- A size that is rounded down twice is reached when neither rounding does anything. -/
theorem rounded_iff {bytes interval : Int} (hb : 0 < bytes) :
    bytes * interval ≤ bytes * (interval / 1000) / 1000 * 1000000 ↔
      1000 ∣ interval ∧ 1000 ∣ bytes * (interval / 1000) := by
  have hsplit : bytes * interval = bytes * (interval / 1000) * 1000 + bytes * (interval % 1000) := by
    rw [Int.mul_assoc, ← Int.mul_add, Int.mul_comm (interval / 1000), Int.mul_ediv_add_emod]
  rw [hsplit]
  have hcut : 0 ≤ bytes * (interval % 1000) := Int.mul_nonneg hb.le (Int.emod_nonneg _ (by decide))
  constructor
  · intro hle
    have hzero : bytes * (interval % 1000) = 0 := by omega
    rcases Int.mul_eq_zero.1 hzero with h | h
    · exact absurd h hb.ne'
    · exact ⟨Int.dvd_of_emod_eq_zero h, by omega⟩
  · rintro ⟨hinterval, hbytes⟩
    rw [Int.emod_eq_zero_of_dvd hinterval, Int.mul_zero]
    omega

/-- The audio of whole milliseconds is whole bytes, but for the two rates five
of them are needed. -/
theorem whole_bytes_iff {rate frame ms : Int} (hrate : rate ∈ kDefaultSoftwarePcmCapabilities.sampleRateHz)
    (hframe : frame = 2 ∨ frame = 4 ∨ frame = 8) :
    1000 ∣ rate * frame * 2 * ms ↔ (rate = 44100 ∨ rate = 88200 → 5 ∣ ms) := by
  simp only [kDefaultSoftwarePcmCapabilities, List.mem_cons, List.not_mem_nil, or_false] at hrate
  rcases hframe with rfl | rfl | rfl <;> rcases hrate with rfl | rfl | rfl | rfl | rfl | rfl | rfl | rfl <;> omega

/-- The queue of an accepted configuration holds two data intervals exactly when
these are whole; where `HfpSoftwareAudioProvider` accepts one, its queue always does. -/
theorem dataMqSize_holds_iff (session_type_ : SessionType) (c : PcmConfiguration)
    (h : accepts session_type_ (.pcmConfig c) = true) :
    (c.twoIntervals ≤ dataMqSize session_type_ c * 1000000 ↔ WholeIntervals c) ∧
      ∀ hfp, HfpSoftwareAudioProvider.accepts (.pcmConfig hfp) = true →
        (HfpSoftwareAudioProvider.dataMqSize hfp : Int) * 1000000 = hfp.twoIntervals := by
  refine ⟨?_, fun hfp hacc => HfpSoftwareAudioProvider.dataMqSize_eq hacc⟩
  obtain ⟨hrate, hframe, hinterval, hsize⟩ := accepts_pcm h
  have htwo : c.twoIntervals = c.sampleRateHz * (c.channels * c.bytesPerSample) * 2 * c.dataIntervalUs := by
    unfold PcmConfiguration.twoIntervals
    ring
  have hsize : (dataMqSize session_type_ c : Int) =
      c.sampleRateHz * (c.channels * c.bytesPerSample) * 2 * (c.dataIntervalUs / 1000) / 1000 := by
    rw [hsize, Int.mul_right_comm]
  have hpos : 0 < c.sampleRateHz * (c.channels * c.bytesPerSample) * 2 := by
    have hall : ∀ r ∈ kDefaultSoftwarePcmCapabilities.sampleRateHz, 0 < r := by decide
    exact Int.mul_pos (Int.mul_pos (hall _ hrate) (by omega)) (by decide)
  rw [htwo, hsize, rounded_iff hpos, whole_bytes_iff hrate hframe]
  unfold WholeIntervals
  constructor
  · rintro ⟨hms, hfive⟩
    refine ⟨hms, fun hr => ?_⟩
    have hfive := hfive hr
    omega
  · rintro ⟨hms, hfive⟩
    refine ⟨hms, fun hr => ?_⟩
    have hfive := hfive hr
    omega

/-- Ten milliseconds of 48 kHz stereo. -/
theorem dataMqSize_holds_iff_ten :
    let c : PcmConfiguration := ⟨48000, .stereo, 24, 10000⟩
    (c.twoIntervals ≤ dataMqSize .leAudioSoftwareEncodingDatapath c * 1000000 ↔ WholeIntervals c) ∧
      ∀ hfp, HfpSoftwareAudioProvider.accepts (.pcmConfig hfp) = true →
        (HfpSoftwareAudioProvider.dataMqSize hfp : Int) * 1000000 = hfp.twoIntervals :=
  dataMqSize_holds_iff .leAudioSoftwareEncodingDatapath ⟨48000, .stereo, 24, 10000⟩ (by decide)

/-- An interval of 7.5 ms is cut to 7: the queue has 2688 of 2880 bytes. -/
theorem dataMqSize_cut :
    let c : PcmConfiguration := ⟨48000, .stereo, 16, 7500⟩
    accepts .leAudioSoftwareEncodingDatapath (.pcmConfig c) = true ∧
      dataMqSize .leAudioSoftwareEncodingDatapath c = 2688 ∧ c.twoIntervals = 2880 * 1000000 ∧
      ¬ c.twoIntervals ≤ dataMqSize .leAudioSoftwareEncodingDatapath c * 1000000 := by decide

end LeAudioSoftwareAudioProvider

end PhhTreble.Audio

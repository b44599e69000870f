import PhhTreble.A2dp.SbcChecked
import PhhTreble.Audio.Providers
/-!
# The bitpool range of an SBC session

An offload session takes an SBC configuration as the octets of the `a2dp` tag or
as the fields of the `a2dpConfig` tag. The second path demands an ordered pair of
bitpools, the parser of the first one does not.
-/

namespace PhhTreble.Sbc

open A2dpBits A2dp

/-- The ranges of the parameters are ranges. -/
def SbcParameters.Ordered (p : SbcParameters) : Prop := p.min_bitpool ≤ p.max_bitpool ∧ p.minBitrate ≤ p.maxBitrate

instance (p : SbcParameters) : Decidable p.Ordered :=
  inferInstanceAs (Decidable (p.min_bitpool ≤ p.max_bitpool ∧ p.minBitrate ≤ p.maxBitrate))

/-- The third octet is at most the fourth. -/
def OctetsOrdered (configuration : Bytes) : Prop := (configuration.getD 2 0).toNat ≤ (configuration.getD 3 0).toNat

/-- A range of eight bits is its octet. -/
theorem getRange_octet (data : Bytes) (n : Nat) : getRange data (.span (8 * n) (8 * n + 7)) = (data.getD n 0).toNat := by
  apply Nat.eq_of_testBit_eq
  intro j
  have hlen : (Range.span (8 * n) (8 * n + 7)).len = 8 := by
    simp only [Range.span]
    omega
  have hfirst : (Range.span (8 * n) (8 * n + 7)).first = 8 * n := rfl
  rw [testBit_getRange, BitVec.testBit_toNat, hlen, hfirst]
  by_cases hj : j < 8
  · have hbyte : (8 * n + (8 - 1 - j)) / 8 = n := by omega
    have hbit : 7 - (8 * n + (8 - 1 - j)) % 8 = j := by omega
    rw [decide_eq_true hj, Bool.true_and, get_eq, hbyte, hbit]
  · rw [decide_eq_false hj, Bool.false_and, BitVec.getLsbD_of_ge _ _ (Nat.le_of_not_lt hj)]

/-- The parsed parameters are in order exactly if the two octets are. -/
theorem ordered_iff {cfg : Bytes} {p : SbcParameters} (h : parseConfiguration cfg = .ok p) :
    p.Ordered ↔ OctetsOrdered cfg := by
  have ha := accepted_of_parse h
  have hmin : p.min_bitpool = (cfg.getD 2 0).toNat := ha.min.trans (getRange_octet cfg 2)
  have hmax : p.max_bitpool = (cfg.getD 3 0).toNat := ha.max.trans (getRange_octet cfg 3)
  rw [OctetsOrdered, ← hmin, ← hmax]
  constructor
  · exact And.left
  · intro hle
    refine ⟨hle, ?_⟩
    rw [ha.minBitrate, ha.maxBitrate]
    exact Int.ofNat_le.2 (getBitrate_mono cfg hle)

end PhhTreble.Sbc

namespace PhhTreble.Audio

open A2dpBits A2dp Sbc

/-- The two classes that take SBC octets. -/
def IsA2dpOffload (c : ProviderClass) : Prop := c = .a2dpOffloadEncoding ∨ c = .a2dpOffloadDecoding

/-- A session that starts with SBC octets has parsed them. -/
theorem parsed_of_start {c : ProviderClass} (hc : IsA2dpOffload c) {p : Provider} {host_if : Option Host} {cfg : Bytes} {rest : Unread}
    {latency_modes : List LatencyMode} {temp_data_mq : Option DataMQ}
    (h : (p.startSession c host_if (.a2dp ⟨.a2dp .sbc, cfg, rest⟩) latency_modes temp_data_mq).1 = true) :
    ∃ parameters, parseConfiguration cfg = .ok parameters := by
  have haccepts : c.accepts (.a2dp ⟨.a2dp .sbc, cfg, rest⟩) = true := by
    by_contra hn
    rw [Bool.not_eq_true] at hn
    simp [Provider.startSession, hn] at h
  have hok : (A2dpOffloadCodec.parseConfiguration .sbc cfg).isOk = true := by
    rcases hc with rfl | rfl <;> exact haccepts
  rw [A2dpOffloadCodec.parseConfiguration] at hok
  cases hp : parseConfiguration cfg with
  | error e =>
    rw [hp] at hok
    cases hok
  | ok parameters => exact ⟨parameters, rfl⟩

/-- What the parser accepts, and with it the SBC configuration of a session that
starts, is in order exactly if the third octet is at most the fourth. -/
theorem sbc_ordered_iff (cfg : Bytes) :
    (∀ parameters, parseConfiguration cfg = .ok parameters → (parameters.Ordered ↔ OctetsOrdered cfg)) ∧
      ∀ c, IsA2dpOffload c → ∀ (p : Provider) host_if rest latency_modes temp_data_mq,
        (p.startSession c host_if (.a2dp ⟨.a2dp .sbc, cfg, rest⟩) latency_modes temp_data_mq).1 = true →
          ∃ parameters, parseConfiguration cfg = .ok parameters ∧ (parameters.Ordered ↔ OctetsOrdered cfg) := by
  constructor
  · exact fun parameters h => ordered_iff h
  · intro c hc p host_if rest latency_modes temp_data_mq h
    obtain ⟨parameters, hp⟩ := parsed_of_start hc h
    exact ⟨parameters, hp, ordered_iff hp⟩

/-- 44.1 kHz joint stereo with the bitpools 53 and 2 starts a session. -/
theorem sbc_start_unordered :
    let cfg : Bytes := [0x21#8, 0x15#8, 53#8, 2#8]
    ((⟨none, .init .init⟩ : Provider).startSession .a2dpOffloadEncoding (some 1) (.a2dp ⟨.a2dp .sbc, cfg, 0⟩) [] none).1 = true ∧
      ∃ parameters, parseConfiguration cfg = .ok parameters ∧ ¬ parameters.Ordered := by
  refine ⟨by decide, _, rfl, by decide⟩

end PhhTreble.Audio

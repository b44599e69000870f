import PhhTreble.A2dp.Codec
/-!
# The SBC offload codec

`A2dpOffloadCodecSbc`: its local capabilities, its bitrate arithmetic, the
validating parser and the configuration builder.
-/

namespace PhhTreble.Sbc

open A2dpBits A2dp

/-! ## Signaling format -/

def kSamplingFrequency : Range := .span 0 3
def kChannelMode : Range := .span 4 7
def kBlockLength : Range := .span 8 11
def kSubbands : Range := .span 12 13
def kAllocationMethod : Range := .span 14 15
def kMinimumBitpool : Range := .span 16 23
def kMaximumBitpool : Range := .span 24 31
def kCapabilitiesSize : Nat := 32 / 8

def kSamplingFrequency16000 : Nat := kSamplingFrequency.first
def kSamplingFrequency32000 : Nat := kSamplingFrequency16000 + 1
def kSamplingFrequency44100 : Nat := kSamplingFrequency32000 + 1
def kSamplingFrequency48000 : Nat := kSamplingFrequency44100 + 1

def kChannelModeMono : Nat := kChannelMode.first
def kChannelModeDualChannel : Nat := kChannelModeMono + 1
def kChannelModeStereo : Nat := kChannelModeDualChannel + 1
def kChannelModeJointStereo : Nat := kChannelModeStereo + 1

def kBlockLength4 : Nat := kBlockLength.first
def kBlockLength8 : Nat := kBlockLength4 + 1
def kBlockLength12 : Nat := kBlockLength8 + 1
def kBlockLength16 : Nat := kBlockLength12 + 1

def kSubbands8 : Nat := kSubbands.first
def kSubbands4 : Nat := kSubbands8 + 1

def kAllocationMethodSnr : Nat := kAllocationMethod.first
def kAllocationMethodLoudness : Nat := kAllocationMethodSnr + 1

def kDefaultMinimumBitpool : Nat := 2
def kDefaultMaximumBitpool : Nat := 250
def kBitdepth : Int := 16

/-! ## Conversions -/

def getSamplingFrequencyBit : Int → Option Nat := switch [
  (16000, kSamplingFrequency16000), (32000, kSamplingFrequency32000),
  (44100, kSamplingFrequency44100), (48000, kSamplingFrequency48000)]

def getSamplingFrequencyValue (bit : Option Nat) : Nat := (bit.bind (switch [
  (kSamplingFrequency16000, 16000), (kSamplingFrequency32000, 32000),
  (kSamplingFrequency44100, 44100), (kSamplingFrequency48000, 48000)])).getD 0

/-- The stereo case is an OR of two bit numbers, which is the joint stereo one. -/
def getChannelModeBit : ChannelMode → Option Nat
  | .stereo => some (kChannelModeJointStereo ||| kChannelModeStereo)
  | .dualmono => some kChannelModeDualChannel
  | .mono => some kChannelModeMono
  | .unknown => none

def getChannelModeEnum (bit : Nat) : ChannelMode := (switch [
  (kChannelModeMono, ChannelMode.mono), (kChannelModeDualChannel, .dualmono),
  (kChannelModeStereo, .stereo), (kChannelModeJointStereo, .stereo)] bit).getD .unknown

def getBlockLengthValue (bit : Option Nat) : Nat := (bit.bind (switch [
  (kBlockLength4, 4), (kBlockLength8, 8), (kBlockLength12, 12), (kBlockLength16, 16)])).getD 0

def getSubbandsValue (bit : Option Nat) : Nat := (bit.bind (switch [
  (kSubbands4, 4), (kSubbands8, 8)])).getD 0

inductive AllocationMethod where
  | snr | loudness
deriving DecidableEq, Repr

def getAllocationMethodEnum (bit : Nat) : AllocationMethod :=
  (switch [(kAllocationMethodSnr, AllocationMethod.snr)] bit).getD .loudness

/-! ## Bitrate and bitpool -/

def getFrameSize (configuration : Bytes) (bitpool : Nat) : Nat :=
  let kSbcHeaderSize := 4
  let subbands := getSubbandsValue (findActiveBit configuration kSubbands)
  let blocks := getBlockLengthValue (findActiveBit configuration kBlockLength)
  let bits :=
    ((4 * subbands) <<< (!get configuration kChannelModeMono).toNat) +
    ((blocks * bitpool) <<< (get configuration kChannelModeDualChannel).toNat) +
    (if get configuration kChannelModeJointStereo then subbands else 0)
  kSbcHeaderSize + ((bits + 7) >>> 3)

def getBitrate (configuration : Bytes) (bitpool : Nat) : Nat :=
  let sampling_frequency := getSamplingFrequencyValue (findActiveBit configuration kSamplingFrequency)
  let subbands := getSubbandsValue (findActiveBit configuration kSubbands)
  let blocks := getBlockLengthValue (findActiveBit configuration kBlockLength)
  let bits := 8 * getFrameSize configuration bitpool
  (bits * sampling_frequency) / (blocks * subbands)

/-- The loop runs `i` over 128, 64, ..., 1. -/
def getBitpool (configuration : Bytes) (bitrate : Int) : Nat :=
  let bitpool := [128, 64, 32, 16, 8, 4, 2, 1].foldl
    (fun bitpool i => if bitrate > getBitrate configuration (bitpool + i) then bitpool + i else bitpool) 0
  max 2 (min bitpool 250)

/-! ## Local capabilities -/

/-- The capabilities the constructor sets up; every `kEnable` constant is true. -/
def capabilities : Bytes :=
  let capabilities := List.replicate kCapabilitiesSize 0#8
  let capabilities := [kSamplingFrequency44100, kSamplingFrequency48000,
    kChannelModeMono, kChannelModeDualChannel, kChannelModeStereo, kChannelModeJointStereo,
    kBlockLength4, kBlockLength8, kBlockLength12, kBlockLength16, kSubbands4, kSubbands8,
    kAllocationMethodSnr, kAllocationMethodLoudness].foldl (fun c bit => set c bit true) capabilities
  let capabilities := setRange capabilities kMinimumBitpool kDefaultMinimumBitpool
  setRange capabilities kMaximumBitpool kDefaultMaximumBitpool

theorem capabilities_eq : capabilities = [0x3f#8, 0xff#8, 2#8, 250#8] := rfl

theorem length_capabilities : capabilities.length = 4 := congrArg List.length capabilities_eq

/-! ## ParseConfiguration -/

structure SbcParameters extends CodecParameters where
  allocation_method : AllocationMethod
  block_length : Nat
  subbands : Nat
  min_bitpool : Nat
  max_bitpool : Nat
deriving DecidableEq, Repr

/-- The overload with an `SbcParameters`. The block length alone is not checked
against the local capabilities. -/
def parseConfiguration (configuration : Bytes) : Except A2dpStatus SbcParameters :=
  if configuration.length ≠ capabilities.length then .error .badLength else
  match findActiveBit configuration kSamplingFrequency with
  | none => .error .invalidSamplingFrequency
  | some sampling_frequency =>
  if !get capabilities sampling_frequency then .error .notSupportedSamplingFrequency else
  match findActiveBit configuration kChannelMode with
  | none => .error .invalidChannelMode
  | some channel_mode =>
  if !get capabilities channel_mode then .error .notSupportedChannelMode else
  match findActiveBit configuration kBlockLength with
  | none => .error .invalidBlockLength
  | some block_length =>
  match findActiveBit configuration kSubbands with
  | none => .error .invalidSubbands
  | some subbands =>
  if !get capabilities subbands then .error .notSupportedSubbands else
  match findActiveBit configuration kAllocationMethod with
  | none => .error .invalidAllocationMethod
  | some allocation_method =>
  if !get capabilities allocation_method then .error .notSupportedAllocationMethod else
  let min_bitpool := getRange configuration kMinimumBitpool
  if min_bitpool < 2 ∨ min_bitpool > 250 then .error .invalidMinimumBitpoolValue else
  if min_bitpool < getRange capabilities kMinimumBitpool then .error .notSupportedMinimumBitpoolValue else
  let max_bitpool := getRange configuration kMaximumBitpool
  if max_bitpool < 2 ∨ max_bitpool > 250 then .error .invalidMaximumBitpoolValue else
  if max_bitpool > getRange capabilities kMaximumBitpool then .error .notSupportedMaximumBitpoolValue else
  .ok {
    channelMode := getChannelModeEnum channel_mode
    samplingFrequencyHz := getSamplingFrequencyValue (some sampling_frequency)
    bitdepth := kBitdepth
    minBitrate := getBitrate configuration min_bitpool
    maxBitrate := getBitrate configuration max_bitpool
    allocation_method := getAllocationMethodEnum allocation_method
    block_length := getBlockLengthValue (some block_length)
    subbands := getSubbandsValue (some subbands)
    min_bitpool
    max_bitpool }

/-! ## BuildConfiguration -/

/-- The two bitpools written: the remote's range, or 2..250 where that is not a
range, against the local range and the hinted bitrates. -/
def selectBitpool (remote_capabilities : Bytes) (hint : Option CodecParameters) (configuration : Bytes) : Nat × Nat :=
  let min_bitpool := getRange remote_capabilities kMinimumBitpool
  let max_bitpool := getRange remote_capabilities kMaximumBitpool
  let (min_bitpool, max_bitpool) :=
    if min_bitpool < 2 ∨ min_bitpool > 250 ∨ max_bitpool < 2 ∨ max_bitpool > 250 ∨ min_bitpool > max_bitpool then (2, 250)
    else (min_bitpool, max_bitpool)
  let min_bitpool := max min_bitpool (getRange capabilities kMinimumBitpool)
  let max_bitpool := max max_bitpool (getRange capabilities kMaximumBitpool)
  match hint with
  | none => (min_bitpool, max_bitpool)
  | some hint =>
    (max min_bitpool (getBitpool configuration hint.minBitrate),
      if hint.maxBitrate ≠ 0 ∧ hint.maxBitrate ≥ hint.minBitrate then
        min max_bitpool (getBitpool configuration hint.maxBitrate)
      else max_bitpool)

/-- `BuildConfiguration`, with `none` for the result `false`. -/
def buildConfiguration (remote_capabilities : Bytes) (hint : Option CodecParameters) : Option Bytes :=
  if remote_capabilities.length ≠ capabilities.length then none else do
  let config := List.replicate capabilities.length 0#8
  let sf_hint := hint.bind fun hint => getSamplingFrequencyBit hint.samplingFrequencyHz
  let config := set config (← pick capabilities remote_capabilities sf_hint
    [kSamplingFrequency44100, kSamplingFrequency48000]) true
  let cm_hint := hint.bind fun hint => getChannelModeBit hint.channelMode
  let config := set config (← pick capabilities remote_capabilities cm_hint
    [kChannelModeJointStereo, kChannelModeStereo, kChannelModeDualChannel, kChannelModeMono]) true
  let config := set config (← pick capabilities remote_capabilities none
    [kBlockLength16, kBlockLength12, kBlockLength8, kBlockLength4]) true
  let config := set config (← pick capabilities remote_capabilities none [kSubbands8, kSubbands4]) true
  let config := set config (← pick capabilities remote_capabilities none
    [kAllocationMethodLoudness, kAllocationMethodSnr]) true
  let (min_bitpool, max_bitpool) := selectBitpool remote_capabilities hint config
  let config := setRange config kMinimumBitpool min_bitpool
  return setRange config kMaximumBitpool max_bitpool

end PhhTreble.Sbc

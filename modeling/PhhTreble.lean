import PhhTreble.Lib.Runs
import PhhTreble.Lib.Polling
import PhhTreble.Lib.BitSearch
import PhhTreble.Lib.Words
import PhhTreble.Lib.Assoc
import PhhTreble.Lib.CString
import PhhTreble.A2dp.Bits
import PhhTreble.A2dp.Words
import PhhTreble.A2dp.Codec
import PhhTreble.A2dp.Sbc
import PhhTreble.A2dp.SbcBitrate
import PhhTreble.A2dp.SbcBuild
import PhhTreble.A2dp.SbcChecked
import PhhTreble.A2dp.Aac
import PhhTreble.A2dp.Limits
import PhhTreble.A2dp.Factory
import PhhTreble.Audio.Session
import PhhTreble.Audio.Provider
import PhhTreble.Audio.Port
import PhhTreble.Audio.Agreement
import PhhTreble.Audio.Cookies
import PhhTreble.Audio.Latency
import PhhTreble.Audio.Pcm
import PhhTreble.Audio.QueueSize
import PhhTreble.Audio.Bitpools
import PhhTreble.AudioHal.Device
import PhhTreble.AudioHal.WriteThread
import PhhTreble.AudioHal.Wrapper
import PhhTreble.AudioHal.ReadThread
import PhhTreble.Hw.Port
import PhhTreble.Hw.Stream
import PhhTreble.Hw.Requests
import PhhTreble.Hw.Accounting
import PhhTreble.Hw.Position
import PhhTreble.Hw.Suspension
import PhhTreble.Hw.Device
import PhhTreble.Hw.Input
import PhhTreble.Hw.Capture
import PhhTreble.Hw.Mono
import PhhTreble.Hw.AudioParams
import PhhTreble.Hw.Config
import PhhTreble.Hw.Parameters
import PhhTreble.Hw.Metadata
import PhhTreble.Fingerprint.Bridge
import PhhTreble.Hidl.Sessions
import PhhTreble.Hidl.Faithful
import PhhTreble.Hidl.SupportedCodecs
import PhhTreble.LeAudio.CodecsProvider
import PhhTreble.LeAudio.Resolver
import PhhTreble.LeAudio.CodecInfo
import PhhTreble.LeAudio.AseSelection
import PhhTreble.LeAudio.AseChecked
import PhhTreble.LeAudio.AseQos
import PhhTreble.LeAudio.ConfigurationData
import PhhTreble.LeAudio.AseSettings
import PhhTreble.LeAudio.Broadcast
import PhhTreble.LeAudio.AudioCodecs
import PhhTreble.Lib.LittleEndian
import PhhTreble.Sparse.Kernel
import PhhTreble.Sparse.Decoder
import PhhTreble.Sparse.Sound
import PhhTreble.Sparse.Image
import PhhTreble.Sparse.Transfer
import PhhTreble.Lib.Settling
import PhhTreble.Boot.History
import PhhTreble.Boot.Branding
import PhhTreble.Boot.Audit
import PhhTreble.Boot.Capture
import PhhTreble.Boot.GetSPL
import PhhTreble.Boot.Patching
import PhhTreble.Ota.Invariants
import PhhTreble.Boot.PropHandler

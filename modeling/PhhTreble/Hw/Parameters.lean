import PhhTreble.Hw.AudioParams
import PhhTreble.Hw.Config
/-!
# out_get_parameters

What a stream answers of its configuration, and what `ParseAudioParams` makes of
the answer, in any order in which the map of the answers is gone through.
-/

namespace PhhTreble.Hw

def AUDIO_PARAMETER_STREAM_SUP_SAMPLING_RATES : String := "sup_sampling_rates"
def AUDIO_PARAMETER_STREAM_SUP_CHANNELS : String := "sup_channels"
def AUDIO_PARAMETER_STREAM_SUP_FORMATS : String := "sup_formats"

def samplingRates : List (Nat × String) := [(16000, "16000"), (24000, "24000"), (44100, "44100"), (48000, "48000"),
  (88200, "88200"), (96000, "96000"), (176400, "176400"), (192000, "192000")]

def channels : List (ChannelMask × String) :=
  [(.outMono, "AUDIO_CHANNEL_OUT_MONO"), (.outStereo, "AUDIO_CHANNEL_OUT_STEREO")]

def formats : List (AudioFormat × String) := [(.pcm16Bit, "AUDIO_FORMAT_PCM_16_BIT"),
  (.pcm24BitPacked, "AUDIO_FORMAT_PCM_24_BIT_PACKED"), (.pcm8_24Bit, "AUDIO_FORMAT_PCM_8_24_BIT"),
  (.pcm32Bit, "AUDIO_FORMAT_PCM_32_BIT")]

/-- `param`: the name of a value, empty for one without. -/
def param {A : Type} [DecidableEq A] (names : List (A × String)) (value : A) : String := (names.lookup value).getD ""

/-- Each key with its answer. -/
def answers (audio_cfg : AudioConfig) : List (String × String) :=
  [(AUDIO_PARAMETER_STREAM_SUP_SAMPLING_RATES, param samplingRates audio_cfg.sample_rate),
    (AUDIO_PARAMETER_STREAM_SUP_CHANNELS, param channels audio_cfg.channel_mask),
    (AUDIO_PARAMETER_STREAM_SUP_FORMATS, param formats audio_cfg.format)]

/-- `return_params`: the answers to the keys that are asked for. -/
def returnParams (params : Params) (audio_cfg : AudioConfig) : List (String × String) :=
  (answers audio_cfg).filter fun answer => (params.lookup answer.1).isSome

/-- The loop at the end, over the map in its order. -/
def printParams (return_params : List (String × String)) : List Char :=
  return_params.flatMap fun ptr => ptr.1.toList ++ '=' :: ptr.2.toList ++ [';']

/-- `audio_cfg` of `out_get_parameters`, which stays as it was where none is loaded. -/
def StreamConfig.loaded (s : StreamConfig) (port : PortConfig) (audio_cfg : AudioConfig) : AudioConfig :=
  (port.loadAudioConfig s.is_stereo_to_mono_ audio_cfg).2

/-- `out_get_parameters`: `iterate` is the order in which a map is gone through. -/
def outGetParameters (iterate : List (String × String) → List (String × String)) (s : StreamConfig) (port : PortConfig)
    (audio_cfg : AudioConfig) (keys : List Char) : List Char :=
  let params := parseAudioParams keys
  if params.isEmpty then [] else printParams (iterate (returnParams params (s.loaded port audio_cfg)))

/-! ## The answer -/

/-- A text for a key or a value. -/
def Plain (s : String) : Prop := ';' ∉ s.toList ∧ '=' ∉ s.toList

theorem plain_param {A : Type} [DecidableEq A] {names : List (A × String)} (h : ∀ name ∈ names, Plain name.2)
    (value : A) : Plain (param names value) := by
  unfold param
  cases hl : names.lookup value with
  | none => exact ⟨List.not_mem_nil, List.not_mem_nil⟩
  | some name =>
    obtain ⟨pre, post, hnames, -⟩ := List.lookup_eq_some_iff.1 hl
    exact h (value, name) (hnames ▸ List.mem_append_right pre List.mem_cons_self)

theorem plain_answers (audio_cfg : AudioConfig) :
    ∀ answer ∈ answers audio_cfg, answer.1.toList ≠ [] ∧ Plain answer.1 ∧ Plain answer.2 := by
  simp only [answers, List.forall_mem_cons]
  refine ⟨⟨by decide, ⟨by decide, by decide⟩, plain_param ?_ _⟩, ⟨by decide, ⟨by decide, by decide⟩, plain_param ?_ _⟩,
    ⟨by decide, ⟨by decide, by decide⟩, plain_param ?_ _⟩, nofun⟩ <;> unfold Plain <;> decide

theorem keys_answers (audio_cfg : AudioConfig) : (answers audio_cfg).map Prod.fst =
    [AUDIO_PARAMETER_STREAM_SUP_SAMPLING_RATES, AUDIO_PARAMETER_STREAM_SUP_CHANNELS,
      AUDIO_PARAMETER_STREAM_SUP_FORMATS] := rfl

theorem nodup_answers (audio_cfg : AudioConfig) : ((answers audio_cfg).map Prod.fst).Nodup := by
  rw [keys_answers]
  decide

/-! ## What is read of it -/

theorem joined_cons (segment next : Segment) (segments : List Segment) :
    joined (segment :: next :: segments) = segment.text ++ ';' :: joined (next :: segments) := by
  rw [joined, List.map_cons, List.map_cons, List.intercalate_cons_cons, List.append_assoc]
  rfl

/-- What is printed is joined of parameters, with an empty segment at the end. -/
theorem printParams_joined {l : List (String × String)} (h : ∀ ptr ∈ l, ptr.1.toList ≠ [] ∧ Plain ptr.1 ∧ Plain ptr.2) :
    ∃ segments, printParams l = joined (segments ++ [.empty]) ∧ (params segments).map Param.entry = l := by
  induction l with
  | nil => exact ⟨[], rfl, rfl⟩
  | cons ptr l ih =>
    rw [List.forall_mem_cons] at h
    obtain ⟨segments, hprint, hparams⟩ := ih h.2
    obtain ⟨hne, hkey, hvalue⟩ := h.1
    let p : Param := ⟨ptr.1, some ptr.2, hne, hkey, fun v hv => Option.some.inj hv ▸ hvalue⟩
    refine ⟨.param p :: segments, ?_, ?_⟩
    · have hcons : printParams (ptr :: l) = p.text ++ ';' :: printParams l := by
        simp [printParams, Param.text, p]
      rw [hcons, hprint, List.cons_append]
      cases segments with
      | nil => exact (joined_cons (.param p) .empty []).symm
      | cons next segments => exact (joined_cons (.param p) next (segments ++ [.empty])).symm
    · rw [← hparams]
      rfl

theorem parse_printParams {l : List (String × String)} (h : ∀ ptr ∈ l, ptr.1.toList ≠ [] ∧ Plain ptr.1 ∧ Plain ptr.2) :
    parseAudioParams (printParams l) = Assoc.assignAll [] l := by
  obtain ⟨segments, hprint, hparams⟩ := printParams_joined h
  have hempty : params (segments ++ [.empty]) = params segments := by
    rw [params, List.filterMap_append]
    exact List.append_nil _
  rw [hprint, parseAudioParams_joined, hempty, hparams]

/-- An answer, read back. -/
theorem lookup_answer {iterate : List (String × String) → List (String × String)} (hperm : ∀ m, (iterate m).Perm m)
    (s : StreamConfig) (port : PortConfig) (audio_cfg : AudioConfig) (keys : List Char) (key value : String) :
    (parseAudioParams (outGetParameters iterate s port audio_cfg keys)).lookup key = some value ↔
      (key, value) ∈ answers (s.loaded port audio_cfg) ∧ ((parseAudioParams keys).lookup key).isSome := by
  unfold outGetParameters
  generalize s.loaded port audio_cfg = audio_cfg
  have hmem : ∀ answer, answer ∈ iterate (returnParams (parseAudioParams keys) audio_cfg) ↔
      answer ∈ answers audio_cfg ∧ ((parseAudioParams keys).lookup answer.1).isSome := by
    intro answer
    rw [(hperm _).mem_iff, returnParams, List.mem_filter]
  have hnodup : ((iterate (returnParams (parseAudioParams keys) audio_cfg)).map Prod.fst).Nodup := by
    rw [((hperm _).map Prod.fst).nodup_iff]
    exact (nodup_answers audio_cfg).sublist (List.filter_sublist.map _)
  dsimp only
  split
  · rename_i hempty
    rw [List.isEmpty_iff.1 hempty]
    exact iff_of_false nofun fun h => absurd h.2 Bool.false_ne_true
  · rw [parse_printParams fun ptr hptr => plain_answers audio_cfg ptr ((hmem ptr).1 hptr).1,
      Assoc.lookup_assignAll_nil_iff, Assoc.last_iff_mem hnodup, hmem]

/-- Whatever is asked and in whatever order the map of the answers is: the
client reads each of the three keys it asked for, with the name of the stream's
value, and nothing else; handed back to `out_set_parameters`, the answer makes
the stream load its configuration again and does no more. -/
theorem getParameters_decodes (iterate : List (String × String) → List (String × String))
    (hperm : ∀ m, (iterate m).Perm m) (s : StreamConfig) (port : PortConfig) (audio_cfg : AudioConfig) (keys : List Char) :
    let params := parseAudioParams (outGetParameters iterate s port audio_cfg keys)
    (∀ key value, params.lookup key = some value ↔
        (key, value) ∈ answers (s.loaded port audio_cfg) ∧ ((parseAudioParams keys).lookup key).isSome) ∧
      ∀ (out : StreamOut) (config : Option Nat) (answer : Answer),
        out.outSetParameters params config answer = out.configParam params config := by
  intro params
  have hlookup := lookup_answer hperm s port audio_cfg keys
  refine ⟨hlookup, fun out config answer => ?_⟩
  have hfree : ∀ key, key ∉ (answers (s.loaded port audio_cfg)).map Prod.fst → params.lookup key = none := by
    intro key hkey
    cases hv : params.lookup key with
    | none => rfl
    | some value => exact absurd (List.mem_map_of_mem (f := Prod.fst) ((hlookup key value).1 hv).1) hkey
  rw [keys_answers] at hfree
  have hsuspended : params.lookup "A2dpSuspended" = none := hfree _ (by decide)
  have hclosing : params.lookup "closing" = none := hfree _ (by decide)
  have hexiting : params.lookup "exiting" = none := hfree _ (by decide)
  simp [StreamOut.outSetParameters, StreamOut.a2dpSuspendedParam, StreamOut.stopParam, hsuspended, hclosing, hexiting]

/-- A session in mono, whose stream is handed stereo; the map is gone through backwards. -/
theorem getParameters_decodes_reverse :
    let s : StreamConfig := ⟨44100, .outStereo, .pcm16Bit, true, 10000, 441⟩
    let port := BluetoothAudioPortAidl.port .output .a2dpSoftwareEncodingDatapath (.pcmConfig ⟨44100, .mono, 16, 0⟩)
    let params := parseAudioParams
      (outGetParameters List.reverse s port ⟨0, .other 0, .other 0⟩ "sup_channels;sup_formats=;routing".toList)
    (∀ key value, params.lookup key = some value ↔ (key, value) ∈ answers (s.loaded port ⟨0, .other 0, .other 0⟩) ∧
        ((parseAudioParams "sup_channels;sup_formats=;routing".toList).lookup key).isSome) ∧
      ∀ (out : StreamOut) (config : Option Nat) (answer : Answer),
        out.outSetParameters params config answer = out.configParam params config := by
  intro s port
  exact getParameters_decodes List.reverse (fun m => m.reverse_perm) s port ⟨0, .other 0, .other 0⟩
    "sup_channels;sup_formats=;routing".toList

example :
    outGetParameters id ⟨44100, .outStereo, .pcm16Bit, true, 10000, 441⟩
      (BluetoothAudioPortAidl.port .output .a2dpSoftwareEncodingDatapath (.pcmConfig ⟨44100, .mono, 16, 0⟩))
      ⟨0, .other 0, .other 0⟩ "sup_channels;sup_formats=;routing".toList =
    "sup_channels=AUDIO_CHANNEL_OUT_STEREO;sup_formats=AUDIO_FORMAT_PCM_16_BIT;".toList := by decide

end PhhTreble.Hw

import PhhTreble.Hidl.Sessions
import PhhTreble.Lib.Tokens
/-!
# Source metadata

The tracks of an output stream, as `out_update_source_metadata_v7` hands them to
the stack over AIDL and over HIDL. A gain is of a type `G`.
-/

namespace PhhTreble

/-! ## The sessions -/

/-- The session types that get no metadata. -/
def Audio.SessionType.isA2dp (t : Audio.SessionType) : Bool :=
  t == .a2dpSoftwareEncodingDatapath || t == .a2dpHardwareOffloadEncodingDatapath ||
    t == .a2dpSoftwareDecodingDatapath || t == .a2dpHardwareOffloadDecodingDatapath

/-- What `BluetoothAudioSession::UpdateSourceMetadata` hands to the stack. -/
def Audio.Session.updateSourceMetadata {P M : Type} (t : Audio.SessionType) (s : Audio.Session P)
    (hal_source_metadata : M) : Option M :=
  if !s.isSessionReady t then none else if t.isA2dp then none else some hal_source_metadata

def Hidl.SessionType.isA2dp (t : Hidl.SessionType) : Bool :=
  t == .a2dpSoftwareEncodingDatapath || t == .a2dpHardwareOffloadDatapath

/-- `UpdateTracksMetadata`, without AIDL: the tracks are read from a pointer on. -/
def Hidl.Session.updateTracksMetadata {T : Type} (t : Hidl.SessionType) (s : Hidl.Session) (track_count : Nat)
    (track : Nat → T) : Option (List T) :=
  if !s.isSessionReady t then none else if t.isA2dp then none else some ((List.range track_count).map track)

namespace Hw

open Audio (Session SessionType)

/-! ## The data model -/

/-- `playback_track_metadata_v7`, with the string in `tags`. -/
structure PlaybackTrack (G : Type) where
  usage : Int
  content_type : Int
  gain : G
  tags : List Char
deriving DecidableEq, Repr

/-- `playback_track_metadata`, and `PlaybackTrackMetadata` of HIDL. -/
structure BluetoothAudioPortHidl.PlaybackTrackMetadata (G : Type) where
  usage : Int
  contentType : Int
  gain : G
deriving DecidableEq, Repr

/-- `PlaybackTrackMetadata` of AIDL. -/
structure BluetoothAudioPortAidl.PlaybackTrackMetadata (G : Type) where
  usage : Int
  contentType : Int
  gain : G
  tags : List (List Char)
deriving DecidableEq, Repr

variable {G P : Type}

/-! ## Over AIDL -/

/-- `CovertAudioTagFromV7`, with `AUDIO_ATTRIBUTES_TAGS_MAX_SIZE` for `maxSize`. -/
def covertAudioTagFromV7 (maxSize : Nat) (tags_v7 : List Char) : List (List Char) :=
  Tokens.tokens ';' (tags_v7.take (maxSize - 1))

/-- `UpdateSourceMetadata` of a port in use; `unset` is the gain of a new track. -/
def BluetoothAudioPortAidl.updateSourceMetadata (maxSize : Nat) (unset : G) (t : SessionType) (s : Session P)
    (tracks : List (PlaybackTrack G)) : Option (List (BluetoothAudioPortAidl.PlaybackTrackMetadata G)) :=
  if tracks.length = 0 then none
  else
    s.updateSourceMetadata t <| tracks.map fun track =>
      { usage := track.usage
        contentType := track.content_type
        gain := unset
        tags := covertAudioTagFromV7 maxSize track.tags }

/-! ## Over HIDL -/

/-- `out_update_source_metadata_v7` over HIDL, with a port in use: one track is
made, by `playback_track_metadata_from_v7`, the count is that of all. `beyond` is
the memory behind the one. -/
def outUpdateSourceMetadataHidl (fromV7 : PlaybackTrack G → BluetoothAudioPortHidl.PlaybackTrackMetadata G)
    (beyond : Nat → BluetoothAudioPortHidl.PlaybackTrackMetadata G) (t : Hidl.SessionType)
    (s : Hidl.Session) : List (PlaybackTrack G) → Option (List (BluetoothAudioPortHidl.PlaybackTrackMetadata G))
  | [] => none
  | track :: tracks =>
    s.updateTracksMetadata t (tracks.length + 1) fun i => if i = 0 then fromV7 track else beyond (i - 1)

/-! ## What the stack is told -/

/-- A track with these tags, as it comes from the framework. -/
def BluetoothAudioPortAidl.PlaybackTrackMetadata.toV7 (track : BluetoothAudioPortAidl.PlaybackTrackMetadata G) :
    PlaybackTrack G :=
  ⟨track.usage, track.contentType, track.gain, Tokens.join ';' track.tags⟩

/-- The tags come through a string of `;` between them. -/
theorem covertAudioTagFromV7_join_iff {maxSize : Nat} {tags : List (List Char)} :
    covertAudioTagFromV7 maxSize (Tokens.join ';' tags) = tags ↔
      (∀ tag ∈ tags, Tokens.IsToken ';' tag) ∧ (Tokens.join ';' tags).length ≤ maxSize - 1 :=
  Tokens.tokens_take_join_iff

/-- A list that is mapped to itself. -/
theorem map_eq_self_iff {A : Type} {f : A → A} {l : List A} : l.map f = l ↔ ∀ a ∈ l, f a = a := by
  conv_lhs => rhs; rw [← List.map_id' l]
  exact List.map_inj_left

/-- Over AIDL the stack is told of all tracks, without their gain. -/
theorem updateSourceMetadata_eq_iff {maxSize : Nat} {unset : G} {t : SessionType} {s : Session P}
    (hready : s.isSessionReady t = true) (ht : t.isA2dp = false)
    {tracks : List (BluetoothAudioPortAidl.PlaybackTrackMetadata G)} (hne : tracks ≠ []) :
    BluetoothAudioPortAidl.updateSourceMetadata maxSize unset t s (tracks.map fun track => track.toV7) = some tracks ↔
      ∀ track ∈ tracks, track.gain = unset ∧ (∀ tag ∈ track.tags, Tokens.IsToken ';' tag) ∧
        (Tokens.join ';' track.tags).length ≤ maxSize - 1 := by
  have hlength : (tracks.map fun track => track.toV7).length ≠ 0 := by simpa using hne
  rw [BluetoothAudioPortAidl.updateSourceMetadata, if_neg hlength, Session.updateSourceMetadata, hready, ht]
  simp only [Bool.not_true, Bool.false_eq_true, if_false, Option.some.injEq, List.map_map]
  rw [map_eq_self_iff]
  apply forall₂_congr
  intro track _
  rw [← covertAudioTagFromV7_join_iff]
  obtain ⟨usage, contentType, gain, tags⟩ := track
  simp [BluetoothAudioPortAidl.PlaybackTrackMetadata.toV7, eq_comm]

/-- Over HIDL it is told of one track, and of what is in the memory behind it. -/
theorem outUpdateSourceMetadataHidl_eq_iff (fromV7 : PlaybackTrack G → BluetoothAudioPortHidl.PlaybackTrackMetadata G) {t : Hidl.SessionType} {s : Hidl.Session}
    (hready : s.isSessionReady t = true) (ht : t.isA2dp = false) {tracks : List (PlaybackTrack G)} (hne : tracks ≠ []) :
    (∀ beyond, outUpdateSourceMetadataHidl fromV7 beyond t s tracks = some (tracks.map fromV7)) ↔
      tracks.length = 1 := by
  obtain ⟨track, tracks, rfl⟩ := List.exists_cons_of_ne_nil hne
  have htold : ∀ beyond, outUpdateSourceMetadataHidl fromV7 beyond t s (track :: tracks) =
      some (fromV7 track :: (List.range tracks.length).map beyond) := by
    intro beyond
    rw [outUpdateSourceMetadataHidl, Hidl.Session.updateTracksMetadata, hready, ht]
    simp [List.range_succ_eq_map]
  simp only [htold, List.map_cons, Option.some.injEq, List.cons.injEq, true_and, List.length_cons]
  cases tracks with
  | nil => simp
  | cons next tracks =>
    refine iff_of_false (fun hall => ?_) (by simp)
    -- memory with something else where the second track is expected
    have h := hall fun _ => { fromV7 next with usage := (fromV7 next).usage + 1 }
    rw [List.length_cons, List.range_succ_eq_map, List.map_cons, List.map_cons, List.cons.injEq] at h
    have husage := congrArg (·.usage) h.1
    simp at husage

/-- What a session that takes metadata is told of the tracks of the framework:
over AIDL these tracks exactly when none has a gain and the tags of each are some
text without `;` that fits into the string; over HIDL, where a track is told as
`fromV7` has it and whatever is in the memory, exactly when there is one track. -/
theorem sourceMetadata_told_iff (maxSize : Nat) (unset : G)
    (fromV7 : PlaybackTrack G → BluetoothAudioPortHidl.PlaybackTrackMetadata G) {t : SessionType} {s : Session P}
    (hready : s.isSessionReady t = true) (ht : t.isA2dp = false) {t' : Hidl.SessionType} {s' : Hidl.Session}
    (hready' : s'.isSessionReady t' = true) (ht' : t'.isA2dp = false)
    {tracks : List (BluetoothAudioPortAidl.PlaybackTrackMetadata G)} (hne : tracks ≠ []) :
    let tracks_v7 := tracks.map fun track => track.toV7
    (BluetoothAudioPortAidl.updateSourceMetadata maxSize unset t s tracks_v7 = some tracks ↔
      ∀ track ∈ tracks, track.gain = unset ∧ (∀ tag ∈ track.tags, Tokens.IsToken ';' tag) ∧
        (Tokens.join ';' track.tags).length ≤ maxSize - 1) ∧
    ((∀ beyond, outUpdateSourceMetadataHidl fromV7 beyond t' s' tracks_v7 = some (tracks_v7.map fromV7)) ↔
      tracks.length = 1) := by
  intro tracks_v7
  have hv7 : tracks_v7 ≠ [] := by simpa [tracks_v7] using hne
  refine ⟨updateSourceMetadata_eq_iff hready ht hne, ?_⟩
  rw [outUpdateSourceMetadataHidl_eq_iff fromV7 hready' ht' hv7, List.length_map]

/-- Two tracks of LE audio, one with tags. -/
theorem sourceMetadata_told_iff_two :
    let track : BluetoothAudioPortAidl.PlaybackTrackMetadata Nat := ⟨1, 2, 0, ["VX_A".toList, "VX_B".toList]⟩
    let next : BluetoothAudioPortAidl.PlaybackTrackMetadata Nat := ⟨5, 4, 0, []⟩
    let s : Session Unit := ⟨some 0, some ⟨true⟩, some ⟨.pcmConfig, ()⟩, [], true, []⟩
    let s' : Hidl.Session := ⟨some 0, some ⟨true⟩, .pcmConfig ⟨.rate48000, .stereo, .bits16⟩, []⟩
    let fromV7 (track : PlaybackTrack Nat) : BluetoothAudioPortHidl.PlaybackTrackMetadata Nat :=
      ⟨track.usage, track.content_type, track.gain⟩
    BluetoothAudioPortAidl.updateSourceMetadata 256 0 .leAudioSoftwareEncodingDatapath s [track.toV7, next.toV7] =
        some [track, next] ∧
      ¬ ∀ beyond, outUpdateSourceMetadataHidl fromV7 beyond .leAudioSoftwareEncodingDatapath s' [track.toV7, next.toV7] =
        some [fromV7 track.toV7, fromV7 next.toV7] := by
  intro track next s s' fromV7
  have hready : s.isSessionReady .leAudioSoftwareEncodingDatapath = true := rfl
  have hready' : s'.isSessionReady .leAudioSoftwareEncodingDatapath = true := rfl
  have h := sourceMetadata_told_iff 256 0 fromV7 hready rfl hready' rfl (List.cons_ne_nil track [next])
  refine ⟨h.1.2 ?_, fun hall => absurd (h.2.1 hall) (by decide)⟩
  have hfirst : ∀ tag ∈ track.tags, Tokens.IsToken ';' tag := by
    simp only [track, List.forall_mem_cons]
    exact ⟨⟨by decide, by decide⟩, ⟨by decide, by decide⟩, nofun⟩
  simp only [List.forall_mem_cons]
  exact ⟨⟨rfl, hfirst, by decide⟩, ⟨rfl, nofun, by decide⟩, nofun⟩

end Hw

end PhhTreble

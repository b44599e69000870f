import PhhTreble.Lib.Assoc
import PhhTreble.Hw.Stream
/-!
# ParseAudioParams

The key-value pairs that a client hands to `set_parameters`, and the map that the
streams look their keys up in.
-/

namespace PhhTreble.Hw

/-- The body of the loop. -/
def parseSegment (params_map : Params) (segment : List Char) : Params :=
  if segment.length = 0 then params_map
  else
    let kv := segment.splitOn '='
    if (kv.getD 0 []).isEmpty then params_map
    else
      Assoc.assign params_map (String.ofList (kv.getD 0 []))
        (String.ofList (if kv.length > 1 then kv.getD 1 [] else []))

def parseAudioParams (params : List Char) : Params := (params.splitOn ';').foldl parseSegment []

/-! ## What is joined -/

/-- A key with its value, `none` when there is no `=`. -/
structure Param where
  key : String
  value : Option String
  key_ne : key.toList ≠ []
  key_free : ';' ∉ key.toList ∧ '=' ∉ key.toList
  value_free : ∀ v ∈ value, ';' ∉ v.toList ∧ '=' ∉ v.toList

namespace Param

def text (param : Param) : List Char :=
  match param.value with
  | none => param.key.toList
  | some value => param.key.toList ++ '=' :: value.toList

/-- What the map is to hold. -/
def entry (param : Param) : String × String := (param.key, param.value.getD "")

end Param

/-- A segment: a parameter, nothing at all, or one with an empty key. -/
inductive Segment where
  | param (p : Param)
  | empty
  | emptyKey (rest : { rest : List Char // ';' ∉ rest })

namespace Segment

def text : Segment → List Char
  | param p => p.text
  | empty => []
  | emptyKey rest => '=' :: rest.1

def param? : Segment → Option Param
  | param p => some p
  | _ => none

end Segment

/-- The segments with `;` between them. -/
def joined (segments : List Segment) : List Char := [';'].intercalate (segments.map Segment.text)

/-- The parameters among the segments. -/
def params (segments : List Segment) : List Param := segments.filterMap Segment.param?

/-! ## One segment -/

theorem splitOn_param (p : Param) :
    p.text.splitOn '=' = p.key.toList :: (p.value.map String.toList).toList := by
  unfold Param.text
  cases hv : p.value with
  | none => exact List.splitOn_eq_singleton p.key_free.2
  | some value =>
    have hfree := (p.value_free value hv).2
    simp only
    rw [List.splitOn_append_cons_self_of_not_mem p.key_free.2, List.splitOn_eq_singleton hfree]
    rfl

/-- A parameter overwrites what its key had. -/
theorem parseSegment_param (m : Params) (p : Param) : parseSegment m p.text = Assoc.assign m p.entry.1 p.entry.2 := by
  have hne : p.text.length ≠ 0 := by
    have hkey := List.length_pos_of_ne_nil p.key_ne
    unfold Param.text
    split
    · omega
    · rw [List.length_append]
      omega
  have hkey : p.key.toList.isEmpty = false := by simpa using p.key_ne
  rw [parseSegment, if_neg hne, splitOn_param]
  unfold Param.entry
  cases p.value with
  | none => simp [hkey]
  | some value => simp [hkey]

/-- The other segments are skipped. -/
theorem parseSegment_skip (m : Params) {segment : Segment} (h : segment.param? = none) :
    parseSegment m segment.text = m := by
  cases segment with
  | param p => cases h
  | empty => rfl
  | emptyKey rest =>
    have hsplit : ('=' :: rest.1).splitOn '=' = [] :: rest.1.splitOn '=' :=
      List.splitOn_append_cons_self_of_not_mem List.not_mem_nil rest.1
    rw [Segment.text, parseSegment, hsplit]
    rfl

theorem text_free (segment : Segment) : ';' ∉ segment.text := by
  cases segment with
  | empty => exact List.not_mem_nil
  | emptyKey rest =>
    rw [Segment.text, List.mem_cons, not_or]
    exact ⟨by decide, rest.2⟩
  | param p =>
    rw [Segment.text, Param.text]
    split
    · exact p.key_free.1
    · rename_i value hv
      rw [List.mem_append, List.mem_cons, not_or, not_or]
      exact ⟨p.key_free.1, by decide, (p.value_free value hv).1⟩

/-! ## All segments -/

/-- The parameters are assigned one after the other. -/
theorem foldl_parseSegment (segments : List Segment) (m : Params) :
    (segments.map Segment.text).foldl parseSegment m = Assoc.assignAll m ((params segments).map Param.entry) := by
  unfold params
  induction segments generalizing m with
  | nil => rfl
  | cons segment segments ih =>
    rw [List.map_cons, List.foldl_cons, ih]
    cases segment with
    | param p =>
      rw [Segment.text, parseSegment_param]
      rfl
    | empty => rw [parseSegment_skip m rfl]; rfl
    | emptyKey rest => rw [parseSegment_skip m rfl]; rfl

theorem parseAudioParams_joined (segments : List Segment) :
    parseAudioParams (joined segments) = Assoc.assignAll [] ((params segments).map Param.entry) := by
  cases segments with
  | nil => rfl
  | cons segment segments =>
    have hsplit : (joined (segment :: segments)).splitOn ';' = (segment :: segments).map Segment.text := by
      refine List.splitOn_intercalate ';' ?_ (by simp)
      intro l hl
      obtain ⟨s, -, rfl⟩ := List.mem_map.1 hl
      exact text_free s
    rw [parseAudioParams, hsplit, foldl_parseSegment]

/-- However the segments are joined and padded, the map has each key once, with
the value of its last occurrence, and nothing else; the order of parameters
with distinct keys does not matter. -/
theorem parseAudioParams_decodes (segments : List Segment) :
    (∀ key value, (parseAudioParams (joined segments)).lookup key = some value ↔
      Assoc.Last ((params segments).map Param.entry) key value) ∧
      ((parseAudioParams (joined segments)).map Prod.fst).Nodup ∧
      ∀ segments', (params segments).Perm (params segments') → ((params segments).map Param.key).Nodup →
        ∀ key, (parseAudioParams (joined segments')).lookup key = (parseAudioParams (joined segments)).lookup key := by
  simp only [parseAudioParams_joined]
  refine ⟨fun key value => Assoc.lookup_assignAll_nil_iff, Assoc.nodup_assignAll _ List.nodup_nil, ?_⟩
  intro segments' hperm hkeys key
  have hentries : (((params segments).map Param.entry).map Prod.fst).Nodup := by
    rw [List.map_map]
    exact hkeys
  have hentries' : (((params segments').map Param.entry).map Prod.fst).Nodup :=
    ((hperm.map Param.entry).map Prod.fst).nodup_iff.1 hentries
  refine Option.ext fun value => ?_
  rw [Assoc.lookup_assignAll_nil_iff, Assoc.lookup_assignAll_nil_iff, Assoc.last_iff_mem hentries,
    Assoc.last_iff_mem hentries', (hperm.map Param.entry).mem_iff]

/-- A padded list with a key that comes twice. -/
example : parseAudioParams "=v;;a=1;b;a=2;=".toList = [("a", "2"), ("b", "")] := by decide

end PhhTreble.Hw

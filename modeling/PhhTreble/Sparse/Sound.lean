import PhhTreble.Sparse.Decoder
/-!
# What an exit code of 0 says about the stream

A run that exits 0 has read the chunk table the stream spells out, whatever the
kernel granted. The table is consistent over the integers exactly when no RAW
chunk wraps around and the blocks add up: the decoder checks neither.
-/

namespace PhhTreble.Sparse

variable {k : Kernel}

/-! ## The chunk table of a stream -/

namespace ChunkHeader

/-- The bytes of stdin after the header that belong to the chunk. -/
def dataLength (c : ChunkHeader) : Nat :=
  if c.chunk_type = CHUNK_TYPE_RAW then (4096 * c.chunk_sz) % 2 ^ 32
  else if c.chunk_type = CHUNK_TYPE_FILL ∨ c.chunk_type = CHUNK_TYPE_CRC32 then 4 else 0

/-- The blocks the chunk stands for in the image. -/
def blocks (c : ChunkHeader) : Nat := if c.chunk_type = CHUNK_TYPE_CRC32 then 0 else c.chunk_sz

/-- The bytes the decoder writes for the chunk. -/
def outLength (c : ChunkHeader) : Nat :=
  if c.chunk_type = CHUNK_TYPE_RAW then (4096 * c.chunk_sz) % 2 ^ 32 else 4096 * c.blocks

end ChunkHeader

/-- The first `n` chunk headers of a stream. -/
def chunkTable : Nat → Bytes → List ChunkHeader
  | 0, _ => []
  | n + 1, s =>
    let chunk := ChunkHeader.decode (s.take sizeofChunkHeader)
    chunk :: chunkTable n (s.drop (sizeofChunkHeader + chunk.dataLength))

/-- No RAW chunk has 2^20 blocks or more, and the blocks of the table add up to
the header's total. -/
def Consistent (stdin : Bytes) : Prop :=
  let hdr := SparseHeader.decode (stdin.take sizeofSparseHeader)
  let chunks := chunkTable hdr.total_chunks (stdin.drop sizeofSparseHeader)
  (∀ c ∈ chunks, c.chunk_type = CHUNK_TYPE_RAW → c.chunk_sz < 2 ^ 20) ∧ (chunks.map (·.blocks)).sum = hdr.total_blks

/-- What was read is consistent over the integers, and the whole image was written. -/
structure Outcome.Sound (o : Outcome) : Prop where
  raw : ∀ c ∈ o.chunks, c.chunk_type = CHUNK_TYPE_RAW → c.total_sz = 12 + c.chunk_sz * 4096
  blocks : (o.chunks.map (·.blocks)).sum = o.hdr.total_blks
  written : o.stdout.length = o.hdr.total_blks * 4096

/-! ## One chunk -/

theorem writeBlocks_ok {blk_sz code n : Nat} {p q : Proc} (h : writeBlocks k blk_sz code n p = .ok q) :
    q = { p with stdout := p.stdout ++ List.replicate (blk_sz * n) 0 } := by
  induction n generalizing p with
  | zero => cases h; simp
  | succ n ih =>
    rw [writeBlocks, bind_eq_ok] at h
    obtain ⟨p', hw, h⟩ := h
    rw [ih h, writeStdout_ok hw]
    simp only [List.append_assoc, List.replicate_append_replicate]
    congr 3
    ring

theorem rawChunk_ok {hdr : SparseHeader} {chunk_sz total_sz : Nat} {p q : Proc}
    (h : rawChunk k hdr chunk_sz total_sz p = .ok q) :
    total_sz = sizeofChunkHeader + (chunk_sz * hdr.blk_sz) % 2 ^ 32 ∧ Moved p q ((hdr.blk_sz * chunk_sz) % 2 ^ 32) := by
  unfold rawChunk at h
  split at h
  · cases h
  · rename_i hsz
    exact ⟨by simpa using hsz, nsendfile_ok h⟩

theorem fillChunk_ok {hdr : SparseHeader} {chunk_sz total_sz : Nat} {p q : Proc}
    (h : fillChunk k hdr chunk_sz total_sz p = .ok q) :
    q.stdin = p.stdin.drop 4 ∧ q.stdout = p.stdout ++ List.replicate (hdr.blk_sz * chunk_sz) 0 := by
  unfold fillChunk at h
  split at h
  · cases h
  · obtain ⟨⟨fill, p'⟩, hr, h⟩ := bind_eq_ok.1 h
    obtain ⟨-, -, rfl⟩ := readExact_ok hr
    dsimp only at h
    split at h
    · cases h
    · rw [writeBlocks_ok h]
      exact ⟨rfl, rfl⟩

theorem dontCareChunk_ok {hdr : SparseHeader} {chunk_sz total_sz : Nat} {p q : Proc}
    (h : dontCareChunk k hdr chunk_sz total_sz p = .ok q) :
    q.stdin = p.stdin ∧ q.stdout = p.stdout ++ List.replicate (hdr.blk_sz * chunk_sz) 0 := by
  unfold dontCareChunk at h
  split at h
  · cases h
  · rw [writeBlocks_ok h]
    exact ⟨rfl, rfl⟩

theorem crc32Chunk_ok {total_sz : Nat} {p q : Proc} (h : crc32Chunk k total_sz p = .ok q) : q = p.take 4 := by
  unfold crc32Chunk at h
  split at h
  · cases h
  · obtain ⟨⟨crc, p'⟩, hr, h⟩ := bind_eq_ok.1 h
    obtain ⟨-, -, rfl⟩ := readExact_ok hr
    cases h
    rfl

/-- A chunk that is accepted has the size its type asks for, and moves as much
as it says, up to the wrap-around of a RAW chunk. -/
theorem chunkBody_ok {hdr : SparseHeader} {c : ChunkHeader} {p q : Proc} (hb : hdr.blk_sz = 4096)
    (h : chunkBody k hdr c p = .ok q) :
    (c.chunk_type = CHUNK_TYPE_RAW → c.total_sz = 12 + (4096 * c.chunk_sz) % 2 ^ 32) ∧
      q.stdin = p.stdin.drop c.dataLength ∧ q.stdout.length = p.stdout.length + c.outLength := by
  unfold chunkBody at h
  unfold ChunkHeader.dataLength ChunkHeader.outLength ChunkHeader.blocks
  split at h
  · rename_i hraw
    -- Both the size check and the copy see the product after it has wrapped.
    obtain ⟨hsz, hm⟩ := rawChunk_ok h
    rw [hb] at hsz hm
    rw [if_pos hraw, if_pos hraw, hm.stdin, hm.stdout, List.length_append, List.length_take, Nat.min_eq_left hm.le]
    exact ⟨fun _ => by rw [hsz, Nat.mul_comm]; rfl, rfl, rfl⟩
  · rename_i hraw
    refine ⟨fun ht => absurd ht hraw, ?_⟩
    rw [if_neg hraw, if_neg hraw]
    split at h
    · rename_i hfill
      obtain ⟨hin, hout⟩ := fillChunk_ok h
      rw [hin, hout, hb, if_pos (.inl hfill), if_neg (by rw [hfill]; decide)]
      simp
    · rename_i hfill
      split at h
      · rename_i hdc
        obtain ⟨hin, hout⟩ := dontCareChunk_ok h
        have hcrc : ¬ c.chunk_type = CHUNK_TYPE_CRC32 := by rw [hdc]; decide
        rw [hin, hout, hb, if_neg (fun h => h.elim hfill hcrc), if_neg hcrc]
        simp
      · split at h
        · rename_i hcrc
          rw [crc32Chunk_ok h, if_pos (.inr hcrc), if_pos hcrc]
          exact ⟨rfl, rfl⟩
        · cases h

/-! ## The whole table -/

theorem chunkLoop_ok {hdr : SparseHeader} {n : Nat} {p q : Proc} {chunks : List ChunkHeader} (hb : hdr.blk_sz = 4096)
    (h : chunkLoop k hdr n p = .ok (q, chunks)) :
    chunks = chunkTable n p.stdin ∧
      (∀ c ∈ chunks, c.chunk_type = CHUNK_TYPE_RAW → c.total_sz = 12 + (4096 * c.chunk_sz) % 2 ^ 32) ∧
      q.stdout.length = p.stdout.length + (chunks.map (·.outLength)).sum := by
  induction n generalizing p q chunks with
  | zero => cases h; simp [chunkTable]
  | succ n ih =>
    rw [chunkLoop, bind_eq_ok] at h
    obtain ⟨⟨buf, p'⟩, hr, h⟩ := h
    obtain ⟨-, rfl, rfl⟩ := readExact_ok hr
    obtain ⟨p'', hc, h⟩ := bind_eq_ok.1 h
    obtain ⟨⟨q', rest⟩, hrest, h⟩ := bind_eq_ok.1 h
    cases h
    obtain ⟨hraw, hin, hout⟩ := chunkBody_ok hb hc
    obtain ⟨htable, hraws, hlen⟩ := ih hrest
    refine ⟨?_, fun c hm => ?_, ?_⟩
    · rw [htable, hin, Proc.take_stdin, List.drop_drop, chunkTable]
    · rcases List.mem_cons.1 hm with rfl | hm
      · exact hraw
      · exact hraws c hm
    · rw [hlen, hout, List.map_cons, List.sum_cons, Proc.take_stdout, Nat.add_assoc]

theorem checkHeader_ok {hdr : SparseHeader} {u : Unit} (h : checkHeader hdr = .ok u) :
    hdr.magic = SPARSE_HEADER_MAGIC ∧ hdr.blk_sz = 4096 ∧ hdr.major_version = 1 ∧ hdr.minor_version = 0 ∧
      hdr.file_hdr_sz = 28 ∧ hdr.chunk_hdr_sz = 12 := by
  unfold checkHeader at h
  repeat' split at h
  all_goals first | cases h; done | simp_all

theorem main_ok {stdin : Bytes} {o : Outcome} (h : main k stdin = .ok o) :
    o.hdr = SparseHeader.decode (stdin.take sizeofSparseHeader) ∧
      o.chunks = chunkTable o.hdr.total_chunks (stdin.drop sizeofSparseHeader) ∧
      (∀ c ∈ o.chunks, c.chunk_type = CHUNK_TYPE_RAW → c.total_sz = 12 + (4096 * c.chunk_sz) % 2 ^ 32) ∧
      o.stdout.length = (o.chunks.map (·.outLength)).sum := by
  unfold main at h
  obtain ⟨⟨buf, p⟩, hr, h⟩ := bind_eq_ok.1 h
  obtain ⟨-, rfl, rfl⟩ := readExact_ok hr
  obtain ⟨u, hh, h⟩ := bind_eq_ok.1 h
  obtain ⟨⟨q, chunks⟩, hl, h⟩ := bind_eq_ok.1 h
  cases h
  obtain ⟨htable, hraw, hlen⟩ := chunkLoop_ok (checkHeader_ok hh).2.1 hl
  exact ⟨rfl, htable, hraw, by simpa using hlen⟩

/-! ## Soundness -/

/-- Where no RAW chunk wraps, as many bytes are written as the table has blocks. -/
theorem outLength_sum {chunks : List ChunkHeader}
    (h : ∀ c ∈ chunks, c.chunk_type = CHUNK_TYPE_RAW → c.chunk_sz < 2 ^ 20) :
    (chunks.map (·.outLength)).sum = (chunks.map (·.blocks)).sum * 4096 := by
  induction chunks with
  | nil => rfl
  | cons c chunks ih =>
    have hc : c.outLength = c.blocks * 4096 := by
      by_cases hraw : c.chunk_type = CHUNK_TYPE_RAW
      · have := h c List.mem_cons_self hraw
        have hne : ¬ c.chunk_type = CHUNK_TYPE_CRC32 := by rw [hraw]; decide
        rw [ChunkHeader.outLength, if_pos hraw, ChunkHeader.blocks, if_neg hne]
        omega
      · rw [ChunkHeader.outLength, if_neg hraw, Nat.mul_comm]
    rw [List.map_cons, List.sum_cons, List.map_cons, List.sum_cons, hc,
      ih fun c hm => h c (List.mem_cons_of_mem _ hm), Nat.add_mul]

/-- A run that exits 0 is sound exactly when the stream's chunk table is
consistent: no RAW size wraps and the blocks add up to the header's total. -/
theorem main_sound_iff (k : Kernel) (stdin : Bytes) (o : Outcome) (h : main k stdin = .ok o) :
    o.Sound ↔ Consistent stdin := by
  obtain ⟨hhdr, htable, hraw, hlen⟩ := main_ok h
  rw [Consistent, ← hhdr, ← htable]
  constructor
  · intro hs
    -- A size that is right over the integers and right modulo 2^32 has not wrapped.
    refine ⟨fun c hm ht => ?_, hs.blocks⟩
    have h1 := hraw c hm ht
    have h2 := hs.raw c hm ht
    omega
  · rintro ⟨hsmall, hsum⟩
    refine ⟨fun c hm ht => ?_, hsum, by rw [hlen, outLength_sum hsmall, hsum]⟩
    have h1 := hraw c hm ht
    have h2 := hsmall c hm ht
    omega

/-- An image of no blocks whose table is one CRC32 chunk. -/
theorem main_sound_crc : Outcome.Sound ⟨⟨SPARSE_HEADER_MAGIC, 1, 0, 28, 12, 4096, 0, 1, 0⟩, [⟨CHUNK_TYPE_CRC32, 0, 0, 16⟩], []⟩ :=
  (main_sound_iff ⟨fun _ => .full, fun _ => .full, fun _ => .full⟩
    [0x3a, 0xff, 0x26, 0xed, 1, 0, 0, 0, 28, 0, 12, 0, 0, 0x10, 0, 0, 0, 0, 0, 0, 1, 0, 0, 0, 0, 0, 0, 0,
      0xc4, 0xca, 0, 0, 0, 0, 0, 0, 16, 0, 0, 0, 1, 2, 3, 4] _ (by decide)).2 ⟨by decide, by decide⟩

/-- A header that announces one block and no chunks exits 0 with nothing written. -/
theorem main_unsound : ¬ ∀ (k : Kernel) (stdin : Bytes) (o : Outcome), main k stdin = .ok o → o.Sound := by
  intro h
  have := (h ⟨fun _ => .full, fun _ => .full, fun _ => .full⟩
    [0x3a, 0xff, 0x26, 0xed, 1, 0, 0, 0, 28, 0, 12, 0, 0, 0x10, 0, 0, 1, 0, 0, 0, 0, 0, 0, 0, 0, 0, 0, 0] _ rfl).written
  exact absurd this (by decide)

end PhhTreble.Sparse

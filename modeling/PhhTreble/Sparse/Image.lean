import PhhTreble.Sparse.Decoder
/-!
# Well-formed sparse images

The abstract side of the decoder: an image is a list of chunks, each with its
own size bounds, and stands for the bytes it expands to. A fair kernel lets the
decoder expand it exactly when it grants each read of a header or a word whole.
-/

namespace PhhTreble.Sparse

open LittleEndian

/-! ## Images -/

/-- What a chunk holds. A RAW chunk's size in the file, header included, is a
32-bit word. -/
inductive Payload where
  | raw (data : Bytes) (blocks : Nat) (whole : data.length = 4096 * blocks) (fits : 12 + 4096 * blocks < 2 ^ 32)
  | fill (blocks : BitVec 32)
  | dontCare (blocks : BitVec 32)
  | crc32 (crc : BitVec 32) (blocks : BitVec 32)

structure Chunk where
  reserved1 : BitVec 16
  payload : Payload

structure Image where
  total_blks : BitVec 32
  image_checksum : BitVec 32
  chunks : List Chunk
  fits : chunks.length < 2 ^ 32

def ChunkHeader.encode (c : ChunkHeader) : Bytes :=
  leBytes 2 c.chunk_type ++ (leBytes 2 c.reserved1 ++ (leBytes 4 c.chunk_sz ++ leBytes 4 c.total_sz))

def SparseHeader.encode (h : SparseHeader) : Bytes :=
  leBytes 4 h.magic ++ (leBytes 2 h.major_version ++ (leBytes 2 h.minor_version ++ (leBytes 2 h.file_hdr_sz ++
    (leBytes 2 h.chunk_hdr_sz ++ (leBytes 4 h.blk_sz ++ (leBytes 4 h.total_blks ++ (leBytes 4 h.total_chunks ++
      leBytes 4 h.image_checksum)))))))

namespace Chunk

/-- The bytes after the chunk header; the word of a FILL chunk is 0. -/
def data (c : Chunk) : Bytes :=
  match c.payload with
  | .raw data _ _ _ => data
  | .fill _ => leBytes 4 0
  | .dontCare _ => []
  | .crc32 crc _ => leBytes 4 crc.toNat

def header (c : Chunk) : ChunkHeader :=
  match c.payload with
  | .raw _ blocks _ _ => ⟨CHUNK_TYPE_RAW, c.reserved1.toNat, blocks, 12 + 4096 * blocks⟩
  | .fill blocks => ⟨CHUNK_TYPE_FILL, c.reserved1.toNat, blocks.toNat, 16⟩
  | .dontCare blocks => ⟨CHUNK_TYPE_DONT_CARE, c.reserved1.toNat, blocks.toNat, 12⟩
  | .crc32 _ blocks => ⟨CHUNK_TYPE_CRC32, c.reserved1.toNat, blocks.toNat, 16⟩

def encode (c : Chunk) : Bytes := c.header.encode ++ c.data

/-- The bytes the chunk stands for. -/
def expand (c : Chunk) : Bytes :=
  match c.payload with
  | .raw data _ _ _ => data
  | .fill blocks => List.replicate (4096 * blocks.toNat) 0
  | .dontCare blocks => List.replicate (4096 * blocks.toNat) 0
  | .crc32 _ _ => []

/-- The decoder reads the data as one word. -/
def HasWord (c : Chunk) : Prop :=
  match c.payload with
  | .raw _ _ _ _ => False
  | .fill _ => True
  | .dontCare _ => False
  | .crc32 _ _ => True

instance (c : Chunk) : Decidable c.HasWord := by
  unfold HasWord
  split <;> infer_instance

end Chunk

namespace Image

def header (img : Image) : SparseHeader :=
  ⟨SPARSE_HEADER_MAGIC, 1, 0, 28, 12, 4096, img.total_blks.toNat, img.chunks.length, img.image_checksum.toNat⟩

@[simp] theorem header_total_chunks (img : Image) : img.header.total_chunks = img.chunks.length := rfl

def encode (img : Image) : Bytes := img.header.encode ++ img.chunks.flatMap Chunk.encode

def expand (img : Image) : Bytes := img.chunks.flatMap Chunk.expand

end Image

/-! ## Headers read back -/

theorem length_chunkHeader_encode (c : ChunkHeader) : c.encode.length = sizeofChunkHeader := by
  simp [ChunkHeader.encode, sizeofChunkHeader]

theorem length_sparseHeader_encode (h : SparseHeader) : h.encode.length = sizeofSparseHeader := by
  simp [SparseHeader.encode, sizeofSparseHeader]

theorem length_chunk_encode (c : Chunk) : c.encode.length = sizeofChunkHeader + c.data.length := by
  rw [Chunk.encode, List.length_append, length_chunkHeader_encode]

theorem ChunkHeader.decode_encode {c : ChunkHeader} (h1 : c.chunk_type < 256 ^ 2) (h2 : c.reserved1 < 256 ^ 2)
    (h3 : c.chunk_sz < 256 ^ 4) (h4 : c.total_sz < 256 ^ 4) : decode c.encode = c := by
  simp only [decode, encode, u16, u32, List.drop_append, List.take_append, length_leBytes]
  simp [take_leBytes, drop_leBytes, le_leBytes h1, le_leBytes h2, le_leBytes h3, le_leBytes h4]

theorem Image.decode_header (img : Image) : SparseHeader.decode img.header.encode = img.header := by
  have hmagic : SPARSE_HEADER_MAGIC < 256 ^ 4 := by decide
  have hchunks : img.chunks.length < 256 ^ 4 := img.fits
  have hblks : img.total_blks.toNat < 256 ^ 4 := img.total_blks.isLt
  have hsum : img.image_checksum.toNat < 256 ^ 4 := img.image_checksum.isLt
  have hconst : le (leBytes 2 1) = 1 ∧ le (leBytes 2 0) = 0 ∧ le (leBytes 2 28) = 28 ∧ le (leBytes 2 12) = 12 ∧
      le (leBytes 4 4096) = 4096 := by decide
  simp only [SparseHeader.decode, SparseHeader.encode, u16, u32, List.drop_append, List.take_append, length_leBytes]
  simp [take_leBytes, drop_leBytes, Image.header, hconst, le_leBytes hmagic, le_leBytes hchunks, le_leBytes hblks,
    le_leBytes hsum]

theorem checkHeader_image (img : Image) : checkHeader img.header = .ok () := by
  simp [checkHeader, Image.header]

theorem Chunk.header_fits (c : Chunk) : c.header.chunk_type < 256 ^ 2 ∧ c.header.reserved1 < 256 ^ 2 ∧
    c.header.chunk_sz < 256 ^ 4 ∧ c.header.total_sz < 256 ^ 4 := by
  have hr : c.reserved1.toNat < 256 ^ 2 := c.reserved1.isLt
  obtain ⟨reserved1, payload⟩ := c
  cases payload with
  | raw data blocks whole fits =>
    simp only [header, CHUNK_TYPE_RAW]
    omega
  | fill blocks =>
    have := blocks.isLt
    simp only [header, CHUNK_TYPE_FILL]
    omega
  | dontCare blocks =>
    have := blocks.isLt
    simp only [header, CHUNK_TYPE_DONT_CARE]
    omega
  | crc32 crc blocks =>
    have := blocks.isLt
    simp only [header, CHUNK_TYPE_CRC32]
    omega

theorem Chunk.decode_header (c : Chunk) : ChunkHeader.decode c.header.encode = c.header := by
  obtain ⟨h1, h2, h3, h4⟩ := c.header_fits
  exact ChunkHeader.decode_encode h1 h2 h3 h4

/-! ## Reads that are granted whole -/

/-- The kernel grants a read of `size` bytes at this position whole. -/
def Granted (k : Kernel) (pos size : Nat) : Prop := (k.read pos).grant size = some size

instance (k : Kernel) (pos size : Nat) : Decidable (Granted k pos size) := inferInstanceAs (Decidable (_ = _))

/-- The reads of the chunk headers and of the words after them, from a position on. -/
def ChunksGranted (k : Kernel) : Nat → List Chunk → Prop
  | _, [] => True
  | pos, c :: cs => Granted k pos sizeofChunkHeader ∧ (c.HasWord → Granted k (pos + sizeofChunkHeader) 4) ∧
      ChunksGranted k (pos + c.encode.length) cs

/-- All the reads of fixed size that the decoder makes of the image. -/
def Image.Granted (k : Kernel) (img : Image) : Prop :=
  Sparse.Granted k 0 sizeofSparseHeader ∧ ChunksGranted k sizeofSparseHeader img.chunks

section
variable {k : Kernel} {p : Proc} {size : Nat}

/-- A read of fixed size succeeds exactly when it is granted whole. -/
theorem readExact_eq (h : size ≤ p.stdin.length) (code : Nat) :
    readExact k p size code = if Granted k p.pos size then .ok (p.stdin.take size, p.take size) else .error code := by
  unfold readExact readStdin
  rw [Nat.min_eq_left h]
  by_cases hg : Granted k p.pos size
  · have hgrant : (k.read p.pos).grant size = some size := hg
    rw [if_pos hg, hgrant]
    simp [h]
  · rw [if_neg hg]
    cases hn : (k.read p.pos).grant size with
    | none => rfl
    | some n =>
      have hle := grant_le hn
      have hne : n ≠ size := by
        rintro rfl
        exact hg hn
      dsimp only
      rw [List.length_take, Nat.min_eq_left (Nat.le_trans hle h), if_neg hne]

theorem readExact_granted {data tail : Bytes} (h : p.stdin = data ++ tail) (hl : data.length = size)
    (hg : Granted k p.pos size) (code : Nat) :
    readExact k p size code = .ok (data, { p with stdin := tail, pos := p.pos + size }) := by
  rw [readExact_eq (by rw [h, List.length_append]; omega), if_pos hg, Proc.take, h, ← hl, List.take_left, List.drop_left]

theorem readExact_refused {data tail : Bytes} (h : p.stdin = data ++ tail) (hl : data.length = size)
    (hg : ¬ Granted k p.pos size) (code : Nat) : readExact k p size code = .error code := by
  rw [readExact_eq (by rw [h, List.length_append]; omega), if_neg hg]

end

/-! ## One chunk -/

theorem chunkBody_refused {k : Kernel} (hdr : SparseHeader) {c : Chunk} {p : Proc} {tail : Bytes}
    (hin : p.stdin = c.data ++ tail) (hw : c.HasWord) (hg : ¬ Granted k p.pos 4) :
    ∃ code, chunkBody k hdr c.header p = .error code := by
  obtain ⟨reserved1, payload⟩ := c
  cases payload with
  | raw data blocks whole fits => exact hw.elim
  | dontCare blocks => exact hw.elim
  | fill blocks =>
    refine ⟨5, ?_⟩
    rw [chunkBody_fill rfl]
    simp only [Chunk.header, fillChunk, sizeofChunkHeader, ne_eq, not_true_eq_false, if_false,
      readExact_refused hin (length_leBytes 4 0) hg, error_bind]
  | crc32 crc blocks =>
    refine ⟨5, ?_⟩
    rw [chunkBody_crc32 rfl]
    simp only [Chunk.header, crc32Chunk, sizeofChunkHeader, ne_eq, not_true_eq_false, if_false,
      readExact_refused hin (length_leBytes 4 crc.toNat) hg, error_bind]

section
variable {k : Kernel} (hk : Fair k)
include hk

theorem writeBlocks_fair (blk_sz code n : Nat) (p : Proc) :
    writeBlocks k blk_sz code n p = .ok { p with stdout := p.stdout ++ List.replicate (blk_sz * n) 0 } := by
  induction n generalizing p with
  | zero => simp [writeBlocks]
  | succ n ih =>
    rw [writeBlocks, hk.writeStdout_eq]
    simp only [ok_bind, ih, List.append_assoc, List.replicate_append_replicate, Nat.mul_succ, Nat.add_comm]

/-- The body of the loop expands the chunk when its word, if it has one, is granted whole. -/
theorem chunkBody_granted {hdr : SparseHeader} (hb : hdr.blk_sz = 4096) (c : Chunk) {p : Proc} {tail : Bytes}
    (hin : p.stdin = c.data ++ tail) (hg : c.HasWord → Granted k p.pos 4) :
    ∃ q, chunkBody k hdr c.header p = .ok q ∧ q.stdin = tail ∧ q.pos = p.pos + c.data.length ∧
      q.stdout = p.stdout ++ c.expand := by
  obtain ⟨reserved1, payload⟩ := c
  cases payload with
  | raw data blocks whole fits =>
    have hin : p.stdin = data ++ tail := hin
    -- A well-formed RAW chunk is small enough for the product not to wrap.
    have hmod : (4096 * blocks) % 2 ^ 32 = 4096 * blocks := by omega
    have hlen : 4096 * blocks ≤ p.stdin.length := by rw [hin, List.length_append]; omega
    obtain ⟨q, hq⟩ := hk.nsendfile_total hlen
    have hm := nsendfile_ok hq
    rw [← whole] at hm
    refine ⟨q, ?_, by rw [hm.stdin, hin, List.drop_left], hm.pos, by rw [hm.stdout, hin, List.take_left]; rfl⟩
    rw [chunkBody_raw rfl]
    simp only [Chunk.header, rawChunk, hb, Nat.mul_comm blocks, hmod, sizeofChunkHeader, ne_eq, not_true_eq_false,
      if_false, hq]
  | fill blocks =>
    have hword : u32 (Chunk.data ⟨reserved1, .fill blocks⟩) 0 = 0 := rfl
    refine ⟨{ p with stdin := tail, pos := p.pos + 4, stdout := p.stdout ++ List.replicate (4096 * blocks.toNat) 0 },
      ?_, rfl, rfl, rfl⟩
    rw [chunkBody_fill rfl]
    simp only [Chunk.header, fillChunk, sizeofChunkHeader, ne_eq, not_true_eq_false, if_false,
      readExact_granted hin (length_leBytes 4 0) (hg trivial), ok_bind, hword, writeBlocks_fair hk, hb]
  | dontCare blocks =>
    refine ⟨{ p with stdout := p.stdout ++ List.replicate (4096 * blocks.toNat) 0 }, ?_, hin, rfl, rfl⟩
    rw [chunkBody_dontCare rfl]
    simp only [Chunk.header, dontCareChunk, sizeofChunkHeader, ne_eq, not_true_eq_false, if_false, writeBlocks_fair hk, hb]
  | crc32 crc blocks =>
    refine ⟨{ p with stdin := tail, pos := p.pos + 4 }, ?_, rfl, rfl, (List.append_nil _).symm⟩
    rw [chunkBody_crc32 rfl]
    simp only [Chunk.header, crc32Chunk, sizeofChunkHeader, ne_eq, not_true_eq_false, if_false,
      readExact_granted hin (length_leBytes 4 crc.toNat) (hg trivial), ok_bind]
    rfl

/-! ## The whole image -/

/-- Induction on the chunks: the loop expands them all, or stops at the first
read that is cut short. -/
theorem chunkLoop_fair (hdr : SparseHeader) (hb : hdr.blk_sz = 4096) (cs : List Chunk) (p : Proc)
    (hin : p.stdin = cs.flatMap Chunk.encode) :
    (ChunksGranted k p.pos cs → ∃ q chunks, chunkLoop k hdr cs.length p = .ok (q, chunks) ∧
        q.stdout = p.stdout ++ cs.flatMap Chunk.expand) ∧
      (¬ ChunksGranted k p.pos cs → ∃ code, chunkLoop k hdr cs.length p = .error code) := by
  induction cs generalizing p with
  | nil => exact ⟨fun _ => ⟨p, [], rfl, by simp⟩, fun h => absurd trivial h⟩
  | cons c cs ih =>
    -- Three places where the turn may end: the header, the word, the rest of the table.
    have hin : p.stdin = c.header.encode ++ (c.data ++ cs.flatMap Chunk.encode) := by
      rw [hin, List.flatMap_cons, Chunk.encode, List.append_assoc]
    rw [List.length_cons, chunkLoop]
    by_cases hg : Granted k p.pos sizeofChunkHeader
    · rw [readExact_granted hin (length_chunkHeader_encode _) hg]
      simp only [ok_bind, c.decode_header]
      by_cases hw : c.HasWord → Granted k (p.pos + sizeofChunkHeader) 4
      · obtain ⟨q, hq, hqin, hqpos, hqout⟩ := chunkBody_granted hk hb c
          (p := { p with stdin := c.data ++ cs.flatMap Chunk.encode, pos := p.pos + sizeofChunkHeader }) rfl hw
        obtain ⟨hyes, hno⟩ := ih q hqin
        have hpos : q.pos = p.pos + c.encode.length := by rw [hqpos, length_chunk_encode, Nat.add_assoc]
        have hiff : ChunksGranted k p.pos (c :: cs) ↔ ChunksGranted k q.pos cs := by
          rw [hpos]
          exact ⟨fun h => h.2.2, fun h => ⟨hg, hw, h⟩⟩
        rw [hq, hiff]
        constructor
        · intro h
          obtain ⟨r, chunks, hr, hout⟩ := hyes h
          exact ⟨r, _, by rw [ok_bind, hr]; rfl, by rw [hout, hqout, List.append_assoc, List.flatMap_cons]⟩
        · intro h
          obtain ⟨code, hcode⟩ := hno h
          exact ⟨code, by rw [ok_bind, hcode]; rfl⟩
      · obtain ⟨hword, hw'⟩ := Classical.not_imp.1 hw
        obtain ⟨code, hcode⟩ := chunkBody_refused hdr
          (p := { p with stdin := c.data ++ cs.flatMap Chunk.encode, pos := p.pos + sizeofChunkHeader }) rfl hword hw'
        exact ⟨fun h => absurd h.2.1 hw, fun _ => ⟨code, by rw [hcode]; rfl⟩⟩
    · rw [readExact_refused hin (length_chunkHeader_encode _) hg]
      exact ⟨fun h => absurd h.1 hg, fun _ => ⟨3, rfl⟩⟩

end

/-- A fair kernel makes the decoder expand a well-formed image exactly when it
grants every read of a header or a word whole: these reads are not repeated,
unlike those of `nsendfile`. -/
theorem main_complete_iff {k : Kernel} (hk : Fair k) (img : Image) :
    (∃ o, main k img.encode = .ok o ∧ o.stdout = img.expand) ↔ img.Granted k := by
  unfold main
  -- The file header is read first; what follows is the loop's.
  by_cases hg : Granted k 0 sizeofSparseHeader
  · rw [readExact_granted (p := ⟨img.encode, 0, [], false⟩) rfl (length_sparseHeader_encode _) hg]
    simp only [ok_bind, img.decode_header, checkHeader_image]
    obtain ⟨hyes, hno⟩ := chunkLoop_fair hk img.header rfl img.chunks
      ⟨img.chunks.flatMap Chunk.encode, 0 + sizeofSparseHeader, [], false⟩ rfl
    constructor
    · rintro ⟨o, ho, -⟩
      refine ⟨hg, ?_⟩
      by_contra hc
      obtain ⟨code, hcode⟩ := hno (by simpa using hc)
      rw [img.header_total_chunks, hcode] at ho
      cases ho
    · intro h
      obtain ⟨q, chunks, hq, hout⟩ := hyes (by simpa using h.2)
      exact ⟨⟨img.header, chunks, q.stdout⟩, by rw [img.header_total_chunks, hq]; rfl,
        by rw [hout, List.nil_append, Image.expand]⟩
  · rw [readExact_refused (p := ⟨img.encode, 0, [], false⟩) rfl (length_sparseHeader_encode _) hg]
    exact ⟨fun ⟨o, ho, _⟩ => (nomatch ho), fun h => absurd h.1 hg⟩

/-- An image with a chunk of each type, and a kernel that grants everything. -/
theorem main_complete_full : ∃ o, main ⟨fun _ => .full, fun _ => .full, fun _ => .full⟩
    (Image.encode ⟨3, 0, [⟨0, .raw (List.replicate 4096 7) 1 (by rw [List.length_replicate]) (by decide)⟩, ⟨0, .fill 1⟩, ⟨0, .dontCare 1⟩,
      ⟨0, .crc32 0 0⟩], by decide⟩) = .ok o ∧
    o.stdout = Image.expand ⟨3, 0, [⟨0, .raw (List.replicate 4096 7) 1 (by rw [List.length_replicate]) (by decide)⟩, ⟨0, .fill 1⟩,
      ⟨0, .dontCare 1⟩, ⟨0, .crc32 0 0⟩], by decide⟩ :=
  (main_complete_iff (k := ⟨fun _ => .full, fun _ => .full, fun _ => .full⟩)
    ⟨fun _ => ⟨nofun, nofun⟩, fun _ => nofun, fun _ => rfl⟩ _).2
    ⟨rfl, rfl, fun _ => rfl, rfl, fun _ => rfl, rfl, fun _ => rfl, rfl, fun _ => rfl, trivial⟩

/-- A first read of one byte, as a pipe may answer it, ends the decoder on an image of no chunks. -/
theorem main_incomplete : ¬ ∀ (k : Kernel), Fair k → ∀ img : Image, ∃ o, main k img.encode = .ok o ∧ o.stdout = img.expand := by
  intro h
  obtain ⟨o, ho, -⟩ := h ⟨fun pos => if pos = 0 then .upTo 1 else .full, fun _ => .full, fun _ => .full⟩
    ⟨fun pos => by dsimp only; split <;> exact ⟨nofun, by simp⟩, fun _ => nofun, fun _ => rfl⟩ ⟨0, 0, [], by decide⟩
  cases ho

end PhhTreble.Sparse

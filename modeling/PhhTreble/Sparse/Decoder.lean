import PhhTreble.Lib.LittleEndian
import PhhTreble.Sparse.Kernel
/-!
# The sparse image decoder

`main` of `simg2img_simple`. The fields are 32-bit words; the product of a
chunk's size and the block size wraps, as it does in the source.
-/

namespace PhhTreble.Sparse

open LittleEndian

/-! ## Headers -/

def u16 (buf : Bytes) (offset : Nat) : Nat := le ((buf.drop offset).take 2)
def u32 (buf : Bytes) (offset : Nat) : Nat := le ((buf.drop offset).take 4)

structure SparseHeader where
  magic : Nat
  major_version : Nat
  minor_version : Nat
  file_hdr_sz : Nat
  chunk_hdr_sz : Nat
  blk_sz : Nat
  total_blks : Nat
  total_chunks : Nat
  image_checksum : Nat
deriving DecidableEq, Repr

/-- `sparse_header_t` on a little-endian machine. -/
def SparseHeader.decode (buf : Bytes) : SparseHeader :=
  ⟨u32 buf 0, u16 buf 4, u16 buf 6, u16 buf 8, u16 buf 10, u32 buf 12, u32 buf 16, u32 buf 20, u32 buf 24⟩

structure ChunkHeader where
  chunk_type : Nat
  reserved1 : Nat
  chunk_sz : Nat
  total_sz : Nat
deriving DecidableEq, Repr

/-- `chunk_header_t` on a little-endian machine. -/
def ChunkHeader.decode (buf : Bytes) : ChunkHeader := ⟨u16 buf 0, u16 buf 2, u32 buf 4, u32 buf 8⟩

def sizeofSparseHeader : Nat := 28
def sizeofChunkHeader : Nat := 12

def SPARSE_HEADER_MAGIC : Nat := 0xed26ff3a
def CHUNK_TYPE_RAW : Nat := 0xCAC1
def CHUNK_TYPE_FILL : Nat := 0xCAC2
def CHUNK_TYPE_DONT_CARE : Nat := 0xCAC3
def CHUNK_TYPE_CRC32 : Nat := 0xCAC4

/-! ## The loop over the chunks -/

variable (k : Kernel)

/-- The loop that writes `n` zero blocks of `blk_sz` bytes. -/
def writeBlocks (blk_sz code : Nat) : Nat → Proc → Except Nat Proc
  | 0, p => .ok p
  | n + 1, p => do writeBlocks blk_sz code n (← writeStdout k p (List.replicate blk_sz 0) code)

/-- The branch of a RAW chunk. -/
def rawChunk (hdr : SparseHeader) (chunk_sz total_sz : Nat) (p : Proc) : Except Nat Proc :=
  if total_sz ≠ sizeofChunkHeader + (chunk_sz * hdr.blk_sz) % 2 ^ 32 then .error 7 else
  nsendfile k ((hdr.blk_sz * chunk_sz) % 2 ^ 32) p

/-- The branch of a FILL chunk; a word other than 0 is not supported. -/
def fillChunk (hdr : SparseHeader) (chunk_sz total_sz : Nat) (p : Proc) : Except Nat Proc :=
  if total_sz ≠ 4 + sizeofChunkHeader then .error 7 else do
  let (fill, p) ← readExact k p 4 5
  if u32 fill 0 ≠ 0 then .error 6 else
  writeBlocks k hdr.blk_sz 8 chunk_sz p

def dontCareChunk (hdr : SparseHeader) (chunk_sz total_sz : Nat) (p : Proc) : Except Nat Proc :=
  if total_sz ≠ sizeofChunkHeader then .error 9 else
  writeBlocks k hdr.blk_sz 10 chunk_sz p

/-- The branch of a CRC32 chunk, whose word is read and ignored. -/
def crc32Chunk (total_sz : Nat) (p : Proc) : Except Nat Proc :=
  if total_sz ≠ 4 + sizeofChunkHeader then .error 7 else do
  let (_, p) ← readExact k p 4 5
  return p

/-- The body of the loop, after the chunk header. -/
def chunkBody (hdr : SparseHeader) (chunk : ChunkHeader) (p : Proc) : Except Nat Proc :=
  if chunk.chunk_type = CHUNK_TYPE_RAW then rawChunk k hdr chunk.chunk_sz chunk.total_sz p
  else if chunk.chunk_type = CHUNK_TYPE_FILL then fillChunk k hdr chunk.chunk_sz chunk.total_sz p
  else if chunk.chunk_type = CHUNK_TYPE_DONT_CARE then dontCareChunk k hdr chunk.chunk_sz chunk.total_sz p
  else if chunk.chunk_type = CHUNK_TYPE_CRC32 then crc32Chunk k chunk.total_sz p
  else .error 4

section
variable {k} {hdr : SparseHeader} {chunk : ChunkHeader} {p : Proc}

theorem chunkBody_raw (h : chunk.chunk_type = CHUNK_TYPE_RAW) :
    chunkBody k hdr chunk p = rawChunk k hdr chunk.chunk_sz chunk.total_sz p := if_pos h

theorem chunkBody_fill (h : chunk.chunk_type = CHUNK_TYPE_FILL) :
    chunkBody k hdr chunk p = fillChunk k hdr chunk.chunk_sz chunk.total_sz p := by
  rw [chunkBody, if_neg (by rw [h]; decide), if_pos h]

theorem chunkBody_dontCare (h : chunk.chunk_type = CHUNK_TYPE_DONT_CARE) :
    chunkBody k hdr chunk p = dontCareChunk k hdr chunk.chunk_sz chunk.total_sz p := by
  rw [chunkBody, if_neg (by rw [h]; decide), if_neg (by rw [h]; decide), if_pos h]

theorem chunkBody_crc32 (h : chunk.chunk_type = CHUNK_TYPE_CRC32) :
    chunkBody k hdr chunk p = crc32Chunk k chunk.total_sz p := by
  rw [chunkBody, if_neg (by rw [h]; decide), if_neg (by rw [h]; decide), if_neg (by rw [h]; decide), if_pos h]

end

/-- The loop, with the chunk headers it reads. -/
def chunkLoop (hdr : SparseHeader) : Nat → Proc → Except Nat (Proc × List ChunkHeader)
  | 0, p => .ok (p, [])
  | n + 1, p => do
    let (buf, p) ← readExact k p sizeofChunkHeader 3
    let chunk := ChunkHeader.decode buf
    let p ← chunkBody k hdr chunk p
    let (p, chunks) ← chunkLoop hdr n p
    return (p, chunk :: chunks)

/-- What a run that exits 0 has read and written. -/
structure Outcome where
  hdr : SparseHeader
  chunks : List ChunkHeader
  stdout : Bytes
deriving DecidableEq, Repr

/-- The checks of the file header, in order. -/
def checkHeader (hdr : SparseHeader) : Except Nat Unit :=
  if hdr.magic ≠ SPARSE_HEADER_MAGIC then .error 2 else
  if hdr.blk_sz ≠ 4096 then .error 6 else
  if hdr.major_version ≠ 1 then .error 11 else
  if hdr.minor_version ≠ 0 then .error 12 else
  if hdr.file_hdr_sz ≠ 28 then .error 13 else
  if hdr.chunk_hdr_sz ≠ 12 then .error 14 else
  .ok ()

def main (stdin : Bytes) : Except Nat Outcome := do
  let (buf, p) ← readExact k ⟨stdin, 0, [], false⟩ sizeofSparseHeader 1
  let hdr := SparseHeader.decode buf
  checkHeader hdr
  let (p, chunks) ← chunkLoop k hdr hdr.total_chunks p
  return ⟨hdr, chunks, p.stdout⟩

end PhhTreble.Sparse

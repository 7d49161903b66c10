import Mathlib.Data.List.Basic
import Mathlib.Data.List.Induction
import PackageAssay.Files.Disk

/-!
# Digests

A digest has forty digits. A file that is read through a buffer is handed on piece by piece as the
reads bring it, so that into what pieces they cut the content does not matter.
-/

set_option autoImplicit false

namespace PackageAssay

theorem Text.length_hexOfBytes (bytes : List UInt8) :
    (hexOfBytes bytes).length = 2 * bytes.length := by
  rw [hexOfBytes, String.length_ofList]
  induction bytes with
  | nil => rfl
  | cons byte rest ih =>
      have two : (hexOfByte byte).length = 2 := rfl
      rw [List.flatMap_cons, List.length_append, ih, List.length_cons]
      omega

namespace Sha1

theorem length_hex (message : ByteArray) : (hex message).length = 40 := by
  rw [hex, Text.length_hexOfBytes, Hasher.finish, Chain.bytes]
  simp [bytesOfWord]

theorem readInto_of_fits {buffer piece : ByteArray} (fits : piece.size ≤ buffer.size) :
    ∃ filled, readInto buffer piece = (piece.size, filled) ∧ filled.size = buffer.size ∧
      filled.extract 0 piece.size = piece := by
  have behind : piece.copySlice 0 buffer 0 piece.size =
      piece ++ buffer.extract piece.size buffer.size := by
    rw [ByteArray.copySlice_eq_append]
    simp
  refine ⟨piece ++ buffer.extract piece.size buffer.size, ?_, ?_, ?_⟩
  · rw [readInto, Nat.min_eq_left fits, behind]
  · rw [ByteArray.size_append, ByteArray.size_extract]
    omega
  · exact ByteArray.extract_append_eq_left rfl

section

variable {σ : Type} (update : σ → ByteArray → σ) {buffer : ByteArray} (state : σ)

theorem foldReads_of_ended {ended : ByteArray} (empty : ended.size = 0) (later : List ByteArray) :
    foldReads update buffer state (ended :: later) = some state := by
  rw [foldReads, readInto, empty, Nat.zero_min]
  rfl

theorem foldReads_cons {piece : ByteArray} (nonempty : piece.size ≠ 0)
    (fits : piece.size ≤ buffer.size) (later : List ByteArray) :
    ∃ filled, filled.size = buffer.size ∧ foldReads update buffer state (piece :: later) =
      foldReads update filled (update state piece) later := by
  obtain ⟨filled, read, size, front⟩ := readInto_of_fits fits
  refine ⟨filled, size, ?_⟩
  rw [foldReads, read]
  dsimp only
  rw [if_neg nonempty, front]

theorem foldReads_append {chunks : List ByteArray}
    (nonempty : ∀ chunk ∈ chunks, chunk.size ≠ 0)
    (fits : ∀ chunk ∈ chunks, chunk.size ≤ buffer.size) (later : List ByteArray) :
    ∃ filled, foldReads update buffer state (chunks ++ later) =
      foldReads update filled (chunks.foldl update state) later := by
  -- What lies in the buffer changes with each read, but its size does not.
  induction chunks generalizing buffer state with
  | nil => exact ⟨buffer, rfl⟩
  | cons chunk rest ih =>
      rw [List.forall_mem_cons] at nonempty fits
      obtain ⟨first, size, next⟩ := foldReads_cons update state nonempty.1 fits.1 (rest ++ later)
      obtain ⟨filled, done⟩ := ih (update state chunk) nonempty.2 (by rw [size]; exact fits.2)
      exact ⟨filled, next.trans done⟩

theorem size_freshBuffer : freshBuffer.size = blockSize := Array.size_replicate

theorem foldReads_unended {chunks : List ByteArray}
    (nonempty : ∀ chunk ∈ chunks, chunk.size ≠ 0)
    (fits : ∀ chunk ∈ chunks, chunk.size ≤ blockSize) :
    foldReads update freshBuffer state chunks = none := by
  rw [← size_freshBuffer] at fits
  obtain ⟨filled, done⟩ := foldReads_append update state nonempty fits []
  rw [← List.append_nil chunks, done, foldReads]

theorem foldReads_chunks {chunks : List ByteArray} {ended : ByteArray}
    (nonempty : ∀ chunk ∈ chunks, chunk.size ≠ 0)
    (fits : ∀ chunk ∈ chunks, chunk.size ≤ blockSize) (empty : ended.size = 0)
    (later : List ByteArray) :
    foldReads update freshBuffer state (chunks ++ ended :: later) =
      some (chunks.foldl update state) := by
  rw [← size_freshBuffer] at fits
  obtain ⟨filled, done⟩ := foldReads_append update state nonempty fits (ended :: later)
  rw [done, foldReads_of_ended update _ empty]

end

def joined (chunks : List ByteArray) : ByteArray := chunks.foldl (· ++ ·) .empty

theorem joined_append_singleton (chunks : List ByteArray) (chunk : ByteArray) :
    joined (chunks ++ [chunk]) = joined chunks ++ chunk := by
  rw [joined, List.foldl_append]
  rfl

theorem foldl_update (hasher : Hasher) (chunks : List ByteArray) :
    chunks.foldl Hasher.update hasher = hasher.update (joined chunks) := by
  induction chunks using List.reverseRecOn with
  | nil => rfl
  | append_singleton chunks chunk ih =>
      rw [List.foldl_append, List.foldl_cons, List.foldl_nil, ih, joined_append_singleton,
        Hasher.update_append]

theorem hexOfReads_chunks {chunks : List ByteArray} {ended : ByteArray}
    (nonempty : ∀ chunk ∈ chunks, chunk.size ≠ 0)
    (fits : ∀ chunk ∈ chunks, chunk.size ≤ blockSize) (empty : ended.size = 0)
    (later : List ByteArray) :
    hexOfReads (chunks ++ ended :: later) = some (hex (joined chunks)) := by
  rw [hexOfReads, foldReads_chunks Hasher.update .initial nonempty fits empty, foldl_update]
  rfl

def blockAt (content : ByteArray) (i : Nat) : ByteArray :=
  content.extract (i * blockSize) ((i + 1) * blockSize)

theorem size_blockAt (content : ByteArray) (i : Nat) :
    (blockAt content i).size = min (i * blockSize + blockSize) content.size - i * blockSize := by
  rw [blockAt, ByteArray.size_extract, Nat.succ_mul]

theorem joined_blockAt (content : ByteArray) (count : Nat) :
    joined ((List.range count).map (blockAt content)) =
      content.extract 0 (count * blockSize) := by
  induction count with
  | zero =>
      rw [Nat.zero_mul, ByteArray.extract_same]
      rfl
  | succ count ih =>
      rw [List.range_succ, List.map_append, List.map_singleton, joined_append_singleton, ih,
        blockAt]
      refine (ByteArray.extract_eq_extract_append_extract _ (Nat.zero_le _) ?_).symm
      exact Nat.mul_le_mul_right _ (Nat.le_succ count)

theorem exists_block_count (content : ByteArray) :
    ∃ count, content.size ≤ count * blockSize ∧ (∀ i < count, i * blockSize < content.size) ∧
      count ≤ content.size / blockSize + 1 := by
  have size : blockSize = 1048576 := rfl
  refine ⟨(content.size + 1048575) / 1048576, ?_, ?_, ?_⟩
  · rw [size]
    omega
  · intro i within
    rw [size]
    omega
  · rw [size]
    omega

theorem blocks_eq (content : ByteArray) {count : Nat}
    (bound : count ≤ content.size / blockSize + 1) :
    ∃ rest, blocks content =
      (List.range count).map (blockAt content) ++ blockAt content count :: rest := by
  obtain ⟨more, total⟩ := Nat.exists_eq_add_of_le bound
  have each : blocks content = (List.range (count + (more + 1))).map (blockAt content) := by
    rw [← Nat.add_assoc, ← total]
    rfl
  refine ⟨(List.range more).map fun i => blockAt content (count + (i + 1)), ?_⟩
  rw [each, List.range_add, List.range_succ_eq_map]
  simp only [List.map_append, List.map_cons, List.map_map, Nat.add_zero]
  rfl

theorem hexOfReads_blocks (content : ByteArray) :
    hexOfReads (blocks content) = some (hex content) := by
  obtain ⟨count, reaches, within, bound⟩ := exists_block_count content
  obtain ⟨rest, shape⟩ := blocks_eq content bound
  have whole : joined ((List.range count).map (blockAt content)) = content := by
    rw [joined_blockAt]
    apply ByteArray.ext
    rw [ByteArray.data_extract, Array.extract_eq_self_of_le reaches]
  -- All blocks before the empty one hold something and fit into the buffer.
  rw [shape, hexOfReads_chunks ?nonempty ?fits ?empty, whole]
  case nonempty =>
    intro chunk member
    obtain ⟨i, earlier, rfl⟩ := List.mem_map.1 member
    have within := within i (List.mem_range.1 earlier)
    have filled : 0 < blockSize := by decide
    rw [size_blockAt]
    omega
  case fits =>
    intro chunk member
    obtain ⟨i, -, rfl⟩ := List.mem_map.1 member
    rw [size_blockAt]
    omega
  case empty =>
    rw [size_blockAt]
    omega

end Sha1

theorem Disk.fingerprint_of_read {disk : Disk} {path : Path} {held : Content}
    (read : disk.read path = .ok held) : disk.fingerprint path = Sha1.hex held.toBytes := by
  simp only [fingerprint, read, Sha1.hexOfReads_blocks, Option.getD_some]

namespace Sha1

theorem reads_of_any_size_give_one_digest (content : ByteArray) (chunks : List ByteArray)
    (cut : joined chunks = content) (nonempty : ∀ chunk ∈ chunks, chunk.size ≠ 0)
    (fits : ∀ chunk ∈ chunks, chunk.size ≤ blockSize) (later : List ByteArray) :
    (∀ (σ : Type) (update : σ → ByteArray → σ) (state : σ),
      foldReads update freshBuffer state chunks = none ∧
      foldReads update freshBuffer state (chunks ++ .empty :: later) =
        some (chunks.foldl update state)) ∧
    hexOfReads (chunks ++ .empty :: later) = some (hex content) ∧
    ∀ (disk : Disk) (path : Path) (held : Content), disk.read path = .ok held →
      held.toBytes = content →
      hexOfReads (chunks ++ .empty :: later) = some (disk.fingerprint path) ∧
        disk.fingerprint path = hex content := by
  have digest : hexOfReads (chunks ++ .empty :: later) = some (hex content) := by
    rw [hexOfReads_chunks nonempty fits ByteArray.size_empty, cut]
  refine ⟨?_, digest, ?_⟩
  · intro σ update state
    exact ⟨foldReads_unended update state nonempty fits,
      foldReads_chunks update state nonempty fits ByteArray.size_empty later⟩
  · rintro disk path held read rfl
    rw [Disk.fingerprint_of_read read]
    exact ⟨digest, rfl⟩

/-- The second read is shorter than the first, so that a byte of the first stays in the buffer. -/
def shortReads : List ByteArray := ["ab".toUTF8, "c".toUTF8]

def abcDisk : Disk where
  tree := {
    nodes := [(["abc"], ⟨.file (.ofText "abc"), .madeAt 1⟩), ([], ⟨.directory, .madeAt 1⟩)]
    rooted := by decide
    distinct := by decide
    nested := by decide }
  now := 2

theorem reads_of_any_size_give_one_digest_shortReads :
    let digest := "a9993e364706816aba3e25717850c26c9cd0d89d"
    joined shortReads = "abc".toUTF8 ∧ (∀ chunk ∈ shortReads, chunk.size ≠ 0) ∧
      (∀ chunk ∈ shortReads, chunk.size ≤ blockSize) ∧
      hexOfReads (shortReads ++ [.empty]) = some digest ∧
      abcDisk.read ⟨"abc"⟩ = .ok (.ofText "abc") ∧ abcDisk.fingerprint ⟨"abc"⟩ = digest := by
  intro digest
  have cut : joined shortReads = "abc".toUTF8 := by decide
  have nonempty : ∀ chunk ∈ shortReads, chunk.size ≠ 0 := by decide
  have fits : ∀ chunk ∈ shortReads, chunk.size ≤ blockSize := by decide
  have held : abcDisk.read ⟨"abc"⟩ = .ok (.ofText "abc") := by decide
  have same : hex "abc".toUTF8 = digest := by decide +kernel
  obtain ⟨-, read, stored⟩ :=
    reads_of_any_size_give_one_digest "abc".toUTF8 shortReads cut nonempty fits []
  refine ⟨cut, nonempty, fits, ?_, held, ?_⟩
  · rw [read, same]
  · rw [(stored abcDisk ⟨"abc"⟩ _ held rfl).2, same]

end Sha1

end PackageAssay

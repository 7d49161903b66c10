import PackageAssay.Archive.Header
import PackageAssay.Archive.Uncompressed

/-!
# Sparse files in archives

Of a sparse file an archive holds the stretches that are not zero. A map behind the fields of the
header tells where they stand in the file; what does not fit there follows in blocks of its own.
-/

set_option autoImplicit false

namespace PackageAssay

inductive Segment where
  | held (content : ByteArray)
  | zeros (count : Nat)

def Segment.toBytes : Segment → ByteArray
  | .held content => content
  | .zeros count => Tar.zeros count

namespace Tar

structure Stretch where
  gap : Nat
  length : Nat

structure SparseMap where
  stretches : List Stretch
  reached : Nat
  left : Nat

def damaged {α : Type} (damage : Damage) : Except Fault α := .error (.brokenArchive damage)

def numberLimit : Nat := UInt64.size

namespace SparseMap

def add (size : Nat) (block : ByteArray) (map : SparseMap) (start : Nat) :
    Except Fault SparseMap := do
  if byteAt block start = 0 ∨ byteAt block (start + 12) = 0 then return map
  let offset ← numberAt block start 12 .stretchOffset
  let length ← numberAt block (start + 12) 12 .stretchLength
  if length ≠ 0 ∧ (size - map.left) % blockSize ≠ 0 then damaged .stretchUnaligned
  if offset < map.reached then damaged .stretchOverlaps
  if numberLimit ≤ offset + length then damaged .stretchOverflow
  if map.left < length then damaged .stretchesTooLong
  return ⟨map.stretches ++ [⟨offset - map.reached, length⟩], offset + length, map.left - length⟩

def addAll (size : Nat) (block : ByteArray) (start count : Nat) (map : SparseMap) :
    Except Fault SparseMap :=
  ((List.range count).map fun i => start + 24 * i).foldlM (add size block) map

def extend (source : Uncompressed) (size : Nat) : Nat → Nat → SparseMap →
    Except Fault (SparseMap × Nat)
  | 0, _, _ => damaged .sparseCutOff
  | fuel + 1, position, map => do
      let block ← source.slice position blockSize
      if block.isEmpty then damaged .sparseCutOff
      if block.size < blockSize then damaged .partialBlock
      let map ← map.addAll size block 0 21
      let position := position + blockSize
      if byteAt block 504 = 1 then extend source size fuel position map else return (map, position)

def read (source : Uncompressed) (header : Header) (size position : Nat) :
    Except Fault (SparseMap × Nat) := do
  if !header.isGnu then damaged .sparseUnknown
  let first ← addAll size header.block 386 4 ⟨[], 0, size⟩
  let (map, start) ←
    if byteAt header.block 482 = 1 then
      first.extend source size (source.data.size / blockSize + 1) position
    else pure (first, position)
  if map.reached ≠ (← numberAt header.block 483 12 (.wholeSize header.owner)) then
    damaged .wrongWholeSize
  if map.left ≠ 0 then damaged .stretchesTooShort
  return (map, start)

def contents (source : Uncompressed) : List Stretch → Nat → Except Fault (List Segment)
  | [], _ => .ok []
  | stretch :: rest, position => do
      let held ← source.slice position stretch.length
      return .zeros stretch.gap :: .held held ::
        (← contents source rest (position + held.size))

end SparseMap

end Tar

end PackageAssay

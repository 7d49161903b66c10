import PackageAssay.Archive.Gzip
import PackageAssay.Archive.Inflate

/-!
# Uncompressed data

The data of a gzip stream, as far as it can be read. A fault of the stream shows to whoever reads
on behind the data.
-/

set_option autoImplicit false

namespace PackageAssay

structure Uncompressed where
  data : ByteArray
  failure : Option Fault

def Uncompressed.slice (source : Uncompressed) (start size : Nat) : Except Fault ByteArray :=
  let bytes := source.data.extract start (min (start + size) source.data.size)
  match source.failure with
  | some fault => if bytes.size < size then .error fault else .ok bytes
  | none => .ok bytes

namespace Gzip

def skipBytes (bytes : ByteArray) (start count : Nat) : Except Fault Nat :=
  if start + count ≤ bytes.size then .ok (start + count) else .error .endsEarly

def maxText : Nat := 65535

def skipText (bytes : ByteArray) (start : Nat) : Except Fault Nat :=
  let length := ((bytes.data.toList.drop start).takeWhile (· ≠ 0)).length
  if maxText < length then .error .longHeaderText else skipBytes bytes start (length + 1)

def skipHeader (bytes : ByteArray) : Except Fault Nat := do
  let start ← skipBytes bytes 0 10
  let flags := byteAt bytes 3
  let has (bit : Nat) : Bool := flags / bit % 2 == 1
  if bytes.extract 0 2 ≠ magic ∨ byteAt bytes 2 ≠ 8 ∨ 0x20 ≤ flags then throw .notGzip
  let start ← if has 4 then do
      let behind ← skipBytes bytes start 2
      skipBytes bytes behind (littleEndianAt bytes start 2)
    else pure start
  let start ← if has 8 then skipText bytes start else pure start
  let start ← if has 16 then skipText bytes start else pure start
  if has 2 then
    let behind ← skipBytes bytes start 2
    if littleEndianAt bytes start 2 ≠ (crc32 (bytes.extract 0 start)).toNat % UInt16.size then
      throw .wrongCheck
    return behind
  else return start

def trailerFault? (bytes : ByteArray) (start : Nat) (data : ByteArray) : Option Fault :=
  if bytes.size < start + 8 then some .endsEarly
  else if littleEndianAt bytes start 4 ≠ (crc32 data).toNat ∨
      littleEndianAt bytes (start + 4) 4 ≠ data.size % UInt32.size then some .wrongCheck
  else none

def chunkSize : Nat := 32768

def outputOfChunks (bytes : ByteArray) (start count : Nat) : Nat :=
  let inflated := Inflate.inflate (bytes.extract 0 (count * chunkSize)) start
  if inflated.failure = some .incompleteStream then inflated.output.size else 0

/-- How many of the bytes before a corrupt place are handed on. That is done whenever a chunk of the
stream is used up or a window of the output is full; what comes after that is lost. -/
def sizeBeforeFault (bytes : ByteArray) (start size : Nat) : Nat :=
  ((List.range (bytes.size / chunkSize + 1)).map (outputOfChunks bytes start)).foldl max
    ((size - 1) / Inflate.windowSize * Inflate.windowSize)

def decode (bytes : ByteArray) : Uncompressed :=
  match skipHeader bytes with
  | .error fault => ⟨.empty, some fault⟩
  | .ok start =>
      let inflated := Inflate.inflate bytes start
      let output := inflated.output
      match inflated.failure with
      | some .corruptStream =>
          ⟨output.extract 0 (sizeBeforeFault bytes start output.size), some .corruptStream⟩
      | some fault => ⟨output, some fault⟩
      | none => ⟨output, trailerFault? bytes ((inflated.source.taken + 7) / 8) output⟩

end Gzip

end PackageAssay

import PackageAssay.Archive.Bytes

/-!
# The gzip format

The compressed bytes hold the data in blocks that are stored as they are.
-/

set_option autoImplicit false

namespace PackageAssay.Gzip

def magic : ByteArray := ⟨#[0x1f, 0x8b]⟩

def header : ByteArray := magic ++ ⟨#[8, 0, 0, 0, 0, 0, 0, 255]⟩

def shiftCheck (check : UInt32) : UInt32 :=
  if check &&& 1 = 1 then (check >>> 1) ^^^ 0xedb88320 else check >>> 1

def absorb (check : UInt32) (byte : UInt8) : UInt32 :=
  (List.range 8).foldl (fun check _ => shiftCheck check) (check ^^^ byte.toUInt32)

def crc32 (bytes : ByteArray) : UInt32 :=
  bytes.data.foldl absorb 0xffffffff ^^^ 0xffffffff

def maxStored : Nat := 65535

def storedBlock (last : Bool) (piece : ByteArray) : ByteArray :=
  ⟨#[if last then 1 else 0]⟩ ++ littleEndian 2 piece.size ++
    littleEndian 2 (maxStored - piece.size) ++ piece

/-- The data as stored blocks, the last of which is shorter than the others. -/
def stored (bytes : ByteArray) : ByteArray :=
  let full := bytes.size / maxStored
  (List.range full).foldl (fun written i =>
    written ++ storedBlock false (bytes.extract (i * maxStored) ((i + 1) * maxStored))) .empty ++
    storedBlock true (bytes.extract (full * maxStored) bytes.size)

def encode (bytes : ByteArray) : ByteArray :=
  header ++ stored bytes ++
    littleEndian 4 (crc32 bytes).toNat ++ littleEndian 4 bytes.size

end PackageAssay.Gzip

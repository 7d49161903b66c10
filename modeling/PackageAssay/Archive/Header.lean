import PackageAssay.Archive.Bytes
import PackageAssay.Archive.Tar
import PackageAssay.Files.Fault
import PackageAssay.Text.Blank
import PackageAssay.Text.Lossy
import PackageAssay.Text.Numeral

/-!
# Headers of archive entries

A header is a block with fields at fixed places. The text in a field ends at its first zero, and a
number is a text in octal digits with blanks around it.
-/

set_option autoImplicit false

namespace PackageAssay.Tar

def lossyText (bytes : ByteArray) : String :=
  String.ofList (Text.decodeLossy bytes.data.toList)

def textAt (block : ByteArray) (start width : Nat) : ByteArray :=
  ⟨((block.extract start (start + width)).data.toList.takeWhile (· ≠ 0)).toArray⟩

def octalAt (block : ByteArray) (start width : Nat) (field : NumberField) : Except Fault Nat :=
  let bytes := textAt block start width
  match String.fromUTF8? bytes with
  | none => .error (.brokenArchive (.notText (lossyText bytes) field))
  | some text =>
      match Numeral.unsigned64? 8 (Text.trim text).toList with
      | none => .error (.brokenArchive (.notNumber text field))
      | some value => .ok value

/-- A number that may be too large for octal digits. It then has the highest bit set and stands in
the last eight bytes of its field. -/
def numberAt (block : ByteArray) (start width : Nat) (field : NumberField) : Except Fault Nat :=
  if byteAt block start < 0x80 then octalAt block start width field
  else .ok (bigEndianAt block (start + width - 8) 8)

structure Header where
  block : ByteArray

inductive EntryKind where
  | longName
  | longTarget
  | attributes
  | commonAttributes
  | sparse
  | other
deriving DecidableEq

def EntryKind.isAuxiliary : EntryKind → Bool
  | .longName | .longTarget | .attributes | .commonAttributes => true
  | .sparse | .other => false

namespace Header

def kind (header : Header) : EntryKind :=
  match Char.ofNat (byteAt header.block 156) with
  | 'L' => .longName
  | 'K' => .longTarget
  | 'x' => .attributes
  | 'g' => .commonAttributes
  | 'S' => .sparse
  | _ => .other

def mark (header : Header) : ByteArray := header.block.extract 257 265

def isGnu (header : Header) : Bool := header.mark == gnuMark

def isUstar (header : Header) : Bool := header.mark == "ustar\x0000".toUTF8

/-- The path in the header. One format has room for the directories of a long path. -/
def path (header : Header) : ByteArray :=
  let name := textAt header.block 0 nameSize
  let directories := if header.isUstar then textAt header.block 345 155 else .empty
  if directories.isEmpty then name else directories ++ "/".toUTF8 ++ name

def owner (header : Header) : String :=
  lossyText (textAt header.block 297 32) ++ ":" ++ lossyText (textAt header.block 265 32)

def byteSum (header : Header) : Nat :=
  Tar.byteSum (header.block.extract 0 148) + 8 * ' '.toNat +
    Tar.byteSum (header.block.extract 156 blockSize)

def checksum (header : Header) : Except Fault Nat := do
  let sum ← octalAt header.block 148 8 (.checksum (lossyText header.path))
  return sum % UInt32.size

def size (header : Header) : Except Fault Nat :=
  numberAt header.block 124 12 (.size (lossyText header.path))

end Header

end PackageAssay.Tar

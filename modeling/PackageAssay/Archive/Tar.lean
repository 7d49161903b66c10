import PackageAssay.Archive.Entry

/-!
# The tape archive format

An archive is a row of blocks of 512 bytes: for each entry a header block and then its content,
filled up with zeros, and two blocks of zeros at the end. A path that does not fit into a header
is announced by an entry of its own.
-/

set_option autoImplicit false

namespace PackageAssay.Tar

def blockSize : Nat := 512

def nameSize : Nat := 100

def zeros (count : Nat) : ByteArray := ⟨Array.replicate count 0⟩

def field (width : Nat) (bytes : ByteArray) : ByteArray :=
  let kept := bytes.extract 0 width
  kept ++ zeros (width - kept.size)

/-- A number in octal digits that leave one byte of the field for the zero that ends it. -/
def octal (width value : Nat) : ByteArray :=
  let digits := Nat.toDigits 8 value
  let text := List.replicate (width - 1 - digits.length) '0' ++ digits
  field width (String.ofList text).toUTF8

def blocks (content : ByteArray) : ByteArray :=
  content ++ zeros ((blockSize - content.size % blockSize) % blockSize)

def byteSum (bytes : ByteArray) : Nat :=
  bytes.data.foldl (fun sum byte => sum + byte.toNat) 0

/-- What tells that names which do not fit into a header are announced. -/
def gnuMark : ByteArray := field 8 "ustar  ".toUTF8

def header (name link : ByteArray) (mode size : Nat) (kind : Char) : ByteArray :=
  let front := field nameSize name ++ octal 8 mode ++ octal 8 0 ++ octal 8 0 ++ octal 12 size ++
    octal 12 0
  let back := kind.toString.toUTF8 ++ field nameSize link ++ gnuMark
  let rest := blockSize - front.size - 8 - back.size
  let sum := byteSum front + 8 * ' '.toNat + byteSum back
  front ++ octal 7 sum ++ " ".toUTF8 ++ back ++ zeros rest

def announcement (path : ByteArray) : ByteArray :=
  header "././@LongLink".toUTF8 .empty 0o644 (path.size + 1) 'L' ++ blocks (path.push 0)

def entry (entry : ArchiveEntry) : ByteArray :=
  let path := entry.path.toUTF8
  let lead := if nameSize < path.size then announcement path else .empty
  lead ++ match entry.body with
    | .directory => header path .empty entry.mode 0 '5'
    | .file content => header path .empty entry.mode content.size '0' ++ blocks content
    | .grown content => header path .empty entry.mode 0 '0' ++ blocks content
    | .link target => header path target.toUTF8 entry.mode 0 '2'

def encode (archive : Archive) : ByteArray :=
  archive.entries.foldl (fun bytes next => bytes ++ entry next) .empty ++ zeros (2 * blockSize)

end PackageAssay.Tar

import PackageAssay.Archive.Attribute
import PackageAssay.Archive.Sparse
import PackageAssay.Files.Content

/-!
# Unpacking archives

An archive is read entry by entry, up to its end or to the first fault. Some entries are no files
but announce a name or attributes of the entry after them.
-/

set_option autoImplicit false

namespace PackageAssay

structure UnpackedEntry where
  path : String
  content : Except Fault (List Segment)

structure Unpacked where
  entries : List UnpackedEntry
  failure : Option Fault

namespace UnpackedEntry

def bytes (entry : UnpackedEntry) : Except Fault ByteArray :=
  entry.content.map fun segments =>
    segments.foldl (fun bytes segment => bytes ++ segment.toBytes) .empty

def ofEntry (entry : ArchiveEntry) : UnpackedEntry :=
  ⟨entry.path, .ok (match entry.body with
    | .file content => [.held content]
    | _ => [])⟩

end UnpackedEntry

namespace Tar

structure Announcement where
  name : Option ByteArray := none
  target : Option ByteArray := none
  attributes : Option (List (Option Attribute)) := none

namespace Announcement

def isNone (announced : Announcement) : Bool :=
  announced.name.isNone && announced.target.isNone && announced.attributes.isNone

def withoutEnd (name : ByteArray) : ByteArray :=
  if name.data.back? = some 0 then name.extract 0 (name.size - 1) else name

/-- The path of the announced entry. A long name goes before an attribute, and both before what is
in the header. -/
def path (announced : Announcement) (header : Header) : String :=
  lossyText <|
    match announced.name, announced.attributes.bind Attribute.path? with
    | some name, _ => withoutEnd name
    | none, some path => ⟨path.toArray⟩
    | none, none => header.path

end Announcement

def headerAt (source : Uncompressed) (position : Nat) : Except Fault (Option Header) := do
  if source.data.size < position then
    throw (source.failure.getD (.brokenArchive .partialContent))
  let block ← source.slice position blockSize
  if block.isEmpty then return none
  if block.size < blockSize then damaged .partialBlock
  return if byteSum block = 0 then none else some ⟨block⟩

def contentSize (announced : Announcement) (header : Header) : Except Fault Nat := do
  if (← header.checksum) ≠ header.byteSum then damaged .wrongChecksum
  let size ← header.size
  if header.kind.isAuxiliary then return size
  return (announced.attributes.bind Attribute.size?).getD size

def skipContent (start size : Nat) : Except Fault Nat :=
  let next := start + (size + blockSize - 1) / blockSize * blockSize
  if numberLimit ≤ size + blockSize - 1 ∨ numberLimit ≤ next then damaged .sizeOverflow
  else .ok next

inductive Member where
  | announcement (announced : Announcement)
  | entry (entry : UnpackedEntry)

def readMember (source : Uncompressed) (announced : Announcement) (header : Header)
    (start : Nat) : Except Fault (Member × Nat) := do
  let size ← contentSize announced header
  let next ← skipContent start size
  let content := source.slice start size
  let kind := if header.isGnu || header.isUstar || header.kind = .sparse then header.kind else .other
  match kind with
  | .longName =>
      if announced.name.isSome then damaged .twoLongNames
      return (.announcement { announced with name := some (← content) }, next)
  | .longTarget =>
      if announced.target.isSome then damaged .twoLongNames
      return (.announcement { announced with target := some (← content) }, next)
  | .attributes =>
      if announced.attributes.isSome then damaged .twoAttributeLists
      let attributes := Attribute.ofBytes (← content)
      return (.announcement { announced with attributes := some attributes }, next)
  | .sparse =>
      let (map, first) ← SparseMap.read source header size start
      -- The blocks of the map are not counted as content.
      return (.entry ⟨announced.path header, SparseMap.contents source map.stretches first⟩,
        next + (first - start))
  | .commonAttributes | .other =>
      return (.entry ⟨announced.path header, content.map fun bytes => [.held bytes]⟩, next)

/-- The entries from a position on. Each takes at least a block, which bounds their number. -/
def readEntries (source : Uncompressed) : Nat → Nat → Announcement → Unpacked
  | 0, _, _ => ⟨[], none⟩
  | fuel + 1, position, announced =>
      match headerAt source position with
      | .error fault => ⟨[], some fault⟩
      | .ok none =>
          ⟨[], if announced.isNone then none else some (.brokenArchive .nothingAnnounced)⟩
      | .ok (some header) =>
          match readMember source announced header (position + blockSize) with
          | .error fault => ⟨[], some fault⟩
          | .ok (.announcement announced, next) => readEntries source fuel next announced
          | .ok (.entry entry, next) =>
              let rest := readEntries source fuel next {}
              ⟨entry :: rest.entries, rest.failure⟩

def decode (source : Uncompressed) : Unpacked :=
  readEntries source (source.data.size / blockSize + 2) 0 {}

end Tar

def EntryBody.hasGrown : EntryBody → Bool
  | .grown _ => true
  | _ => false

/-- What an archive file holds. Behind a file that has grown there is no header where one is
expected; any other archive that was packed here reads back as it is. -/
def unpack : Content → Unpacked
  | .archive archive =>
      if archive.entries.any fun entry => entry.body.hasGrown then
        Tar.decode ⟨Tar.encode archive, none⟩
      else ⟨archive.entries.map UnpackedEntry.ofEntry, none⟩
  | .bytes bytes => Tar.decode (Gzip.decode bytes)

end PackageAssay

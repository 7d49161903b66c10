import PackageAssay.Archive.Entry
import PackageAssay.Files.Fault
import PackageAssay.Files.Path

/-!
# Packing archives

An archive takes relative paths without `..`, and writes them without the dots and slashes that
change nothing. Packing stops at the first entry that is not taken; those before it are kept.
-/

set_option autoImplicit false

namespace PackageAssay

namespace Archive

def maxHeaderName : Nat := 100

def headerText (text : String) : Except Refusal String :=
  if maxHeaderName < text.utf8ByteSize then .error .tooLong
  else if '\x00' ∈ text.toList then .error .holdsNul
  else .ok text

def entryNames (path : Path) : List String :=
  if path.names = [] ∧ path.startsInDot then ["."] else path.names

/-- A path as a header holds it. In a path that is cut off, the last name may look like `..`. -/
def headerPath (path : Path) (cutOff : Bool) : Except Refusal String :=
  let names := entryNames path
  let whole := if cutOff then names.dropLast else names
  if path.isAbsolute then .error .absolute
  else if ".." ∈ whole then .error .leadsUp
  else if names = [] then .error .noName
  else headerText ("/".intercalate names ++ if path.endsInSlash then "/" else "")

def takeBytes : Nat → List Char → List Char
  | _, [] => []
  | room, head :: tail =>
      if head.utf8Size ≤ room then head :: takeBytes (room - head.utf8Size) tail else []

/-- The path under which an entry is kept. A path for which the header has no room is announced
as it is, and its beginning goes into the header. -/
def acceptPath (text : String) : Except Refusal String :=
  match headerPath ⟨text⟩ false with
  | .ok path => .ok path
  | .error refusal =>
      -- A short path was refused for another reason than its length.
      if text.utf8ByteSize < maxHeaderName then .error refusal
      else do
        let _ ← headerPath ⟨String.ofList (takeBytes maxHeaderName text.toList)⟩ true
        return text

def headerTarget (text : String) : Except Refusal String :=
  let path := Path.mk text
  let names := (if path.startsInDot then ["."] else []) ++ path.names
  if names = [] ∧ path.isAbsolute = false then .error .noName
  else
    headerText ((if path.isAbsolute then "/" else "") ++ "/".intercalate names ++
      if path.endsInSlash then "/" else "")

def acceptBody : EntryBody → Except Refusal EntryBody
  | .link target => (headerTarget target).map .link
  | body => .ok body

def accept (entry : ArchiveEntry) : Except Refusal ArchiveEntry := do
  let body ← acceptBody entry.body
  let path ← acceptPath entry.path
  return ⟨path, body, entry.mode⟩

end Archive

structure Packed where
  archive : Archive
  failure : Option Fault

namespace Archive

def pack (ending : Option Fault) : List ArchiveEntry → Packed
  | [] => ⟨⟨[]⟩, ending⟩
  | entry :: rest =>
      match accept entry with
      | .error refusal => ⟨⟨[]⟩, some (.refusedEntry refusal)⟩
      | .ok accepted =>
          let packed := pack ending rest
          ⟨⟨accepted :: packed.archive.entries⟩, packed.failure⟩

end Archive

end PackageAssay

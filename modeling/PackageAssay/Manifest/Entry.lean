import PackageAssay.Text.Split

/-!
# Manifest entries

An entry names one path of a manifest and says what stands there: `path -> target` is a symbolic
link, `path*` a file that the test case marks as altered, `path/` a directory, and any other text
a plain file. The link separator wins over the altered mark, and that over the final slash.
-/

set_option autoImplicit false

namespace PackageAssay

inductive EntryKind where
  | file
  | altered
  | directory
  | symlink (target : String)
deriving DecidableEq, Repr

structure ManifestEntry where
  path : String
  kind : EntryKind
deriving DecidableEq, Repr

namespace ManifestEntry

def linkSeparator : String := " -> "

def parse (entry : String) : ManifestEntry :=
  match Text.splitFirst linkSeparator entry with
  | some (path, target) => ⟨path, .symlink target⟩
  | none =>
      match Text.withoutSuffix "*" entry with
      | some path => ⟨path, .altered⟩
      | none => ⟨entry, if Text.endsWithChar '/' entry then .directory else .file⟩

def isRegular (entry : ManifestEntry) : Bool :=
  entry.kind == .file || entry.kind == .altered

end ManifestEntry

def filenameOf (entry : String) : String :=
  (ManifestEntry.parse entry).path

end PackageAssay

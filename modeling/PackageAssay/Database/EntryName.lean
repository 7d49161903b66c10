import PackageAssay.Text.Split

/-!
# Names of entry directories

The directory of an entry is named `<name>-<version>-<release>`, and is taken apart at its last
two hyphens.
-/

set_option autoImplicit false

namespace PackageAssay

structure EntryName where
  name : String
  version : String
  release : String
deriving DecidableEq, Repr

namespace EntryName

def parse? (directory : String) : Option EntryName :=
  match Text.splitLast "-" directory with
  | none => none
  | some (rest, release) =>
      match Text.splitLast "-" rest with
      | none => none
      | some (name, version) => some ⟨name, version, release⟩

def fullVersion (entry : EntryName) : String :=
  entry.version ++ "-" ++ entry.release

end EntryName

end PackageAssay

import PackageAssay.Files.Operation
import PackageAssay.Manifest.Entry

set_option autoImplicit false

namespace PackageAssay.Fixture

def fileText (data : String) : String :=
  if data = "" ∨ Text.endsWithChar '\n' data then data else data ++ "\n"

def writeFile (path : Path) (data : String) : Operation Unit := do
  Operation.makeParents path
  Operation.writeText path (fileText data)

def makeEntry (root : Path) (entry data : String) : Operation Unit :=
  let parsed := ManifestEntry.parse entry
  let path := root.join parsed.path
  match parsed.kind with
  | .directory => Operation.makeDirectories path
  | .symlink target => do
      Operation.makeParents path
      Operation.change fun disk => disk.makeLink path target
  | .file | .altered => writeFile path data

def installEntry (root : Path) (entry : String) : Operation Unit :=
  makeEntry root entry entry

end PackageAssay.Fixture

import PackageAssay.Digest.Pieces
import PackageAssay.Files.Walk

/-!
# Looking at files

A disk is a file tree with a working directory and a clock. The functions here look at it and
change nothing.
-/

set_option autoImplicit false

namespace PackageAssay

structure Disk where
  tree : FileTree
  workingDirectory : Location := []
  /-- The moment at which the next change happens. -/
  now : Int64
  /-- The moments of the changes after that one; behind the last of them the clock stands. -/
  ahead : List Int64 := []
deriving Inhabited

namespace Disk

def tick (disk : Disk) : Disk :=
  { disk with now := disk.ahead.headD disk.now, ahead := disk.ahead.tail }

def startOf (disk : Disk) (path : Path) : Location :=
  if path.isAbsolute then [] else disk.workingDirectory

def walk (disk : Disk) (goal : Goal) (names : List String) (start : Location) :
    Except Fault Location :=
  PackageAssay.walk disk.tree goal maxLinks names start

def locate (disk : Disk) (goal : Goal) (path : Path) : Except Fault Location := do
  path.check
  disk.walk goal path.steps (disk.startOf path)

def node (disk : Disk) (goal : Goal) (path : Path) : Except Fault Node := do
  let location ← disk.locate goal path
  match disk.tree.find? location with
  | some node => return node
  | none => throw .notFound

/-- The times of a file; those of a link are its own. -/
def times (disk : Disk) (path : Path) : Except Fault FileTimes :=
  (disk.node .entry path).map Node.times

def isFile (disk : Disk) (path : Path) : Bool :=
  ((disk.node .target path).toOption.map fun node => node.body.isFile).getD false

def isDirectory (disk : Disk) (path : Path) : Bool :=
  ((disk.node .target path).toOption.map fun node => node.body.isDirectory).getD false

def isLink (disk : Disk) (path : Path) : Bool :=
  ((disk.node .entry path).toOption.map fun node => node.body.isLink).getD false

def read (disk : Disk) (path : Path) : Except Fault Content := do
  match (← disk.node .target path).body with
  | .file content => return content
  | .directory => throw .isDirectory
  | .link _ => throw .tooManyLinks

def readText (disk : Disk) (path : Path) : Except Fault String := do
  match (← disk.read path).text? with
  | some text => return text
  | none => throw .notText

/-- The digest of a file's content; a file that cannot be read has the empty one. -/
def fingerprint (disk : Disk) (path : Path) : String :=
  match disk.read path with
  | .ok content => (Sha1.hexOfReads (Sha1.blocks content.toBytes)).getD ""
  | .error _ => ""

def timesOrZero (disk : Disk) (path : Path) : FileTimes :=
  (disk.times path).toOption.getD {}

/-- The names in a directory and what they name, in no particular order. -/
def children (disk : Disk) (path : Path) : Except Fault (List (String × NodeBody)) := do
  let location ← disk.locate .target path
  match disk.tree.body? location with
  | none => throw .notFound
  | some .directory =>
      return (disk.tree.childNames location).filterMap fun name =>
        (disk.tree.body? (name :: location)).map (name, ·)
  | some _ => throw .notDirectory

end Disk

end PackageAssay

import PackageAssay.Files.Disk

/-!
# Changing files

Each change either happens in whole or leaves the disk as it is. A file that is made gets the
time of the clock, a file that is written gets it as its modify and change time, and so does a
directory when something in it is made or removed.
-/

set_option autoImplicit false

namespace PackageAssay

namespace Node

def touched (now : Int64) (node : Node) : Node :=
  { node with times := node.times.changedAt now }

def withContent (content : Content) (now : Int64) (node : Node) : Node :=
  if node.body.isDirectory then node else ⟨.file content, node.times.changedAt now⟩

theorem isDirectory_withContent (content : Content) (now : Int64) (node : Node) :
    (node.withContent content now).body.isDirectory = node.body.isDirectory := by
  unfold withContent
  split
  · rfl
  · next other => exact (Bool.eq_false_iff.2 other).symm

end Node

namespace FileTree

def touch (tree : FileTree) (location : Location) (now : Int64) : FileTree :=
  tree.change location (Node.touched now) fun _ => rfl

def setContent (tree : FileTree) (location : Location) (content : Content) (now : Int64) : FileTree :=
  tree.change location (Node.withContent content now) (Node.isDirectory_withContent content now)

end FileTree

namespace Disk

def make (disk : Disk) (location : Location) (body : NodeBody) : Except Fault Disk :=
  match disk.tree.add location ⟨body, .madeAt disk.now⟩ with
  | some tree => .ok { disk with tree := tree.touch location.tail disk.now }
  | none => .error .alreadyExists

def writeFile (disk : Disk) (path : Path) (content : Content) : Except Fault Disk := do
  let location ← disk.locate .place path
  match disk.tree.body? location with
  | none => disk.make location (.file content)
  | some .directory => throw .isDirectory
  | some _ => return { disk with tree := disk.tree.setContent location content disk.now }

def makeDirectoryAt (disk : Disk) (names : List String) (start : Location) :
    Except Fault Disk := do
  let location ← disk.walk .entry names start
  if (disk.tree.body? location).isSome then throw .alreadyExists
  disk.make location .directory

def isDirectoryAt (disk : Disk) (names : List String) (start : Location) : Bool :=
  match disk.walk .target names start with
  | .ok location => (disk.tree.body? location).any NodeBody.isDirectory
  | .error _ => false

def makeLink (disk : Disk) (path : Path) (target : String) : Except Fault Disk := do
  (Path.mk target).check
  path.check
  let location ← disk.walk .entry (path.names ++ path.dots) (disk.startOf path)
  if (disk.tree.body? location).isSome then throw .alreadyExists
  -- A link is no directory, which a slash behind its name asks for.
  if path.endsInSlash then throw .notFound
  disk.make location (.link target)

def remove (disk : Disk) (path : Path) : Except Fault Disk := do
  let location ← disk.locate .entry path
  if (disk.tree.body? location).isNone then throw .notFound
  return { disk with tree := (disk.tree.remove location).touch location.tail disk.now }

end Disk

end PackageAssay

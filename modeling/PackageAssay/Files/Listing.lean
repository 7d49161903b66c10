import PackageAssay.Files.Disk

/-!
# Listings of a directory tree

A listing holds everything below a directory: the names in a directory in byte order, and after a
directory what it holds.
-/

set_option autoImplicit false

namespace PackageAssay

/-- A node with the names that lead to it, the outermost first. -/
structure ListedNode where
  names : List String
  body : NodeBody

namespace FileTree

def listed (tree : FileTree) (top : Location) : List ListedNode :=
  (tree.nodes.filter fun entry => Location.within entry.1 top && entry.1 != top).map fun entry =>
    ⟨(entry.1.take (entry.1.length - top.length)).reverse, entry.2.body⟩

def listing (tree : FileTree) (top : Location) : List ListedNode :=
  (tree.listed top).mergeSort fun left right => decide (¬ right.names < left.names)

end FileTree

def Disk.listing (disk : Disk) (path : Path) : Except Fault (List ListedNode) := do
  let location ← disk.locate .target path
  match disk.tree.body? location with
  | none => throw .notFound
  | some .directory => return disk.tree.listing location
  | some _ => throw .notDirectory

end PackageAssay

import PackageAssay.Files.Path
import PackageAssay.Files.Tree

/-!
# Walking through a file tree

A walk follows names from a location to the place where they lead. The last name may name nothing
yet; everything before it has to be there, and what a name is looked up in has to be a directory.
-/

set_option autoImplicit false

namespace PackageAssay

inductive Goal where
  /-- What the last name stands for, be it a link. -/
  | entry
  /-- What a link at the end leads to. -/
  | target
  /-- A place to write to, which a link at the end may lead to; it has no slash behind its name. -/
  | place
deriving DecidableEq

/-- Follows names from a location, and leaves links to `onLink`, which is given the location where
the target starts and the names that are still to follow. -/
def walkNames (tree : FileTree) (goal : Goal)
    (onLink : Location → List String → Except Fault Location) :
    List String → Location → Except Fault Location
  | [], here => .ok here
  | name :: rest, here =>
      match tree.body? here with
      | none => .error .notFound
      | some .directory =>
          -- A mark asks for a directory, and here is one.
          if name = Path.dotMark ∨ name = Path.slashMark then walkNames tree goal onLink rest here
          else if name = ".." then walkNames tree goal onLink rest here.tail
          else if goal = .place ∧ rest = [Path.slashMark] then .error .isDirectory
          else if Path.maxNameLength < name.utf8ByteSize then .error .nameTooLong
          else
            match tree.body? (name :: here) with
            | none => if rest = [] then .ok (name :: here) else .error .notFound
            | some (.link target) =>
                if rest = [] ∧ goal = .entry then .ok (name :: here)
                else
                  -- A relative target starts where the link stands.
                  onLink (if (Path.mk target).isAbsolute then [] else here)
                    ((Path.mk target).steps ++ rest)
            | some _ => walkNames tree goal onLink rest (name :: here)
      | some _ => .error .notDirectory

def walk (tree : FileTree) (goal : Goal) : Nat → List String → Location → Except Fault Location
  | 0 => walkNames tree goal fun _ _ => .error .tooManyLinks
  | links + 1 => walkNames tree goal fun here names => walk tree goal links names here

def maxLinks : Nat := 40

end PackageAssay

import PackageAssay.Error
import PackageAssay.Files.Change

/-!
# Operations on a disk

An operation is a row of changes, after each of which the clock goes on. When it fails, the changes
made before the failure stay.
-/

set_option autoImplicit false

namespace PackageAssay

abbrev Operation := EStateM Error Disk

namespace Operation

def change (step : Disk → Except Fault Disk) : Operation Unit := fun disk =>
  match step disk with
  | .ok changed => .ok () changed.tick
  | .error fault => .error (.file fault) disk

def look {α : Type} (see : Disk → Except Error α) : Operation α := fun disk =>
  match see disk with
  | .ok value => .ok value disk
  | .error error => .error error disk

def writeFile (path : Path) (content : Content) : Operation Unit :=
  change fun disk => disk.writeFile path content

def writeText (path : Path) (text : String) : Operation Unit :=
  writeFile path (.ofText text)

def ensureDirectory (names : List String) (start : Location) : Operation Unit := fun disk =>
  match disk.makeDirectoryAt names start with
  | .ok changed => .ok () changed.tick
  | .error fault =>
      if disk.isDirectoryAt names start then .ok () disk else .error (.file fault) disk

/-- Makes a directory, given by the names that lead to it, the last one first, and those before it
that are missing. The mark follows the last name. -/
def makeDirectoriesAt (start : Location) (mark : List String) : List String → Operation Unit
  | [] => pure ()
  | name :: parents => fun disk =>
      let names := (name :: parents).reverse ++ mark
      match disk.makeDirectoryAt names start with
      -- What is missing must be a directory before it.
      | .error .notFound =>
          (do makeDirectoriesAt start [] parents
              ensureDirectory names start : Operation Unit) disk
      | _ => ensureDirectory names start disk

def makeDirectories (path : Path) : Operation Unit := do
  if path.text ≠ "" then
    look fun _ => path.check.mapError .file
    let disk ← get
    makeDirectoriesAt (disk.startOf path) path.dots path.names.reverse

def makeParents (path : Path) : Operation Unit :=
  match path.parent? with
  | some parent => makeDirectories parent
  | none => pure ()

end Operation

end PackageAssay

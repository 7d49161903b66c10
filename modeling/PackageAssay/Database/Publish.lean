import PackageAssay.Archive.Pack
import PackageAssay.Database.Repository

/-!
# Publishing a repository

A repository is published as an archive of everything in its directory. Links are followed.
-/

set_option autoImplicit false

namespace PackageAssay

structure Gathered where
  entries : List ArchiveEntry := []
  failure : Option Fault := none

namespace Gathered

def fail (fault : Fault) : Gathered := ⟨[], some fault⟩

def single (entry : ArchiveEntry) : Gathered := ⟨[entry], none⟩

def andThen (first : Gathered) (next : Unit → Gathered) : Gathered :=
  match first.failure with
  | some _ => first
  | none =>
      let rest := next ()
      ⟨first.entries ++ rest.entries, rest.failure⟩

def each {α : Type} (gather : α → Gathered) : List α → Gathered
  | [] => {}
  | item :: rest => (gather item).andThen fun _ => each gather rest

end Gathered

def directoryEntry (name : String) : ArchiveEntry := ⟨name, .directory, 0o755⟩

def fileEntry (name : String) (content : ByteArray) : ArchiveEntry := ⟨name, .file content, 0o644⟩

def gatherFile (disk : Disk) (name : String) (path : Path) : Gathered :=
  match disk.read path with
  | .ok content => .single (fileEntry name content.toBytes)
  | .error fault => .fail fault

/-- A directory and all it holds. The names below it are joined to the second one. The depth bounds
the number of directories inside one another; a path to a deeper one would be too long. -/
def gatherDirectory (disk : Disk) : Nat → String → String → Path → Gathered
  | 0, _, _, _ => .fail .nameTooLong
  | depth + 1, entryName, name, path =>
      match disk.children path with
      | .error fault => .fail fault
      | .ok children =>
          (Gathered.single (directoryEntry entryName)).andThen fun _ =>
            Gathered.each (fun child =>
              let childName := name ++ "/" ++ child.1
              let childPath := path.join child.1
              if child.2.isDirectory || (child.2.isLink && disk.isDirectory childPath) then
                gatherDirectory disk depth childName childName childPath
              else gatherFile disk childName childPath) (sortedByName children)

/-- What stands at the top of a repository. A link to a directory is kept as an empty one. -/
def gatherTop (disk : Disk) (directory : Path) (child : String × NodeBody) : Gathered :=
  let path := directory.join child.1
  if child.2.isDirectory then
    gatherDirectory disk Path.maxLength (child.1 ++ "/") child.1 path
  else
    match disk.node .target path with
    | .error fault => .fail (.unreadable path.text fault)
    | .ok node =>
        if node.body.isDirectory then .single (directoryEntry child.1)
        else gatherFile disk child.1 path

/-- What was gathered before anything was written; the archive itself is empty then, and has grown
when its content is read. -/
def Gathered.beforeWriting (gathered : Gathered) : Gathered :=
  { gathered with entries := gathered.entries.map fun entry =>
      match entry.body with
      | .file content => { entry with body := .grown content }
      | _ => entry }

def leadsTo (disk : Disk) (path : Path) (other : Path) : Bool :=
  match disk.locate .target path, disk.locate .target other with
  | .ok here, .ok there => here == there
  | _, _ => false

def gatherChildren (disk : Disk) (archive directory : Path) :
    List (String × NodeBody) → Gathered
  | [] => {}
  | first :: rest =>
      let gathered := gatherTop disk directory first
      let gathered :=
        if leadsTo disk (directory.join first.1) archive then gathered.beforeWriting else gathered
      gathered.andThen fun _ => Gathered.each (gatherTop disk directory) rest

namespace Repository

def publish (repository : Repository) : Operation Unit :=
  match repository.archive with
  | none => pure ()
  | some archive => do
      Operation.makeParents archive
      Operation.makeDirectories repository.directory
      let children ← Operation.look fun disk =>
        (disk.children repository.directory).mapError .file
      -- While the files are gathered, the archive is there and has its header only.
      Operation.writeFile archive (.bytes Gzip.header)
      let gathered := gatherChildren (← get) archive repository.directory (sortedByName children)
      let packed := Archive.pack gathered.failure gathered.entries
      Operation.writeFile archive (.archive packed.archive)
      match packed.failure with
      | none => pure ()
      | some fault => throw (.file fault)

end Repository

end PackageAssay

import PackageAssay.Database.EntryName
import PackageAssay.Database.EntryText
import PackageAssay.Database.Snapshot
import PackageAssay.Files.Operation
import PackageAssay.Layout
import PackageAssay.NameMap

/-!
# Repositories

A repository is a directory with one subdirectory for each package. The repository `local` lists
what is installed; every other one lists what can be installed and is published as an archive.
-/

set_option autoImplicit false

namespace PackageAssay

structure Repository where
  name : String
  directory : Path
  archive : Option Path
  references : NameMap Snapshot := .empty
deriving DecidableEq

structure DatabaseEntry where
  record : PackageRecord
  snapshot : Snapshot
deriving DecidableEq

def SectionState.ofFile (disk : Disk) (path : Path) : SectionState :=
  ⟨disk.fingerprint path, disk.timesOrZero path⟩

namespace Repository

def localName : String := "local"

def ofName (name : String) (root : Path) (layout : Layout) : Repository where
  name := name
  directory := (root.join layout.dbpath).join name
  archive :=
    if name = localName then none
    else some ((root.join layout.dbpath).join (name ++ layout.dbExtension))

def isLocal (repository : Repository) : Bool := repository.name == localName

def kind (repository : Repository) : RepositoryKind :=
  if repository.isLocal then .installed else .sync

def remember (repository : Repository) (name : String) (snapshot : Snapshot) : Repository :=
  { repository with references := repository.references.insert name snapshot }

def reference? (repository : Repository) (name : String) : Option Snapshot :=
  repository.references.find? name

def isModified (repository : Repository) (name : String) (current : Snapshot) : Bool :=
  match repository.reference? name with
  | some old => old.isModified current
  | none => false

def writeSection (directory : Path) (key : SectionKey) (content : String) (snapshot : Snapshot) :
    Operation Snapshot := do
  let path := directory.join key.fileName
  Operation.writeText path content
  return snapshot.insert key (.ofFile (← get) path)

def sectionsOf (repository : Repository) (record : PackageRecord) :
    List (SectionKey × String) :=
  let text := EntryText.ofRecord record repository.kind
  if repository.isLocal then
    [(.desc, text.desc), (.files, text.files), (.depends, text.depends)] ++
      if record.scriptlets.isEmpty then [] else [(.install, text.install)]
  else [(.desc, text.desc), (.depends, text.depends)]

def write (repository : Repository) (record : PackageRecord) :
    Operation (Repository × Snapshot) := do
  let directory := repository.directory.join record.dbname
  Operation.makeDirectories directory
  let snapshot ← (repository.sectionsOf record).foldlM
    (fun snapshot (key, content) => writeSection directory key content snapshot) {}
  return (repository.remember record.name snapshot, snapshot)

/-- The subdirectories; a repository that is not there has none. -/
def entryDirectories (repository : Repository) (disk : Disk) : Except Error (List String) :=
  match disk.children repository.directory with
  | .ok children => .ok ((children.filter fun child => child.2.isDirectory).map Prod.fst)
  | .error .notFound => .ok []
  | .error fault => .error (.file fault)

def list (repository : Repository) (disk : Disk) : Except Error (List String) := do
  let directories ← repository.entryDirectories disk
  return sortedNames (directories.filterMap fun directory =>
    (EntryName.parse? directory).map EntryName.name)

def findEntry (repository : Repository) (disk : Disk) (name : String) :
    Except Error (Option (Path × EntryName)) := do
  let directories ← repository.entryDirectories disk
  return (sortedNames directories).findSome? fun directory =>
    match EntryName.parse? directory with
    | some entry =>
        if entry.name = name then some (repository.directory.join directory, entry) else none
    | none => none

def readSection (disk : Disk) (directory : Path) (key : SectionKey)
    (decode : String → PackageRecord → Decoded) (entry : DatabaseEntry) :
    Except Error DatabaseEntry := do
  let path := directory.join key.fileName
  let content ← (disk.readText path).mapError .file
  let record ← (decode content entry.record).result
  return ⟨record, entry.snapshot.insert key (.ofFile disk path)⟩

def readOptional (disk : Disk) (directory : Path) (key : SectionKey)
    (decode : String → PackageRecord → Decoded) (entry : DatabaseEntry) :
    Except Error DatabaseEntry :=
  match disk.readText (directory.join key.fileName) with
  | .error .notFound => .ok entry
  | _ => readSection disk directory key decode entry

def read (repository : Repository) (disk : Disk) (name : String) :
    Except Error (Option DatabaseEntry) := do
  match ← repository.findEntry disk name with
  | none => return none
  | some (directory, found) =>
      let entry : DatabaseEntry := ⟨.bare name found.fullVersion, {}⟩
      let entry ← readSection disk directory .desc decodeDesc entry
      let entry ← readOptional disk directory .files decodeFiles entry
      let entry ← readOptional disk directory .depends decodeDepends entry
      let entry ← readOptional disk directory .install
        (fun content record => ⟨decodeInstall content record, none⟩) entry
      return some entry

end Repository

end PackageAssay

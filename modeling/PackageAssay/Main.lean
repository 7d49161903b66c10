import PackageAssay.Command.Arguments
import PackageAssay.Command.Run

/-!
# The command line program

The files that a command can look at are read into a file tree, the command runs on the tree, and
what it changed is written back. Change times are not visible here; modify times stand for them.
-/

set_option autoImplicit false

namespace PackageAssay.Program

def usage : String := Text.joinLines [
  "usage: package-assay [-r ROOT] [-c LAYOUT] COMMAND",
  "  dump NAME [--repo REPOSITORY]",
  "  list [--repo REPOSITORY]",
  "  check --retcode CODE [--snapshot BASELINE] RULE...",
  "  snapshot -o BASELINE [--track PATH]...",
  "  gensync REPOSITORY",
  "  inspect ARCHIVE",
  "  expand [ENTRY]..."]

def moment (time : IO.FS.SystemTime) : Int64 :=
  FileTimes.nanoseconds time.sec time.nsec.toNat

def fileTimes (metadata : IO.FS.Metadata) : FileTimes :=
  let modified := moment metadata.modified
  ⟨moment metadata.accessed, modified, modified⟩

def listingEntry (name : String) (parent : Location) : IO.FS.DirEntry :=
  ⟨"/" ++ "/".intercalate parent.reverse, name⟩

def attempt {α : Type} (action : IO α) : IO (Option α) := do
  match ← action.toBaseIO with
  | .ok value => return some value
  | .error _ => return none

/-- No file has this name, so a link to it leads nowhere. -/
def nowhere : String := "\x00"

def readNode (name : String) (parent : Location) : IO (Option Node) := do
  let path := (listingEntry name parent).path
  match ← attempt path.symlinkMetadata with
  | none => return none
  | some metadata =>
      let body ← match metadata.type with
        | .dir => pure NodeBody.directory
        | .symlink => do
            pure (.link (((← attempt (IO.FS.realPath path)).map toString).getD nowhere))
        | _ => pure (.file (.bytes ((← attempt (IO.FS.readBinFile path)).getD .empty)))
      return some ⟨body, fileTimes metadata⟩

/-- Reads what a path leads to, and on demand all below it. The depth bounds the number of
directories and links that are entered one inside the other. -/
def load : Nat → Bool → Location → FileTree → IO FileTree
  | 0, _, _, tree => return tree
  | _, _, [], tree => return tree
  | depth + 1, deep, name :: parent, tree => do
      let location := name :: parent
      let tree ← load depth false parent tree
      let tree ← if (tree.find? location).isSome then pure tree
        else do pure (((← readNode name parent).bind (tree.add location)).getD tree)
      match tree.body? location with
      | some (.link target) => load depth deep (Path.mk target).names.reverse tree
      | some .directory =>
          if deep then
            let children ← attempt (listingEntry name parent).path.readDir
            (children.getD #[]).foldlM (fun tree child =>
              let below := child.fileName :: location
              if (tree.find? below).isSome then pure tree else load depth true below tree) tree
          else return tree
      | _ => return tree

def loadPath (deep : Bool) (disk : Disk) (path : Path) : IO Disk := do
  let way := path.names.reverse ++ disk.startOf path
  let real ← attempt (IO.FS.realPath ("/" ++ "/".intercalate way.reverse))
  let ways := (if ".." ∈ way then [] else [way]) ++
    real.toList.map fun real => (Path.mk (toString real)).names.reverse
  let tree ← ways.foldlM (fun tree way => load Path.maxLength deep way tree) disk.tree
  return { disk with tree := tree }

def pathsOfRule (root : Path) (layout : Layout) (rule : Rule) : List Path :=
  match rule.predicate with
  | .file path _ =>
      ["", layout.pacnewSuffix, layout.pacorigSuffix, layout.pacsaveSuffix].map
        (root.join path).withSuffix
  | .link path => [root.join path]
  | _ => []

def pathsOf (invocation : Invocation) (layout : Layout) (disk : Disk) : List Path :=
  let root := invocation.root
  match invocation.command with
  | .check _ baseline rules =>
      let tracked := match baseline.map (Baseline.load disk) with
        | some (.ok baseline) => baseline.files.map TrackedFile.path
        | _ => []
      root.join layout.logfile :: tracked ++
        (rules.filterMap fun rule => (Rule.parse rule).toOption).flatMap
          (pathsOfRule root layout)
  | .snapshot output files => output :: files.map fun file => root.join (filenameOf file)
  | .inspect archive => [archive]
  | _ => []

def baselineOf : Command → List Path
  | .check _ (some baseline) _ => [baseline]
  | _ => []

def writeBack (before after : FileTree) : IO Unit := do
  let changed := after.nodes.filter fun entry => before.body? entry.1 != some entry.2.body
  let ordered := changed.mergeSort fun left right => Nat.ble left.1.length right.1.length
  for (location, node) in ordered do
    match location, node.body with
    | name :: parent, .directory => IO.FS.createDirAll (listingEntry name parent).path
    | name :: parent, .file content =>
        IO.FS.writeBinFile (listingEntry name parent).path content.toBytes
    | _, _ => pure ()

def run (invocation : Invocation) : IO UInt32 := do
  let here := Path.mk (toString (← IO.currentDir))
  let empty : Disk :=
    { tree := .bare {}, workingDirectory := here.names.reverse
      now := Int64.ofNat (← IO.monoNanosNow) }
  let disk ← (here :: invocation.layoutFile.toList ++ baselineOf invocation.command).foldlM
    (loadPath false) empty
  let layout := (Invocation.loadLayout disk invocation.layoutFile).toOption.getD {}
  let disk ← loadPath true disk (invocation.root.join layout.dbpath)
  let disk ← (pathsOf invocation layout disk).foldlM (loadPath false) disk
  let (ending, changed) := runArguments (some invocation) disk
  writeBack disk.tree changed.tree
  IO.print ending.output
  match ending.complaint with
  | some complaint => IO.eprintln ("Error: " ++ complaint)
  | none => pure ()
  return ending.exitCode

end PackageAssay.Program

def main (arguments : List String) : IO UInt32 := do
  match PackageAssay.Invocation.ofArguments? arguments with
  | some invocation => PackageAssay.Program.run invocation
  | none =>
      IO.eprintln PackageAssay.Program.usage
      return PackageAssay.Ending.misused.exitCode

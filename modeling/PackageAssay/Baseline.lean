import PackageAssay.Database.Repository
import PackageAssay.Database.SnapshotJson
import PackageAssay.Json.Parse
import PackageAssay.Json.Pretty
import PackageAssay.Tracking

/-!
# Baselines

A baseline is the state of packages and files before the package manager runs. It can be saved,
so that another process checks what has changed.
-/

set_option autoImplicit false

namespace PackageAssay

namespace TrackedFile

def toJson (tracked : TrackedFile) : Json :=
  .ofMembers [("name", .ofString tracked.name), ("path", .ofString tracked.path.text),
    ("fingerprint", .ofString tracked.fingerprint), ("times", tracked.times.toJson)]

def ofJson? (value : Json) : Option TrackedFile := do
  match ← value.fields? ["name", "path", "fingerprint", "times"] with
  | [name, path, fingerprint, times] =>
      some ⟨← name.string?, ⟨← path.string?⟩, ← fingerprint.string?, ← FileTimes.ofJson? times⟩
  | _ => none

end TrackedFile

structure Baseline where
  packages : NameMap Snapshot := .empty
  files : List TrackedFile := []
deriving DecidableEq

namespace Baseline

def capture (disk : Disk) (repository : Repository) (root : Path) (files : List String) :
    Except Error Baseline := do
  let entries ← (← repository.list disk).mapM fun name => do
    return (← repository.read disk name).map fun entry => (name, entry.snapshot)
  return ⟨.ofList (entries.filterMap id), files.map (TrackedFile.ofEntry disk root)⟩

def restore (baseline : Baseline) (repository : Repository) : Repository :=
  baseline.packages.entries.foldl
    (fun repository entry => repository.remember entry.1 entry.2) repository

def toJson (baseline : Baseline) : Json :=
  .ofMembers [
    ("packages", .ofMembers (baseline.packages.entries.map fun entry =>
      (entry.1, entry.2.toJson))),
    ("files", .array (baseline.files.map TrackedFile.toJson))]

/-- Of two packages with one name the later one counts. -/
def packagesOfJson? (value : Json) : Option (NameMap Snapshot) := do
  let members ← (← value.members?).mapM fun member => do
    return (member.1, ← Snapshot.ofJson? member.2)
  return .ofList members

def ofJson? (value : Json) : Option Baseline := do
  match ← value.fields? ["packages", "files"] with
  | [packages, files] => some ⟨← packagesOfJson? packages, ← files.list? TrackedFile.ofJson?⟩
  | _ => none

def render (baseline : Baseline) : String := baseline.toJson.pretty

def parse (text : String) : Except Error Baseline :=
  match (Json.parse? text).bind ofJson? with
  | some baseline => .ok baseline
  | none => .error .json

def load (disk : Disk) (path : Path) : Except Error Baseline := do
  parse (← (disk.readText path).mapError .file)

def save (baseline : Baseline) (path : Path) : Operation Unit := do
  Operation.makeParents path
  Operation.writeText path baseline.render

def same (left right : Baseline) : Bool :=
  left.packages == right.packages && left.files.length == right.files.length &&
    (left.files.zip right.files).all fun (left, right) => left.same right

end Baseline

end PackageAssay

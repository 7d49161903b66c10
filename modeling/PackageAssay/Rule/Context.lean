import PackageAssay.Database.Repository
import PackageAssay.Rule.Set
import PackageAssay.Text.Lossy
import PackageAssay.Tracking

/-!
# Evaluating rules

A context holds the facts of a finished test run. Evaluation never fails: what cannot be read does
not hold.
-/

set_option autoImplicit false

namespace PackageAssay

structure Context where
  disk : Disk
  root : Path
  layout : Layout
  exitCode : Int32
  repositories : NameMap Repository
  tracked : List TrackedFile

namespace Context

def logPath (context : Context) : Path :=
  context.root.join context.layout.logfile

def linesHold (pattern : String) (bytes : List UInt8) : Bool :=
  (Text.pieces 0x0a bytes).any fun line =>
    Text.occursIn pattern.toList (Text.decodeLossy line)

def logHolds (context : Context) (pattern : String) : Bool :=
  match context.disk.read context.logPath with
  | .ok content => linesHold pattern content.toBytes.data.toList
  | .error _ => false

def localEntry (context : Context) (name : String) : Option (Repository × DatabaseEntry) :=
  match context.repositories.find? Repository.localName with
  | none => none
  | some repository =>
      match repository.read context.disk name with
      | .ok (some entry) => some (repository, entry)
      | _ => none

def checkPackage (context : Context) (name : String) (check : PackageCheck) : Outcome :=
  match context.localEntry name with
  | none => .failure
  | some (repository, entry) =>
      let record := entry.record
      match check with
      | .installed => .success
      | .modified =>
          if (repository.reference? name).isNone then .skipped
          else .ofBool (repository.isModified name entry.snapshot)
      | .version expected => .ofBool (record.version == expected)
      | .group group => .ofBool (record.groups.contains group)
      | .dependsOn package => .ofBool (record.depends.contains package)
      | .requiredBy package => .ofBool (record.requiredBy.contains package)
      | .reason expected => .ofBool (record.reason == expected)
      | .file path => .ofBool (record.files.contains path)
      | .backup path => .ofBool (record.hasBackup path)

def checkFile (context : Context) (name : String) (check : FileCheck) : Outcome :=
  let path := context.root.join name
  let isFile (path : Path) : Outcome := .ofBool (context.disk.isFile path)
  match check with
  | .present => isFile path
  | .modified =>
      match context.tracked.find? fun tracked => tracked.name == name with
      | some tracked => .ofBool (tracked.isModified context.disk)
      | none => .skipped
  | .pacnew => isFile (path.withSuffix context.layout.pacnewSuffix)
  | .pacorig => isFile (path.withSuffix context.layout.pacorigSuffix)
  | .pacsave => isFile (path.withSuffix context.layout.pacsaveSuffix)

def evaluate (context : Context) : Predicate → Outcome
  | .exitCode expected => .ofBool (context.exitCode == expected)
  | .output pattern => .ofBool (context.logHolds pattern)
  | .package name check => context.checkPackage name check
  | .file path check => context.checkFile path check
  | .link path => .ofBool (context.disk.isLink (context.root.join path))
  | .unrecognized _ _ => .skipped

def outcome (context : Context) (rule : Rule) : Outcome :=
  let holds := context.evaluate rule.predicate
  if rule.negated then holds.negate else holds

end Context

end PackageAssay

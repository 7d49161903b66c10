import PackageAssay.Baseline
import PackageAssay.Command.Syntax
import PackageAssay.Database.Publish
import PackageAssay.Layout.OfToml
import PackageAssay.Package.Archive
import PackageAssay.Package.RecordJson
import PackageAssay.Rule.Context

set_option autoImplicit false

namespace PackageAssay

inductive Complaint where
  | layout (path : Path)
  | baseline (path : Path)
  | noEntry (package repository : String)
  | notPublished (repository : String)
  | error (cause : Error)
deriving DecidableEq

def Complaint.message : Complaint → String
  | .layout path => "Failed to load configuration " ++ path.text
  | .baseline path => "Failed to load baseline " ++ path.text
  | .noEntry package repository => "Package '" ++ package ++ "' not found in " ++ repository
  | .notPublished repository => "Repository '" ++ repository ++ "' has no sync database"
  | .error cause => cause.message

structure Report where
  output : String
  passed : Bool := true
deriving DecidableEq, Repr

namespace Report

def ofLines (lines : List String) (passed : Bool) : Report :=
  ⟨String.join (lines.map (· ++ "\n")), passed⟩

end Report

def Layout.load (disk : Disk) (path : Path) : Except Error Layout := do
  Layout.ofToml (← (disk.readText path).mapError .file)

def RuleSet.ofTexts (texts : List String) : Except Error RuleSet :=
  texts.foldlM RuleSet.add {}

namespace Command

def entryJson (entry : DatabaseEntry) : Json :=
  Json.sortMembers (.ofMembers [("record", entry.record.toJson),
    ("snapshot", entry.snapshot.toJson)])

def runDump (disk : Disk) (root : Path) (layout : Layout) (package repository : String) :
    Except Complaint Report := do
  match ← ((Repository.ofName repository root layout).read disk package).mapError .error with
  | some entry => return .ofLines [(entryJson entry).pretty] true
  | none => throw (.noEntry package repository)

def runList (disk : Disk) (root : Path) (layout : Layout) (repository : String) :
    Except Complaint Report := do
  let names ← ((Repository.ofName repository root layout).list disk).mapError .error
  return .ofLines names true

def loadBaseline (disk : Disk) (path : Option Path) : Except Complaint Baseline :=
  match path with
  | none => .ok {}
  | some path => (Baseline.load disk path).mapError fun _ => .baseline path

def contextOf (disk : Disk) (root : Path) (layout : Layout) (exitCode : Int32)
    (baseline : Baseline) : Context where
  disk := disk
  root := root
  layout := layout
  exitCode := exitCode
  repositories := NameMap.empty.insert Repository.localName
    (baseline.restore (Repository.ofName Repository.localName root layout))
  tracked := baseline.files

def runCheck (disk : Disk) (root : Path) (layout : Layout) (exitCode : Int32)
    (baseline : Option Path) (rules : List String) : Except Complaint Report := do
  let rules ← (RuleSet.ofTexts rules).mapError .error
  let baseline ← loadBaseline disk baseline
  let checked := rules.check (contextOf disk root layout exitCode baseline).outcome
  return .ofLines
    (checked.results.map RuleResult.report ++ ["Rules: " ++ checked.tally.summary])
    checked.tally.passed

def operate {α : Type} (operation : Operation α) : EStateM Complaint Disk α :=
  operation.adaptExcept .error

def examine {α : Type} (look : Disk → Except Complaint α) : EStateM Complaint Disk α := fun disk =>
  match look disk with
  | .ok value => .ok value disk
  | .error complaint => .error complaint disk

def run (root : Path) (layout : Layout) : Command → EStateM Complaint Disk Report
  | .dump package repository => examine fun disk => runDump disk root layout package repository
  | .list repository => examine fun disk => runList disk root layout repository
  | .check exitCode baseline rules =>
      examine fun disk => runCheck disk root layout exitCode baseline rules
  | .snapshot output files => do
      let installed := Repository.ofName Repository.localName root layout
      operate do
        let baseline ← Operation.look fun disk => Baseline.capture disk installed root files
        baseline.save output
      return .ofLines [] true
  | .gensync name =>
      let repository := Repository.ofName name root layout
      match repository.archive with
      | none => throw (.notPublished name)
      | some archive => do
          operate repository.publish
          return .ofLines [archive.text] true
  | .inspect archive => do
      let record ← operate (Operation.look fun disk => PackageArchive.read disk archive)
      return .ofLines [record.toJson.pretty] true
  | .expand files => return .ofLines (expandManifest files) true

end Command

namespace Invocation

def loadLayout (disk : Disk) (path : Option Path) : Except Complaint Layout :=
  match path with
  | none => .ok {}
  | some path => (Layout.load disk path).mapError fun _ => .layout path

def run (invocation : Invocation) : EStateM Complaint Disk Report := do
  let layout ← Command.examine fun disk => loadLayout disk invocation.layoutFile
  invocation.command.run invocation.root layout

end Invocation

structure Ending where
  output : String
  exitCode : UInt32
  complaint : Option String
deriving DecidableEq, Repr

namespace Ending

def misused : Ending := ⟨"", 2, none⟩

def ofReport (report : Report) : Ending :=
  ⟨report.output, if report.passed then 0 else 1, none⟩

def ofComplaint (complaint : Complaint) : Ending :=
  ⟨"", 1, some complaint.message⟩

end Ending

def runArguments (parsed : Option Invocation) (disk : Disk) : Ending × Disk :=
  match parsed with
  | none => (.misused, disk)
  | some invocation =>
      match invocation.run disk with
      | .ok report disk => (.ofReport report, disk)
      | .error complaint disk => (.ofComplaint complaint, disk)

end PackageAssay

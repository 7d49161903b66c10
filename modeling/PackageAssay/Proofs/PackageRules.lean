import PackageAssay.Proofs.RecordCodec
import PackageAssay.Proofs.StoreRefinement
import PackageAssay.Rule.Context

set_option autoImplicit false

namespace PackageAssay

namespace Rule

def aboutPackage (case argument : String) : String := "PKG_" ++ case ++ "=" ++ argument

def keyed (key value : String) : String := key ++ "|" ++ value

section Parse

variable {case key : String} (whole : '=' ∉ case.toList) (some : key ≠ "")
  (plain : '|' ∉ key.toList)

include whole

theorem parts_aboutPackage (argument : String) :
    parts (aboutPackage case argument) =
      let (key, value) := match Text.splitFirst "|" argument with
        | .some (key, value) => (key, .some value)
        | none => (argument, none)
      if key = "" then .error (.emptyKey (aboutPackage case argument))
      else .ok ⟨false, "PKG", case, key, value⟩ := by
  -- The first `=` ends the case and the first `_` the kind, so neither is sought in the argument.
  have ends : Text.splitFirst "=" (aboutPackage case argument) =
      .some ("PKG_" ++ case, argument) :=
    Text.splitFirst_append '=' ("PKG_" ++ case) argument (by simp [whole])
  have positive : Text.withoutPrefix "!" ("PKG_" ++ case) = none := by
    rw [Option.eq_none_iff_forall_ne_some]
    intro rest found
    have heads := congrArg String.toList ((Text.withoutPrefix_eq_some_iff _ _ _).1 found)
    simp at heads
  have kind : Text.splitFirst "_" ("PKG_" ++ case) = .some ("PKG", case) :=
    Text.splitFirst_append '_' "PKG" case (by decide)
  cases cut : Text.splitFirst "|" argument <;> simp [parts, ends, positive, kind, cut]

include some plain

theorem parse_aboutPackage :
    parse (aboutPackage case key) =
      (packageCheck? (aboutPackage case key) case none).map fun check? =>
        ⟨aboutPackage case key, false,
          (check?.map (Predicate.package key)).getD (.unrecognized "PKG" case)⟩ := by
  have uncut : Text.splitFirst "|" key = none := Text.splitFirst_of_notMem '|' key plain
  rw [parse, parts_aboutPackage whole, uncut]
  simp only [some, if_false, bind, Except.bind, Parts.predicate]
  cases packageCheck? (aboutPackage case key) case none <;> rfl

theorem parse_aboutPackage_keyed (value : String) :
    parse (aboutPackage case (keyed key value)) =
      (packageCheck? (aboutPackage case (keyed key value)) case (.some value)).map fun check? =>
        ⟨aboutPackage case (keyed key value), false,
          (check?.map (Predicate.package key)).getD (.unrecognized "PKG" case)⟩ := by
  have cut : Text.splitFirst "|" (keyed key value) = .some (key, value) :=
    Text.splitFirst_append '|' key value plain
  rw [parse, parts_aboutPackage whole, cut]
  simp only [some, if_false, bind, Except.bind, Parts.predicate]
  cases packageCheck? (aboutPackage case (keyed key value)) case (.some value) <;> rfl

end Parse

end Rule

def Context.judge (context : Context) (text : String) : Except RuleError Outcome :=
  (Rule.parse text).map context.outcome

section Judge

variable (context : Context) {case key : String} (whole : '=' ∉ case.toList) (some : key ≠ "")
  (plain : '|' ∉ key.toList) {check : PackageCheck}

include whole some plain

theorem judge_aboutPackage
    (read : Rule.packageCheck? (Rule.aboutPackage case key) case none = .ok (.some check)) :
    context.judge (Rule.aboutPackage case key) = .ok (context.checkPackage key check) := by
  rw [Context.judge, Rule.parse_aboutPackage whole some plain, read]
  rfl

theorem judge_aboutPackage_keyed (value : String)
    (read : Rule.packageCheck? (Rule.aboutPackage case (Rule.keyed key value)) case (.some value) =
      .ok (.some check)) :
    context.judge (Rule.aboutPackage case (Rule.keyed key value)) =
      .ok (context.checkPackage key check) := by
  rw [Context.judge, Rule.parse_aboutPackage_keyed whole some plain, read]
  rfl

end Judge

theorem storedRecord_of_storable (record : PackageRecord) (storable : record.Storable) :
    storedRecord record .installed = .ok record.installedView := by
  obtain ⟨afterDesc, afterFiles, afterDepends, desc, files, depends, install⟩ :=
    installed_files_give_back_record record storable
  simp only [storedRecord, EntryText.ofRecord, desc, files, depends, Decoded.result, bind,
    Except.bind, install]
  rfl

def PackageCheck.Fits (record : PackageRecord) : PackageCheck → Prop
  | .installed => True
  | .modified => False
  | .version expected => expected = record.version
  | .group wanted => wanted ∈ record.groups
  | .dependsOn package => package ∈ record.depends
  | .requiredBy package => package ∈ record.requiredBy
  | .reason expected => expected = record.reason
  | .file path =>
      Text.endsWithChar '/' path = false ∧ ∃ entry ∈ record.files, filenameOf entry = path
  | .backup path => ∃ entry ∈ record.backup, entry.path = path

instance PackageCheck.decidableFits (record : PackageRecord) :
    (check : PackageCheck) → Decidable (check.Fits record)
  | .installed => inferInstanceAs (Decidable True)
  | .modified => inferInstanceAs (Decidable False)
  | .version expected => inferInstanceAs (Decidable (expected = record.version))
  | .group wanted => inferInstanceAs (Decidable (wanted ∈ record.groups))
  | .dependsOn package => inferInstanceAs (Decidable (package ∈ record.depends))
  | .requiredBy package => inferInstanceAs (Decidable (package ∈ record.requiredBy))
  | .reason expected => inferInstanceAs (Decidable (expected = record.reason))
  | .file path => inferInstanceAs (Decidable (Text.endsWithChar '/' path = false ∧
      ∃ entry ∈ record.files, filenameOf entry = path))
  | .backup path => inferInstanceAs (Decidable (∃ entry ∈ record.backup, entry.path = path))

theorem Outcome.ofBool_eq_of_iff {holds : Bool} {fits : Prop} [Decidable fits]
    (same : holds = true ↔ fits) : Outcome.ofBool holds = .ofBool (decide fits) := by
  cases holds <;> simp_all

theorem Context.checkPackage_eq (context : Context) (record : PackageRecord)
    {repository : Repository} {snapshot : Snapshot}
    (found : context.localEntry record.name =
      some (repository, ⟨record.installedView, snapshot⟩))
    (reference : repository.reference? record.name = some snapshot) (check : PackageCheck) :
    context.checkPackage record.name check = .ofBool (decide (check.Fits record)) := by
  have unmodified : repository.isModified record.name snapshot = false := by
    rw [Repository.isModified, reference]
    exact snapshot.not_isModified_self
  have listed := mem_storedFiles record.files
  rw [checkPackage, found]
  cases check with
  | installed => rfl
  | modified =>
      simp only [reference, unmodified]
      rfl
  | version expected => exact Outcome.ofBool_eq_of_iff (beq_iff_eq.trans eq_comm)
  | group wanted => exact Outcome.ofBool_eq_of_iff List.contains_iff_mem
  | dependsOn package => exact Outcome.ofBool_eq_of_iff List.contains_iff_mem
  | requiredBy package => exact Outcome.ofBool_eq_of_iff List.contains_iff_mem
  | reason expected => exact Outcome.ofBool_eq_of_iff (beq_iff_eq.trans eq_comm)
  | file path => exact Outcome.ofBool_eq_of_iff (List.contains_iff_mem.trans (listed path))
  | backup path =>
      refine Outcome.ofBool_eq_of_iff ?_
      simp [PackageRecord.hasBackup, PackageRecord.installedView, PackageCheck.Fits]

/-- After the first write of a package that an installed system can represent, its rules are
decided by the record. -/
theorem package_rules_tell_what_was_written (repository repository' : Repository)
    (record : PackageRecord) (snapshot : Snapshot) (disk later : Disk) (context : Context)
    (storable : record.Storable) (some : record.name ≠ "") (bar : '|' ∉ record.name.toList)
    (name : '/' ∉ record.name.toList) (version : '/' ∉ record.version.toList)
    (hyphen : record.version.toList.count '-' = 1) (installed : repository.isLocal = true)
    (settled : repository.Settled disk) (vacant : repository.Vacant disk record.dbname)
    (unclaimed : repository.Unclaimed disk record.name)
    (written : repository.write record disk = .ok (repository', snapshot) later)
    (tree : context.disk.tree = later.tree)
    (workingDirectory : context.disk.workingDirectory = later.workingDirectory)
    (held : context.repositories.find? Repository.localName = .some repository')
    (value : String) :
    context.judge (Rule.aboutPackage "EXIST" record.name) = .ok .success ∧
    context.judge (Rule.aboutPackage "MODIFIED" record.name) = .ok .failure ∧
    context.judge (Rule.aboutPackage "VERSION" (Rule.keyed record.name value)) =
      .ok (.ofBool (decide (value = record.version))) ∧
    context.judge (Rule.aboutPackage "GROUPS" (Rule.keyed record.name value)) =
      .ok (.ofBool (decide (value ∈ record.groups))) ∧
    context.judge (Rule.aboutPackage "DEPENDS" (Rule.keyed record.name value)) =
      .ok (.ofBool (decide (value ∈ record.depends))) ∧
    context.judge (Rule.aboutPackage "REQUIREDBY" (Rule.keyed record.name value)) =
      .ok (.ofBool (decide (value ∈ record.requiredBy))) ∧
    (∀ number, Numeral.int32? (Text.trim value) = .some number →
      context.judge (Rule.aboutPackage "REASON" (Rule.keyed record.name value)) =
        .ok (.ofBool (decide (number = record.reason)))) ∧
    context.judge (Rule.aboutPackage "FILES" (Rule.keyed record.name value)) =
      .ok (.ofBool (decide (Text.endsWithChar '/' value = false ∧
        ∃ entry ∈ record.files, filenameOf entry = value))) ∧
    context.judge (Rule.aboutPackage "BACKUP" (Rule.keyed record.name value)) =
      .ok (.ofBool (decide (∃ entry ∈ record.backup, entry.path = value))) := by
  have kind : repository.kind = .installed := by simp [Repository.kind, installed]
  obtain ⟨rfl, -, -, -, -, read⟩ :=
    read_of_first_write (isName_dbname record name version) hyphen settled vacant unclaimed written
  have entry : context.localEntry record.name =
      .some (repository.remember record.name snapshot, ⟨record.installedView, snapshot⟩) := by
    -- The clock may have gone on since the write, which reading does not notice.
    have stored := read context.disk tree workingDirectory
    rw [kind, storedRecord_of_storable record storable] at stored
    have same : (repository.remember record.name snapshot).read context.disk record.name = _ :=
      stored
    rw [Context.localEntry, held]
    simp only [same, Except.map]
  have checked := context.checkPackage_eq record entry (reference?_remember _ _ _)
  have bare : ∀ (case : String) (check : PackageCheck), '=' ∉ case.toList →
      Rule.packageCheck? (Rule.aboutPackage case record.name) case none = .ok (.some check) →
      context.judge (Rule.aboutPackage case record.name) =
        .ok (.ofBool (decide (check.Fits record))) := by
    intro case check whole known
    rw [judge_aboutPackage context whole some bar known, checked]
  have keyed : ∀ (case : String) (check : PackageCheck), '=' ∉ case.toList →
      Rule.packageCheck? (Rule.aboutPackage case (Rule.keyed record.name value)) case
        (.some value) = .ok (.some check) →
      context.judge (Rule.aboutPackage case (Rule.keyed record.name value)) =
        .ok (.ofBool (decide (check.Fits record))) := by
    intro case check whole known
    rw [judge_aboutPackage_keyed context whole some bar value known, checked]
  refine ⟨bare "EXIST" .installed (by decide) rfl, bare "MODIFIED" .modified (by decide) rfl,
    keyed "VERSION" (.version value) (by decide) rfl,
    keyed "GROUPS" (.group value) (by decide) rfl,
    keyed "DEPENDS" (.dependsOn value) (by decide) rfl,
    keyed "REQUIREDBY" (.requiredBy value) (by decide) rfl, ?_,
    keyed "FILES" (.file value) (by decide) rfl,
    keyed "BACKUP" (.backup value) (by decide) rfl⟩
  intro number numeral
  have integer : Rule.packageCheck? (Rule.aboutPackage "REASON" (Rule.keyed record.name value))
      "REASON" (.some value) = .ok (.some (.reason number)) := by
    simp only [Rule.packageCheck?, Rule.required, Rule.integer, numeral, bind, Except.bind]
    rfl
  exact keyed "REASON" (.reason number) (by decide) integer

def contextOf (disk : Disk) (repository : Repository) : Context where
  disk := disk
  root := ⟨""⟩
  layout := {}
  exitCode := 0
  repositories := NameMap.empty.insert Repository.localName repository
  tracked := []

theorem find?_contextOf (disk : Disk) (repository : Repository) :
    (contextOf disk repository).repositories.find? Repository.localName = some repository := by
  rw [contextOf, NameMap.find?_insert, if_pos rfl]

def separatedRecord : PackageRecord where
  name := "a=b_c"
  version := "1.0|2-1"
  groups := ["base|x=y"]
  depends := ["bar>=1", "!_|="]
  reason := -1
  files := ["usr/bin/", "usr/bin/foo -> bar", "etc/foo*"]
  backup := [⟨"etc/foo", "0a"⟩]
  scriptlets := { postInstall := "echo" }

theorem storable_separatedRecord : separatedRecord.Storable := by
  constructor <;> decide

theorem package_rules_tell_what_was_written_separatedRecord :
    separatedRecord.Storable ∧ installedRepository.Settled newDisk ∧
    installedRepository.Vacant newDisk separatedRecord.dbname ∧
    installedRepository.Unclaimed newDisk separatedRecord.name ∧
    ∃ repository' snapshot later,
      installedRepository.write separatedRecord newDisk = .ok (repository', snapshot) later ∧
      (contextOf later repository').judge "PKG_VERSION=a=b_c|1.0|2-1" = .ok .success ∧
      (contextOf later repository').judge "PKG_DEPENDS=a=b_c|1.0|2-1" = .ok .failure ∧
      (contextOf later repository').judge "PKG_MODIFIED=a=b_c" = .ok .failure := by
  have vacant : installedRepository.Vacant newDisk separatedRecord.dbname :=
    vacant_of_notFound (by decide +kernel)
  have unclaimed := unclaimed_newDisk separatedRecord.name
  have succeeds : Operation.succeeds (installedRepository.write separatedRecord) newDisk =
      true := by decide +kernel
  obtain ⟨⟨repository', snapshot⟩, later, written⟩ := (Operation.succeeds_iff _).1 succeeds
  obtain ⟨-, modified, version, -, depends, -⟩ := package_rules_tell_what_was_written
    installedRepository repository' separatedRecord snapshot newDisk later
    (contextOf later repository') storable_separatedRecord (by decide) (by decide) (by decide)
    (by decide) (by decide) (by decide) settled_newDisk vacant unclaimed written rfl rfl
    (find?_contextOf later repository') "1.0|2-1"
  exact ⟨storable_separatedRecord, settled_newDisk, vacant, unclaimed, repository', snapshot, later,
    written, version, depends, modified⟩

def waylessDisk : Disk where
  tree := {
    nodes := [
      (["desc", "foo-0.9-1", "local", "db"],
        ⟨.file (.ofText "%NAME%\nfoo\n\n%VERSION%\n0.9-1\n\n"), .madeAt 1⟩),
      (["foo-0.9-1", "local", "db"], ⟨.directory, .madeAt 1⟩),
      (["local", "db"], ⟨.directory, .madeAt 1⟩), (["db"], ⟨.directory, .madeAt 1⟩),
      ([], ⟨.directory, .madeAt 1⟩)]
    rooted := by decide
    distinct := by decide
    nested := by decide }
  now := 2

def waylessRepository : Repository := .ofName "local" ⟨""⟩ { dbpath := "x/../db" }

/-- As long as `x` is missing, the database looks empty. The write makes `x`, and the rules are
decided by the older entry. -/
theorem package_rules_do_not_tell_what_was_written_through_missing_directory :
    (PackageRecord.bare "foo" "1.0-1").Storable ∧ waylessRepository.isLocal = true ∧
    waylessRepository.Vacant waylessDisk (PackageRecord.bare "foo" "1.0-1").dbname ∧
    waylessRepository.Unclaimed waylessDisk "foo" ∧
    ∃ repository' snapshot later,
      waylessRepository.write (.bare "foo" "1.0-1") waylessDisk =
        .ok (repository', snapshot) later ∧
      (contextOf later repository').judge "PKG_VERSION=foo|1.0-1" = .ok .failure ∧
      (contextOf later repository').judge "PKG_MODIFIED=foo" = .ok .success := by
  have storable : (PackageRecord.bare "foo" "1.0-1").Storable := by
    constructor <;> decide
  have run : Operation.succeedsWith (fun written later =>
      decide ((contextOf later written.1).judge "PKG_VERSION=foo|1.0-1" = .ok .failure) &&
        decide ((contextOf later written.1).judge "PKG_MODIFIED=foo" = .ok .success))
      (waylessRepository.write (.bare "foo" "1.0-1")) waylessDisk = true := by
    decide +kernel
  obtain ⟨⟨repository', snapshot⟩, later, written, judged⟩ :=
    (Operation.succeedsWith_iff _ _).1 run
  rw [Bool.and_eq_true, decide_eq_true_iff, decide_eq_true_iff] at judged
  refine ⟨storable, by decide, vacant_of_notFound (by decide +kernel),
    unclaimed_of_nil (by decide +kernel) "foo", ?_⟩
  exact ⟨repository', snapshot, later, written, judged.1, judged.2⟩

end PackageAssay

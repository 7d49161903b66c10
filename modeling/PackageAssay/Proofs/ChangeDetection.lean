import PackageAssay.Proofs.Baselines
import PackageAssay.Proofs.PackageRules
import PackageAssay.Proofs.RuleGrammar

set_option autoImplicit false

namespace PackageAssay

/-- No file has the times of a missing one. -/
def FileTree.Dated (tree : FileTree) : Prop :=
  ∀ location node, tree.find? location = some node → node.body.isFile = true →
    node.times.content ≠ FileTimes.content {}

namespace Disk

def UpToDate (disk : Disk) : Prop :=
  ∀ location node, disk.tree.find? location = some node → node.body.isFile = true →
    node.times.changed ≤ disk.now

/-- A file is there on one of two disks alone, or on both and was written in between. -/
def FileChanged (disk : Disk) (written : List Location) (later : Disk) (path : Path) : Prop :=
  disk.isFile path ≠ later.isFile path ∨
    disk.isFile path = true ∧ later.isFile path = true ∧
      ∃ location ∈ written, later.locate .target path = .ok location

theorem Records.content_ne_iff {disk later : Disk} {written : List Location} {path : Path}
    {location : Location} (records : disk.Records written later) (upToDate : disk.UpToDate)
    (dated : disk.tree.Dated) (laterDated : later.tree.Dated)
    (spots : disk.Spots path location) (laterSpots : later.Spots path location) :
    (disk.tree.timesAt location).content ≠ (later.tree.timesAt location).content ↔
      disk.FileChanged written later path := by
  rw [FileChanged, spots.isFile, laterSpots.isFile, laterSpots.located, FileTree.timesAt,
    FileTree.timesAt]
  -- A file that is there at one of the two moments has other times than a missing one.
  cases before : disk.tree.find? location with
  | none =>
      cases after : later.tree.find? location with
      | none => simp
      | some node =>
          have some := laterDated location node after (laterSpots.regular node after)
          simpa using some.symm
  | some old =>
      have oldFile := spots.regular old before
      cases after : later.tree.find? location with
      | none => simpa using dated location old before oldFile
      | some node =>
          have file := laterSpots.regular node after
          -- A file that is there both times got a later time, or it kept the one it had.
          by_cases member : location ∈ written
          · have newer := records.newer location node after file member
            have older := upToDate location old before oldFile
            have apart : old.times.content ≠ node.times.content := by
              intro same
              have same : old.times.changed = node.times.changed := congrArg Prod.snd same
              rw [same] at older
              exact absurd newer (Int64.not_lt.2 older)
            simpa [member] using apart
          · obtain ⟨first, there, -, times⟩ := records.others location node after file member
            rw [before] at there
            cases there
            simp [member, times]

end Disk

theorem isModified_iff_fileChanged {repository : Repository} {disk later : Disk}
    {written : List Location} {name directory : String} {old new : DatabaseEntry}
    (linkless : disk.tree.Linkless) (upToDate : disk.UpToDate) (dated : disk.tree.Dated)
    (laterDated : later.tree.Dated) (records : disk.Records written later)
    (isEntry : repository.IsEntry disk name directory)
    (laterEntry : repository.IsEntry later name directory)
    (before : repository.read disk name = .ok (some old))
    (after : repository.read later name = .ok (some new)) :
    old.snapshot.isModified new.snapshot = true ↔ ∃ key : SectionKey,
      disk.FileChanged written later ((repository.directory.join directory).join key.fileName) := by
  have laterLinkless := records.linkless linkless
  obtain ⟨place, reaches, files⟩ := Repository.spots_of_read linkless isEntry before
  obtain ⟨other, laterReaches, laterFiles⟩ :=
    Repository.spots_of_read laterLinkless laterEntry after
  -- Without links the path of the entry leads to the same place all the time.
  have same : other = place :=
    reaches.same_place linkless laterLinkless records.workingDirectory laterReaches
  subst same
  rw [Snapshot.isModified_iff]
  apply exists_congr
  intro key
  obtain ⟨spots, times⟩ := files key
  obtain ⟨laterSpots, laterTimes⟩ := laterFiles key
  rw [Snapshot.sectionChanged_iff, times, laterTimes]
  exact records.content_ne_iff upToDate dated laterDated spots laterSpots

section Judge

variable (context : Context) {name : String} (some : name ≠ "") (bar : '|' ∉ name.toList)

include some bar

theorem judge_modified :
    context.judge ("PKG_MODIFIED=" ++ name) = .ok (context.checkPackage name .modified) := by
  have whole : '=' ∉ "MODIFIED".toList := by decide
  exact judge_aboutPackage context whole some bar rfl

theorem judge_not_modified :
    context.judge ("!PKG_MODIFIED=" ++ name) =
      .ok (context.checkPackage name .modified).negate := by
  have apart : Rule.Parts.Apart ⟨true, "PKG", "MODIFIED", name, none⟩ :=
    ⟨by simp, by simp, bar, by simp⟩
  have parsed := Rule.parse_of_key apart some
  rw [show Rule.Parts.text ⟨true, "PKG", "MODIFIED", name, none⟩ = "!PKG_MODIFIED=" ++ name
    from rfl] at parsed
  rw [Context.judge, parsed]
  rfl

end Judge

theorem Context.checkPackage_modified (context : Context) {name : String}
    {repository : Repository} {entry : DatabaseEntry}
    (found : context.localEntry name = some (repository, entry)) :
    context.checkPackage name .modified =
      match repository.reference? name with
      | none => .skipped
      | some old => .ofBool (old.isModified entry.snapshot) := by
  rw [checkPackage, found]
  simp only [Repository.isModified]
  cases repository.reference? name <;> rfl

/-- Against a baseline, the rule that a package is modified holds if and only if a file of its
entry changed, as long as the package is read from the same directory. The rule and its negation
are passed over for a package that the baseline does not know. -/
theorem modified_rules_tell_what_changed (repository : Repository) (disk later : Disk)
    (root : Path) (files : List String) (baseline : Baseline) (written : List Location)
    (context : Context) (name : String) (entry : DatabaseEntry)
    (linkless : disk.tree.Linkless) (dated : disk.tree.Dated) (upToDate : disk.UpToDate)
    (captured : Baseline.capture disk repository root files = .ok baseline)
    (runs : disk.Runs written later) (laterDated : later.tree.Dated)
    (tree : context.disk.tree = later.tree)
    (workingDirectory : context.disk.workingDirectory = later.workingDirectory)
    (held : context.repositories.find? Repository.localName =
      some (baseline.restore { repository with references := .empty }))
    (read : repository.read context.disk name = .ok (some entry))
    (some : name ≠ "") (bar : '|' ∉ name.toList) :
    (∀ directory, repository.IsEntry disk name directory →
      repository.IsEntry context.disk name directory →
      (context.judge ("PKG_MODIFIED=" ++ name) = .ok .success ↔ ∃ key : SectionKey,
        disk.FileChanged written context.disk
          ((repository.directory.join directory).join key.fileName)) ∧
      (context.judge ("PKG_MODIFIED=" ++ name) = .ok .failure ↔ ¬ ∃ key : SectionKey,
        disk.FileChanged written context.disk
          ((repository.directory.join directory).join key.fileName))) ∧
    (baseline.packages.find? name = none →
      context.judge ("PKG_MODIFIED=" ++ name) = .ok .skipped ∧
      context.judge ("!PKG_MODIFIED=" ++ name) = .ok .skipped) := by
  have records := runs.records.of_same tree workingDirectory
  have reads : (baseline.restore { repository with references := .empty }).read context.disk name =
      .ok (.some entry) :=
    (Repository.read_congr (Baseline.directory_restore _ _) _ _).trans read
  have found : context.localEntry name =
      .some (baseline.restore { repository with references := .empty }, entry) := by
    rw [Context.localEntry, held]
    simp only [reads]
  have checked := context.checkPackage_modified found
  have reference := baseline.reference?_restore { repository with references := .empty } name
  rw [judge_modified context some bar, judge_not_modified context some bar, checked, reference]
  constructor
  · intro directory isEntry laterEntry
    -- The snapshot that is compared with is the one of the read at the time of the capture.
    obtain ⟨old, before, kept⟩ := Baseline.exists_kept_of_isEntry captured isEntry
    rw [kept, ← isModified_iff_fileChanged linkless upToDate dated (tree ▸ laterDated) records
      isEntry laterEntry before read]
    dsimp only [Option.or]
    cases old.snapshot.isModified entry.snapshot <;> decide
  · intro unknown
    rw [unknown]
    exact ⟨rfl, rfl⟩

namespace Disk

def rewriteAt (disk : Disk) (time : Int64) (location : Location) : Disk :=
  { disk with now := time, tree := disk.tree.setContent location (.ofText "") time }

theorem Runs.rewriteAt {disk middle : Disk} {written : List Location}
    (runs : disk.Runs written middle) (time : Int64) (location : Location)
    (newer : middle.now < time)
    (file : (middle.tree.body? location).any NodeBody.isFile = true) :
    disk.Runs (location :: written) (middle.rewriteAt time location) := by
  obtain ⟨body, held, isFile⟩ := (Option.any_eq_true _ _).1 file
  cases body with
  | file old => exact .step runs newer (.rewrite (.ofText "") held)
  | directory | link => cases isFile

end Disk

/-- The clock has not come to zero yet. -/
def threeEntryDisk : Disk where
  tree := {
    nodes := [
      (["desc", "foo-1-1", "local", "db"], ⟨.file (.ofText ""), .madeAt (-1)⟩),
      (["desc", "a|b-1-1", "local", "db"], ⟨.file (.ofText ""), .madeAt (-1)⟩),
      (["desc", "-1-1", "local", "db"], ⟨.file (.ofText ""), .madeAt (-1)⟩),
      (["foo-1-1", "local", "db"], ⟨.directory, .madeAt (-1)⟩),
      (["a|b-1-1", "local", "db"], ⟨.directory, .madeAt (-1)⟩),
      (["-1-1", "local", "db"], ⟨.directory, .madeAt (-1)⟩),
      (["local", "db"], ⟨.directory, .madeAt (-1)⟩), (["db"], ⟨.directory, .madeAt (-1)⟩),
      ([], ⟨.directory, .madeAt (-1)⟩)]
    rooted := by decide
    distinct := by decide
    nested := by decide }
  now := -1

theorem linkless_threeEntryDisk : threeEntryDisk.tree.Linkless :=
  FileTree.linkless_of_nodes (by decide)

theorem dated_threeEntryDisk : threeEntryDisk.tree.Dated := fun _ _ found _ =>
  FileTree.fits_of_nodes (fun node => node.times.content ≠ FileTimes.content {}) (by decide) found

theorem upToDate_threeEntryDisk : threeEntryDisk.UpToDate := fun _ _ found _ =>
  FileTree.fits_of_nodes (fun node => node.times.changed ≤ threeEntryDisk.now) (by decide) found

def threeEntryBaseline : Baseline :=
  (Baseline.capture threeEntryDisk installedRepository ⟨""⟩ []).toOption.getD {}

theorem capture_threeEntryDisk :
    Baseline.capture threeEntryDisk installedRepository ⟨""⟩ [] = .ok threeEntryBaseline := by
  apply eq_ok_getD
  decide +kernel

def descOf (directory : String) : Location := ["desc", directory, "local", "db"]

def rewrittenDisk : Disk := threeEntryDisk.rewriteAt 1 (descOf "foo-1-1")

theorem runs_rewrittenDisk : threeEntryDisk.Runs [descOf "foo-1-1"] rewrittenDisk :=
  Disk.Runs.start.rewriteAt 1 (descOf "foo-1-1") (by decide) (by decide)

theorem dated_rewrittenDisk : rewrittenDisk.tree.Dated := fun _ _ found _ =>
  FileTree.fits_of_nodes (fun node => node.times.content ≠ FileTimes.content {}) (by decide) found

theorem modified_rules_tell_what_changed_rewrittenDisk :
    threeEntryDisk.tree.Linkless ∧ threeEntryDisk.tree.Dated ∧ threeEntryDisk.UpToDate ∧
    Baseline.capture threeEntryDisk installedRepository ⟨""⟩ [] = .ok threeEntryBaseline ∧
    threeEntryDisk.Runs [descOf "foo-1-1"] rewrittenDisk ∧ rewrittenDisk.tree.Dated ∧
    (∃ entry, installedRepository.read rewrittenDisk "foo" = .ok (some entry)) ∧
    (contextOf rewrittenDisk (threeEntryBaseline.restore installedRepository)).judge
      "PKG_MODIFIED=foo" = .ok .success := by
  have found : ∃ entry, installedRepository.read rewrittenDisk "foo" = .ok (some entry) :=
    exists_eq_ok_some (by decide +kernel)
  obtain ⟨entry, read⟩ := found
  have rules := modified_rules_tell_what_changed installedRepository threeEntryDisk rewrittenDisk
    ⟨""⟩ [] threeEntryBaseline [descOf "foo-1-1"]
    (contextOf rewrittenDisk (threeEntryBaseline.restore installedRepository)) "foo" entry
    linkless_threeEntryDisk dated_threeEntryDisk upToDate_threeEntryDisk capture_threeEntryDisk
    runs_rewrittenDisk dated_rewrittenDisk rfl rfl (find?_contextOf _ _) read (by decide)
    (by decide)
  have before : installedRepository.IsEntry threeEntryDisk "foo" "foo-1-1" :=
    ⟨["foo-1-1", "a|b-1-1", "-1-1"], by decide +kernel, by decide +kernel⟩
  have after : installedRepository.IsEntry rewrittenDisk "foo" "foo-1-1" :=
    ⟨["foo-1-1", "a|b-1-1", "-1-1"], by decide +kernel, by decide +kernel⟩
  have changed : threeEntryDisk.FileChanged [descOf "foo-1-1"] rewrittenDisk
      ((installedRepository.directory.join "foo-1-1").join SectionKey.desc.fileName) :=
    .inr ⟨by decide +kernel, by decide +kernel, descOf "foo-1-1", by simp, by decide +kernel⟩
  exact ⟨linkless_threeEntryDisk, dated_threeEntryDisk, upToDate_threeEntryDisk,
    capture_threeEntryDisk, runs_rewrittenDisk, dated_rewrittenDisk, ⟨entry, read⟩,
    (rules.1 "foo-1-1" before after).1.2 ⟨.desc, changed⟩⟩

def filesOfFoo : Location := ["files", "foo-1-1", "local", "db"]

def createdDisk : Disk :=
  ({ threeEntryDisk with now := 0 }.make filesOfFoo (.file (.ofText ""))).toOption.getD default

def missedChanges : List Location := [descOf "-1-1", descOf "a|b-1-1", filesOfFoo]

def missedDisk : Disk := (createdDisk.rewriteAt 1 (descOf "a|b-1-1")).rewriteAt 2 (descOf "-1-1")

theorem runs_missedDisk : threeEntryDisk.Runs missedChanges missedDisk := by
  have created : { threeEntryDisk with now := 0 }.make filesOfFoo (.file (.ofText "")) =
      .ok createdDisk := by
    apply eq_ok_getD
    decide
  have first : threeEntryDisk.Runs [filesOfFoo] createdDisk :=
    .step .start (by decide) (.create created)
  have second := first.rewriteAt 1 (descOf "a|b-1-1") (by decide) (by decide)
  exact second.rewriteAt 2 (descOf "-1-1") (by decide) (by decide)

/-- Three entries change, and no rule tells. In the text of a rule a bar ends the name, and an empty
name is refused. A file that was made at time zero looks like a missing one. -/
theorem modified_rules_miss_changes :
    threeEntryDisk.tree.Linkless ∧ threeEntryDisk.tree.Dated ∧ threeEntryDisk.UpToDate ∧
    Baseline.capture threeEntryDisk installedRepository ⟨""⟩ [] = .ok threeEntryBaseline ∧
    threeEntryDisk.Runs missedChanges missedDisk ∧
    (∀ entry ∈ [("a|b", "a|b-1-1"), ("", "-1-1"), ("foo", "foo-1-1")],
      installedRepository.IsEntry threeEntryDisk entry.1 entry.2 ∧
      installedRepository.IsEntry missedDisk entry.1 entry.2 ∧
      (∃ found, installedRepository.read missedDisk entry.1 = .ok (some found)) ∧
      ∃ key : SectionKey, threeEntryDisk.FileChanged missedChanges missedDisk
        ((installedRepository.directory.join entry.2).join key.fileName)) ∧
    (contextOf missedDisk (threeEntryBaseline.restore installedRepository)).judge
      "PKG_MODIFIED=a|b" = .ok .failure ∧
    (contextOf missedDisk (threeEntryBaseline.restore installedRepository)).judge
      "PKG_MODIFIED=" = .error (.emptyKey "PKG_MODIFIED=") ∧
    (contextOf missedDisk (threeEntryBaseline.restore installedRepository)).judge
      "PKG_MODIFIED=foo" = .ok .failure := by
  have reads : ∀ entry ∈ [("a|b", "a|b-1-1"), ("", "-1-1"), ("foo", "foo-1-1")],
      (installedRepository.read missedDisk entry.1).toOption.join.isSome = true := by
    decide +kernel
  have rewritten : ∀ directory ∈ ["a|b-1-1", "-1-1"],
      threeEntryDisk.FileChanged missedChanges missedDisk
        ((installedRepository.directory.join directory).join SectionKey.desc.fileName) := by
    intro directory member
    refine .inr ⟨?_, ?_, descOf directory, ?_, ?_⟩ <;> revert directory <;> decide +kernel
  have created : threeEntryDisk.FileChanged missedChanges missedDisk
      ((installedRepository.directory.join "foo-1-1").join SectionKey.files.fileName) :=
    .inl (by decide +kernel)
  refine ⟨linkless_threeEntryDisk, dated_threeEntryDisk, upToDate_threeEntryDisk,
    capture_threeEntryDisk, runs_missedDisk, ?_, by decide +kernel, by decide +kernel,
    by decide +kernel⟩
  intro entry member
  refine ⟨⟨["foo-1-1", "a|b-1-1", "-1-1"], by decide +kernel, ?_⟩,
    ⟨["foo-1-1", "a|b-1-1", "-1-1"], by decide +kernel, ?_⟩, exists_eq_ok_some (reads entry member),
    ?_⟩
  · revert entry
    decide +kernel
  · revert entry
    decide +kernel
  · simp only [List.mem_cons, List.not_mem_nil, or_false] at member
    rcases member with rfl | rfl | rfl
    · exact ⟨.desc, rewritten _ (by simp)⟩
    · exact ⟨.desc, rewritten _ (by simp)⟩
    · exact ⟨.files, created⟩

end PackageAssay

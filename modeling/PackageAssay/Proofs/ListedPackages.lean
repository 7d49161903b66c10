import PackageAssay.Proofs.Baselines
import PackageAssay.Proofs.ByteOrder
import PackageAssay.Proofs.StoreRefinement

set_option autoImplicit false

namespace PackageAssay

structure PackageRecord.SamePackage (record other : PackageRecord) : Prop where
  name : record.name = other.name
  version : record.version = other.version

theorem PackageRecord.SamePackage.refl (record : PackageRecord) : record.SamePackage record :=
  ⟨rfl, rfl⟩

theorem PackageRecord.SamePackage.trans {record middle other : PackageRecord}
    (first : record.SamePackage middle) (second : middle.SamePackage other) :
    record.SamePackage other :=
  ⟨first.name.trans second.name, first.version.trans second.version⟩

namespace Field

def KeepsPackage : Field → Prop
  | .scalar store => ∀ value record, (store value record).SamePackage record
  | .list store => ∀ items record, (store items record).SamePackage record
  | .integer store => ∀ value record, (store value record).SamePackage record
  | .smallInteger store => ∀ value record, (store value record).SamePackage record
  | .flag store => ∀ record, (store record).SamePackage record

theorem samePackage_of_fill {field : Field} (keeps : field.KeepsPackage) {file : SectionKey}
    {title : String} {lines : List String} {record filled : PackageRecord}
    (done : field.fill file title lines record = .ok filled) : filled.SamePackage record := by
  cases field with
  | scalar store | integer store | smallInteger store =>
      obtain ⟨value, -, rfl⟩ := (map_eq_ok_iff _ _ _).1 done
      exact keeps value record
  | list store =>
      cases done
      exact keeps _ record
  | flag store =>
      cases done
      exact keeps record

end Field

theorem samePackage_decodeLines {file : SectionKey} {fields : String → Option Field}
    (keep : ∀ title field, fields title = some field → field.KeepsPackage) (lines : List String)
    (record : PackageRecord) :
    (decodeLines file fields lines record).record.SamePackage record := by
  fun_induction decodeLines file fields lines record with
  | case1 record => exact .refl record
  | case2 line rest record other ih => exact ih
  | case3 line rest record title named unknown ih => exact ih
  | case4 line rest record title named field known error fails => exact .refl record
  | case5 line rest record title named field known filled fills ih =>
      exact ih.trans (Field.samePackage_of_fill (keep title field known) fills)

def KeepsPackage (decode : String → PackageRecord → Decoded) : Prop :=
  ∀ text record, (decode text record).record.SamePackage record

theorem keepsPackage_decodeDesc : KeepsPackage decodeDesc := by
  refine fun text record => samePackage_decodeLines ?_ (Text.lines text) record
  intro title field known
  unfold descField at known
  split at known <;> cases known <;> first | exact fun _ => ⟨rfl, rfl⟩ | exact fun _ _ => ⟨rfl, rfl⟩

theorem keepsPackage_decodeFiles : KeepsPackage decodeFiles := by
  refine fun text record => samePackage_decodeLines ?_ (Text.lines text) record
  intro title field known
  unfold filesField at known
  split at known <;> cases known <;> exact fun _ _ => ⟨rfl, rfl⟩

theorem keepsPackage_decodeDepends : KeepsPackage decodeDepends := by
  refine fun text record => samePackage_decodeLines ?_ (Text.lines text) record
  intro title field known
  unfold dependsField at known
  split at known <;> cases known <;> first | exact fun _ => ⟨rfl, rfl⟩ | exact fun _ _ => ⟨rfl, rfl⟩

theorem keepsPackage_decodeInstall :
    KeepsPackage fun text record => ⟨decodeInstall text record, none⟩ :=
  fun _ _ => ⟨rfl, rfl⟩

theorem Decoded.record_of_result {decoded : Decoded} {record : PackageRecord}
    (done : decoded.result = .ok record) : decoded.record = record := by
  rw [result] at done
  split at done
  · exact Except.ok.inj done
  · cases done

namespace Repository

section Sections

variable {disk : Disk} {directory : Path} {key : SectionKey}
  {decode : String → PackageRecord → Decoded} {before after : DatabaseEntry}
  (keeps : KeepsPackage decode)

include keeps

theorem samePackage_of_readSection
    (done : readSection disk directory key decode before = .ok after) :
    after.record.SamePackage before.record := by
  obtain ⟨text, -, decoded, -⟩ := of_readSection done
  rw [← Decoded.record_of_result decoded]
  exact keeps text before.record

theorem samePackage_of_readOptional
    (done : readOptional disk directory key decode before = .ok after) :
    after.record.SamePackage before.record := by
  unfold readOptional at done
  split at done
  · cases done
    exact .refl before.record
  · exact samePackage_of_readSection keeps done

end Sections

variable {repository : Repository} {disk : Disk} {name directory : String}

/-- A subdirectory of the repository, which is no file and no link. -/
def HasDirectory (repository : Repository) (disk : Disk) (directory : String) : Prop :=
  ∃ place, disk.locate .target repository.directory = .ok place ∧
    disk.tree.body? (directory :: place) = some .directory

theorem mem_entryDirectories_iff {directories : List String}
    (listed : repository.entryDirectories disk = .ok directories) (directory : String) :
    directory ∈ directories ↔ repository.HasDirectory disk directory := by
  -- A repository that is not there is listed as empty, and nothing is in it.
  cases located : disk.locate .target repository.directory with
  | error fault =>
      rw [entryDirectories, Disk.children, located] at listed
      cases fault <;> cases listed
      simp [HasDirectory, located]
  | ok place =>
      have inside : repository.HasDirectory disk directory ↔
          disk.tree.body? (directory :: place) = some .directory := by
        simp [HasDirectory, located]
      rw [inside]
      by_cases there : disk.tree.body? place = some .directory
      · obtain ⟨others, again, member⟩ := entryDirectories_of_locate located there
        rw [listed] at again
        cases again
        exact member directory
      · have absent : disk.tree.body? (directory :: place) ≠ some .directory :=
          fun found => there (FileTree.directory_of_child found)
        rw [entryDirectories, Disk.children, located] at listed
        cases body : disk.tree.body? place with
        | none =>
            simp only [bind, Except.bind, body] at listed
            cases listed
            simp [absent]
        | some other =>
            cases other with
            | directory => exact absurd body there
            | file content | link target =>
                simp only [bind, Except.bind, body] at listed
                cases listed

theorem exists_isEntry {directories : List String}
    (listed : repository.entryDirectories disk = .ok directories) (member : directory ∈ directories)
    (belongs : BelongsTo name directory) : ∃ first, repository.IsEntry disk name first := by
  have sorted := (pairwise_sortedNames directories).filter fun other =>
    decide (BelongsTo name other)
  have held (other : String) :
      other ∈ (sortedNames directories).filter (fun other => decide (BelongsTo name other)) ↔
        other ∈ directories ∧ BelongsTo name other := by
    rw [List.mem_filter, mem_sortedNames, decide_eq_true_iff]
  cases found : (sortedNames directories).filter fun other => decide (BelongsTo name other) with
  | nil =>
      have inside := (held directory).2 ⟨member, belongs⟩
      rw [found] at inside
      cases inside
  | cons first rest =>
      simp only [found] at sorted held
      obtain ⟨there, fits⟩ := (held first).1 List.mem_cons_self
      refine ⟨first, directories, listed, there, fits, fun other within otherFits => ?_⟩
      rcases List.mem_cons.1 ((held other).2 ⟨within, otherFits⟩) with rfl | later
      · exact String.le_refl other
      · exact Std.le_of_lt ((List.pairwise_cons.1 sorted).1 other later)

theorem IsEntry.least (isEntry : repository.IsEntry disk name directory) :
    repository.HasDirectory disk directory ∧ BelongsTo name directory ∧
      ∀ other, repository.HasDirectory disk other → BelongsTo name other → other ≠ directory →
        Text.BytesBefore directory other := by
  obtain ⟨directories, listed, member, belongs, least⟩ := isEntry
  have inside := mem_entryDirectories_iff listed
  refine ⟨(inside directory).1 member, belongs, fun other there fits apart => ?_⟩
  have before := least other ((inside other).2 there) fits
  exact Text.bytesBefore_of_lt (Std.lt_of_le_of_ne before (Ne.symm apart))

variable {names : List String}

theorem entryDirectories_of_list (listed : repository.list disk = .ok names) :
    ∃ directories, repository.entryDirectories disk = .ok directories ∧
      names = sortedNames (directories.filterMap fun directory =>
        (EntryName.parse? directory).map EntryName.name) := by
  simp only [list, bind_eq_ok_iff] at listed
  obtain ⟨directories, found, done⟩ := listed
  exact ⟨directories, found, (Except.ok.inj done).symm⟩

theorem mem_list_iff (listed : repository.list disk = .ok names) (name : String) :
    name ∈ names ↔ ∃ directory, repository.IsEntry disk name directory := by
  constructor
  · intro member
    obtain ⟨directories, found, rfl⟩ := entryDirectories_of_list listed
    obtain ⟨directory, within, named⟩ := List.mem_filterMap.1 ((mem_sortedNames _ _).1 member)
    exact exists_isEntry found within ((belongsTo_iff name directory).2 named)
  · rintro ⟨directory, isEntry⟩
    exact mem_list_of_isEntry isEntry listed

theorem read_of_unlisted (listed : repository.list disk = .ok names) (absent : name ∉ names) :
    repository.read disk name = .ok none := by
  obtain ⟨directories, found, -⟩ := entryDirectories_of_list listed
  have missing : repository.findEntry disk name = .ok none := by
    rw [findEntry, found]
    refine congrArg Except.ok (List.findSome?_eq_none_iff.2 fun directory sorted => ?_)
    have within := (mem_sortedNames directories directory).1 sorted
    cases parsed : EntryName.parse? directory with
    | none => rfl
    | some parts =>
        dsimp only
        rw [if_neg]
        intro named
        have belongs : BelongsTo name directory := ⟨parts, parsed, named⟩
        exact absent ((mem_list_iff listed name).2 (exists_isEntry found within belongs))
  rw [read, missing]
  rfl

theorem read_eq_none_iff (listed : repository.list disk = .ok names) (name : String) :
    repository.read disk name = .ok none ↔ name ∉ names := by
  refine ⟨fun nothing member => ?_, read_of_unlisted listed⟩
  obtain ⟨directory, isEntry⟩ := (mem_list_iff listed name).1 member
  exact Baseline.read_ne_none_of_isEntry isEntry nothing

theorem read_of_list_error {error : Error} (failed : repository.list disk = .error error)
    (name : String) : repository.read disk name = .error error := by
  cases found : repository.entryDirectories disk with
  | ok directories =>
      rw [list, found] at failed
      cases failed
  | error cause =>
      rw [list, found] at failed
      cases failed
      rw [read, findEntry, found]
      rfl

theorem exists_isEntry_of_read {entry : DatabaseEntry}
    (read : repository.read disk name = .ok (some entry)) :
    ∃ directory, repository.IsEntry disk name directory := by
  cases listed : repository.list disk with
  | error error =>
      rw [read_of_list_error listed] at read
      cases read
  | ok names =>
      rw [← mem_list_iff listed]
      by_contra absent
      rw [read_of_unlisted listed absent] at read
      cases read

theorem samePackage_of_read {entry : DatabaseEntry}
    (isEntry : repository.IsEntry disk name directory)
    (read : repository.read disk name = .ok (some entry)) :
    entry.record.name = name ∧ directory = name ++ "-" ++ entry.record.version := by
  obtain ⟨parts, parsed, here⟩ := findEntry_of_isEntry isEntry
  simp only [Repository.read, here, bind_eq_ok_iff, Except.ok.injEq, exists_eq_left'] at read
  obtain ⟨_, desc, _, files, _, depends, _, install, done⟩ := read
  cases done
  have same := (samePackage_of_readOptional keepsPackage_decodeInstall install).trans <|
    (samePackage_of_readOptional keepsPackage_decodeDepends depends).trans <|
    (samePackage_of_readOptional keepsPackage_decodeFiles files).trans <|
    samePackage_of_readSection keepsPackage_decodeDesc desc
  obtain ⟨_, _, _, ⟨others, again, named⟩, _⟩ := isEntry
  rw [parsed] at again
  cases again
  refine ⟨same.name, ?_⟩
  rw [same.version, ← named]
  exact EntryName.eq_of_parse? parsed

end Repository

theorem Baseline.list_of_capture {disk : Disk} {repository : Repository} {root : Path}
    {files : List String} {baseline : Baseline}
    (captured : capture disk repository root files = .ok baseline) :
    repository.list disk = .ok baseline.packages.names := by
  obtain ⟨names, entries, listed, -, -⟩ := exists_entries_of_capture captured
  rw [listed]
  obtain ⟨directories, -, sorted⟩ := Repository.entryDirectories_of_list listed
  have ordered : names.Pairwise (· < ·) := sorted ▸ pairwise_sortedNames _
  refine congrArg Except.ok (ordered.eq_of_mem_iff baseline.packages.ordered fun name => ?_)
  rw [Repository.mem_list_iff listed, NameMap.mem_names_iff]
  constructor
  · rintro ⟨directory, isEntry⟩
    obtain ⟨entry, -, kept⟩ := exists_kept_of_isEntry captured isEntry
    exact ⟨entry.snapshot, kept⟩
  · rintro ⟨snapshot, kept⟩
    obtain ⟨entry, read, -⟩ := exists_read_of_capture captured kept
    exact Repository.exists_isEntry_of_read read

/-- The packages that are listed are those that reading finds, each in the first of its
directories. Where listing fails, reading fails for every name, and a baseline holds what is
listed. -/
theorem listed_packages_are_read (repository : Repository) (disk : Disk) :
    (∀ error, repository.list disk = .error error →
      ∀ name, repository.read disk name = .error error) ∧
    (∀ names, repository.list disk = .ok names →
      names.Pairwise Text.BytesBefore ∧
      ∀ name, repository.read disk name = .ok none ↔ name ∉ names) ∧
    (∀ name entry, repository.read disk name = .ok (some entry) →
      entry.record.name = name ∧
      repository.HasDirectory disk (name ++ "-" ++ entry.record.version) ∧
      BelongsTo name (name ++ "-" ++ entry.record.version) ∧
      ∀ other, repository.HasDirectory disk other → BelongsTo name other →
        other ≠ name ++ "-" ++ entry.record.version →
        Text.BytesBefore (name ++ "-" ++ entry.record.version) other) ∧
    (∀ root files baseline, Baseline.capture disk repository root files = .ok baseline →
      repository.list disk = .ok baseline.packages.names) := by
  refine ⟨fun error failed => Repository.read_of_list_error failed, fun names listed => ?_,
    fun name entry read => ?_, fun root files baseline => Baseline.list_of_capture⟩
  · obtain ⟨directories, -, sorted⟩ := Repository.entryDirectories_of_list listed
    subst sorted
    exact ⟨(pairwise_sortedNames _).imp Text.bytesBefore_of_lt,
      Repository.read_eq_none_iff listed⟩
  · obtain ⟨directory, isEntry⟩ := Repository.exists_isEntry_of_read read
    obtain ⟨named, rfl⟩ := Repository.samePackage_of_read isEntry read
    exact ⟨named, isEntry.least⟩

/-- Two versions of one package and a package whose name begins alike, beside a file, a link and a
directory that belong to none. -/
def crowdedDisk : Disk where
  tree := {
    nodes := [
      (["desc", "foo-1.9-1", "local", "db"], ⟨.file (.ofText "%VERSION%\n3-3\n"), .madeAt 1⟩),
      (["desc", "foo-1.10-1", "local", "db"], ⟨.file (.ofText "%NAME%\nbar\n"), .madeAt 1⟩),
      (["desc", "foo-bar-1-1", "local", "db"], ⟨.file (.ofText ""), .madeAt 1⟩),
      (["foo-1.9-1", "local", "db"], ⟨.directory, .madeAt 1⟩),
      (["foo-bar-1-1", "local", "db"], ⟨.directory, .madeAt 1⟩),
      (["foo-1.10-1", "local", "db"], ⟨.directory, .madeAt 1⟩),
      (["file-1-1", "local", "db"], ⟨.file (.ofText ""), .madeAt 1⟩),
      (["link-1-1", "local", "db"], ⟨.link "foo-1.9-1", .madeAt 1⟩),
      (["notes", "local", "db"], ⟨.directory, .madeAt 1⟩),
      (["local", "db"], ⟨.directory, .madeAt 1⟩), (["db"], ⟨.directory, .madeAt 1⟩),
      ([], ⟨.directory, .madeAt 1⟩)]
    rooted := by decide
    distinct := by decide
    nested := by decide }
  now := 2

def fileRepository : Repository :=
  { installedRepository with directory := ⟨"db/local/file-1-1"⟩ }

theorem listed_packages_are_read_crowdedDisk :
    installedRepository.list crowdedDisk = .ok ["foo", "foo-bar"] ∧
    installedRepository.read crowdedDisk "link" = .ok none ∧
    (∃ entry, installedRepository.read crowdedDisk "foo" = .ok (some entry) ∧
      entry.record.name = "foo" ∧ entry.record.version = "1.10-1" ∧
      Text.BytesBefore "foo-1.10-1" "foo-1.9-1") ∧
    (∃ baseline, Baseline.capture crowdedDisk installedRepository ⟨""⟩ [] = .ok baseline ∧
      baseline.packages.names = ["foo", "foo-bar"]) ∧
    fileRepository.list crowdedDisk = .error (.file .notDirectory) ∧
    fileRepository.read crowdedDisk "foo" = .error (.file .notDirectory) := by
  obtain ⟨-, lists, reads, captures⟩ := listed_packages_are_read installedRepository crowdedDisk
  have listed : installedRepository.list crowdedDisk = .ok ["foo", "foo-bar"] := by decide
  have version : (installedRepository.read crowdedDisk "foo").map
      (Option.map fun entry => entry.record.version) = .ok (some "1.10-1") := by decide +kernel
  have captured : (Baseline.capture crowdedDisk installedRepository ⟨""⟩ []).isOk = true := by
    decide +kernel
  have failed : fileRepository.list crowdedDisk = .error (.file .notDirectory) := by
    decide
  refine ⟨listed, ((lists _ listed).2 "link").2 (by decide), ?_, ?_, failed,
    (listed_packages_are_read _ _).1 _ failed "foo"⟩
  · obtain ⟨found, read, seen⟩ := (map_eq_ok_iff _ _ _).1 version
    obtain ⟨entry, rfl, same⟩ := Option.map_eq_some_iff.1 seen
    obtain ⟨named, -, -, least⟩ := reads "foo" entry read
    rw [same] at least
    refine ⟨entry, read, named, same, least "foo-1.9-1" ?_ (by decide) (by decide)⟩
    exact ⟨["local", "db"], by decide, by decide⟩
  · have done := eq_ok_getD {} captured
    refine ⟨_, done, ?_⟩
    have again := captures _ _ _ done
    rw [listed] at again
    exact (Except.ok.inj again).symm

end PackageAssay

import PackageAssay.Proofs.EntryStore
import PackageAssay.Proofs.Snapshots

set_option autoImplicit false

namespace PackageAssay

theorem EntryFile.text_written (old : Option EntryFile) (text : String) (now : Int64) :
    (EntryFile.written old text now).text = text := by
  cases old <;> rfl

theorem EntryFiles.texts_fill (moments : Nat → Int64) (files : EntryFiles)
    (sections : List (SectionKey × String)) (once : (sections.map Prod.fst).Nodup)
    (key : SectionKey) :
    (files.fill moments sections).texts key = (sections.lookup key).or (files.texts key) := by
  cases found : sections.lookup key with
  | some text =>
      rw [texts, fill_of_mem _ _ _ once (mem_of_lookup_eq_some found), Option.map_some,
        EntryFile.text_written, Option.some_or]
  | none =>
      rw [texts, fill_of_notMem _ _ _ _ (lookup_eq_none_iff_notMem.1 found), Option.none_or, texts]

/-- What the codec makes of the texts of a record: an installed package has all four files, and
one of a source of packages has no manifest and no scriptlets. -/
def storedRecord (record : PackageRecord) : RepositoryKind → Except Error PackageRecord
  | .installed => do
      let text := EntryText.ofRecord record .installed
      let stored ← (decodeDesc text.desc (.bare record.name record.version)).result
      let stored ← (decodeFiles text.files stored).result
      let stored ← (decodeDepends text.depends stored).result
      return decodeInstall text.install stored
  | .sync => do
      let text := EntryText.ofRecord record .sync
      let stored ← (decodeDesc text.desc (.bare record.name record.version)).result
      (decodeDepends text.depends stored).result

theorem decodeInstall_empty (record : PackageRecord) : decodeInstall "" record = record := by
  have none : Text.lines "" = [] := by decide
  simp [decodeInstall, none, readScriptlets]

theorem encodeInstall_of_isEmpty (scriptlets : Scriptlets) (empty : scriptlets.isEmpty = true) :
    encodeInstall scriptlets = "" := by
  rw [encodeInstall, if_pos empty]

theorem lookup_sectionsOf (repository : Repository) (record : PackageRecord) (key : SectionKey) :
    (repository.sectionsOf record).lookup key =
      match key with
      | .desc => some (encodeDesc record repository.kind)
      | .depends => some (encodeDepends record repository.kind)
      | .files => if repository.isLocal = true then some (encodeFiles record) else none
      | .install =>
          if repository.isLocal = true ∧ record.scriptlets.isEmpty = false then
            some (encodeInstall record.scriptlets)
          else none := by
  by_cases installed : repository.isLocal = true <;>
    by_cases empty : record.scriptlets.isEmpty = true <;>
      cases key <;>
        simp [Repository.sectionsOf, EntryText.ofRecord, installed, empty, lookup_entry]

/-- How many files of the entry are written before one. -/
def Repository.position (repository : Repository) (record : PackageRecord) (key : SectionKey) : Nat :=
  ((repository.sectionsOf record).map Prod.fst).idxOf key

section Positions

variable (repository : Repository) (record : PackageRecord)

theorem position_desc : repository.position record .desc = 0 := by
  rw [Repository.position, Repository.sectionsOf]
  split <;> rfl

theorem position_depends :
    repository.position record .depends = if repository.isLocal = true then 2 else 1 := by
  rw [Repository.position, Repository.sectionsOf]
  split <;> rfl

variable {repository record}

theorem position_files (installed : repository.isLocal = true) :
    repository.position record .files = 1 := by
  rw [Repository.position, Repository.sectionsOf, if_pos installed]
  rfl

theorem position_install
    (scripted : repository.isLocal = true ∧ record.scriptlets.isEmpty = false) :
    repository.position record .install = 3 := by
  rw [Repository.position, Repository.sectionsOf, if_pos scripted.1, scripted.2]
  rfl

end Positions

theorem decodeTexts_sectionsOf (repository : Repository) (record : PackageRecord) :
    decodeTexts (fun key => (repository.sectionsOf record).lookup key)
      (.bare record.name record.version) = storedRecord record repository.kind := by
  simp only [decodeTexts, lookup_sectionsOf, decodeText]
  by_cases installed : repository.isLocal = true
  · have kind : repository.kind = .installed := by simp [Repository.kind, installed]
    rw [kind, storedRecord]
    simp only [installed, if_true, true_and, EntryText.ofRecord]
    -- A file of scriptlets that is not written is decoded like the empty text.
    by_cases empty : record.scriptlets.isEmpty = true
    · simp only [empty, encodeInstall_of_isEmpty, decodeInstall_empty]
      rfl
    · simp only [empty]
      rfl
  · have kind : repository.kind = .sync := by simp [Repository.kind, installed]
    rw [kind, storedRecord]
    simp only [installed, Bool.false_eq_true, false_and, if_false, EntryText.ofRecord, bind,
      Except.bind]
    cases (decodeDesc (encodeDesc record .sync) (.bare record.name record.version)).result with
    | error failure => rfl
    | ok stored =>
        dsimp only
        cases (decodeDepends (encodeDepends record .sync) stored).result <;> rfl

theorem state_isZero_madeAt (text : String) (now : Int64) :
    (EntryFile.state ⟨text, .madeAt now⟩).isZero = false ↔ now ≠ 0 := by
  simp [EntryFile.state, SectionState.isZero, FileTimes.isZero, FileTimes.madeAt]

def filesOf (repository : Repository) (record : PackageRecord) (moments : Nat → Int64) :
    EntryFiles :=
  EntryFiles.empty.fill moments (repository.sectionsOf record)

theorem filesOf_of_mem (repository : Repository) (record : PackageRecord) (moments : Nat → Int64)
    {key : SectionKey} {text : String} (member : (key, text) ∈ repository.sectionsOf record) :
    filesOf repository record moments key =
      some ⟨text, .madeAt (moments (repository.position record key))⟩ :=
  EntryFiles.fill_of_mem _ _ _ (Repository.nodup_sectionsOf repository record) member

theorem filesOf_eq (repository : Repository) (record : PackageRecord) (moments : Nat → Int64)
    (key : SectionKey) :
    filesOf repository record moments key =
      ((repository.sectionsOf record).lookup key).map fun text =>
        ⟨text, .madeAt (moments (repository.position record key))⟩ := by
  cases found : (repository.sectionsOf record).lookup key with
  | some text => exact filesOf_of_mem repository record moments (mem_of_lookup_eq_some found)
  | none =>
      rw [filesOf, EntryFiles.fill_of_notMem _ _ _ _ (lookup_eq_none_iff_notMem.1 found)]
      rfl

theorem isZero_capture_filesOf (repository : Repository) (record : PackageRecord)
    (moments : Nat → Int64) (key : SectionKey) :
    ((filesOf repository record moments).capture.get key).isZero = false ↔
      moments (repository.position record key) ≠ 0 ∧
        ((repository.sectionsOf record).lookup key).isSome = true := by
  rw [EntryFiles.get_capture, filesOf_eq]
  cases (repository.sectionsOf record).lookup key with
  | some text => simpa using state_isZero_madeAt text _
  | none => simp [SectionState.isZero, FileTimes.isZero]

theorem texts_filesOf (repository : Repository) (record : PackageRecord) (moments : Nat → Int64) :
    (filesOf repository record moments).texts =
      fun key => (repository.sectionsOf record).lookup key := by
  funext key
  rw [EntryFiles.texts, filesOf_eq]
  cases (repository.sectionsOf record).lookup key <;> rfl

theorem reference?_remember (repository : Repository) (name : String) (snapshot : Snapshot) :
    (repository.remember name snapshot).reference? name = some snapshot := by
  rw [Repository.reference?, Repository.remember, NameMap.find?_insert, if_pos rfl]

theorem read_of_first_write {repository repository' : Repository} {record : PackageRecord}
    {snapshot : Snapshot} {disk later : Disk} (plain : IsName record.dbname)
    (hyphen : record.version.toList.count '-' = 1)
    (settled : repository.Settled disk) (vacant : repository.Vacant disk record.dbname)
    (unclaimed : repository.Unclaimed disk record.name)
    (written : repository.write record disk = .ok (repository', snapshot) later) :
    repository' = repository.remember record.name snapshot ∧
      ∃ made,
        Operation.makeDirectories (repository.directory.join record.dbname) disk = .ok () made ∧
        disk.Onward made ∧ snapshot = (filesOf repository record made.moment).capture ∧
        ∀ other : Disk, other.tree = later.tree →
          other.workingDirectory = later.workingDirectory →
          repository.read other record.name =
            (storedRecord record repository.kind).map fun stored => some ⟨stored, snapshot⟩ := by
  obtain ⟨remembered, made, makes, onward, shelf, entry, states⟩ :=
    Repository.holdsEntry_of_write plain settled vacant unclaimed written
  rw [← filesOf] at entry
  have captured : snapshot = (filesOf repository record made.moment).capture :=
    Snapshot.ext_find? fun key => by rw [states, EntryFiles.find?_capture, filesOf]
  refine ⟨remembered, made, makes, onward, captured, fun other tree workingDirectory => ?_⟩
  -- The texts on the disk are those that were encoded, and both snapshots hold their states.
  rw [captured, ← decodeTexts_sectionsOf, ← texts_filesOf repository record made.moment]
  exact (entry.congr tree workingDirectory).read_eq hyphen
    (filesOf_of_mem _ _ _ (Repository.desc_mem_sectionsOf repository record))

/-- After the first write of a package into a repository that is there, or whose path leads nowhere
back, reading refines the codec: it gives the same record or the same error. The snapshot that is
read agrees with the one that was written, holds the digest of each text and the moment at which it
was written, and does not count as modified. The files are written one after the other, once the
directory of the entry has been made. -/
theorem first_write_reads_back (repository repository' : Repository) (record : PackageRecord)
    (snapshot : Snapshot) (disk later : Disk)
    (name : '/' ∉ record.name.toList) (version : '/' ∉ record.version.toList)
    (hyphen : record.version.toList.count '-' = 1)
    (settled : repository.Settled disk) (vacant : repository.Vacant disk record.dbname)
    (unclaimed : repository.Unclaimed disk record.name)
    (written : repository.write record disk = .ok (repository', snapshot) later) :
    ∃ made,
      Operation.makeDirectories (repository.directory.join record.dbname) disk = .ok () made ∧
      disk.Onward made ∧
      match storedRecord record repository.kind with
      | .error error => repository'.read later record.name = .error error
      | .ok stored =>
          ∃ current, repository'.read later record.name = .ok (some ⟨stored, current⟩) ∧
            (∀ key,
              (current.get key).fingerprint = (snapshot.get key).fingerprint ∧
                (current.get key).times.content = (snapshot.get key).times.content) ∧
            (∀ key text, (key, text) ∈ repository.sectionsOf record →
              (current.get key).fingerprint = Sha1.hex text.toUTF8 ∧
                (current.get key).times =
                  .madeAt (made.moment (repository.position record key))) ∧
            ((current.get .desc).isZero = false ↔ made.moment 0 ≠ 0) ∧
            ((current.get .depends).isZero = false ↔
              made.moment (if repository.isLocal = true then 2 else 1) ≠ 0) ∧
            ((current.get .files).isZero = false ↔
              made.moment 1 ≠ 0 ∧ repository.isLocal = true) ∧
            ((current.get .install).isZero = false ↔
              made.moment 3 ≠ 0 ∧ repository.isLocal = true ∧
                ∃ hook, record.scriptlets.body hook ≠ "") ∧
            repository'.isModified record.name current = false := by
  obtain ⟨rfl, made, makes, onward, captured, read⟩ :=
    read_of_first_write (isName_dbname record name version) hyphen settled vacant unclaimed written
  refine ⟨made, makes, onward, ?_⟩
  -- What the handle remembers has no say in what it reads.
  have again : (repository.remember record.name snapshot).read later record.name =
      repository.read later record.name := rfl
  rw [again, read later rfl rfl]
  cases storedRecord record repository.kind with
  | error failure => rfl
  | ok stored =>
      have states : ∀ key text, (key, text) ∈ repository.sectionsOf record →
          (snapshot.get key).fingerprint = Sha1.hex text.toUTF8 ∧
            (snapshot.get key).times =
              .madeAt (made.moment (repository.position record key)) := by
        intro key text member
        rw [captured, EntryFiles.get_capture, filesOf_of_mem _ _ _ member]
        exact ⟨rfl, rfl⟩
      have unmodified : (repository.remember record.name snapshot).isModified record.name snapshot =
          false := by
        rw [Repository.isModified, reference?_remember]
        exact snapshot.not_isModified_self
      have stands := isZero_capture_filesOf repository record made.moment
      rw [← captured] at stands
      refine ⟨snapshot, rfl, fun key => ⟨rfl, rfl⟩, states, ?_, ?_, ?_, ?_, unmodified⟩
      · rw [stands, position_desc]
        simp [lookup_sectionsOf]
      · rw [stands, position_depends]
        simp [lookup_sectionsOf]
      · rw [stands, lookup_sectionsOf]
        by_cases installed : repository.isLocal = true <;> simp [installed, position_files]
      · rw [stands, lookup_sectionsOf, ← Scriptlets.isEmpty_eq_false_iff]
        by_cases scripted : repository.isLocal = true ∧ record.scriptlets.isEmpty = false
        · simp [scripted, position_install scripted]
        · simp [scripted]

def inhabitedDisk : Disk where
  tree := {
    nodes := [
      (["link", "local", "db"], ⟨.link "nowhere", .madeAt 1⟩),
      (["bar-2-1", "local", "db"], ⟨.directory, .madeAt 1⟩),
      (["local", "db"], ⟨.directory, .madeAt 1⟩), (["db"], ⟨.directory, .madeAt 1⟩),
      ([], ⟨.directory, .madeAt 1⟩)]
    rooted := by decide
    distinct := by decide
    nested := by decide }
  now := 2
  ahead := [3, 4, 6, 9]

def twoLineRecord : PackageRecord where
  name := "foo"
  version := "1.0-1"
  description := "one\n\n%URL%"
  files := ["usr/bin/foo"]
  scriptlets := { postInstall := "echo" }

def inhabitedRepository : Repository := .ofName "local" ⟨"db"⟩ { dbpath := "." }

theorem vacant_of_notFound {repository : Repository} {disk : Disk} {name : String}
    (absent : disk.node .target (repository.directory.join name) = .error .notFound) :
    repository.Vacant disk name := by
  intro node found
  rw [absent] at found
  cases found

theorem unclaimed_of_nil {repository : Repository} {disk : Disk}
    (listed : repository.entryDirectories disk = .ok []) (package : String) :
    repository.Unclaimed disk package := by
  intro directories found directory member
  rw [listed] at found
  cases found
  cases member

def newDisk : Disk := { tree := .bare (.madeAt 1), now := 2 }

def installedRepository : Repository := .ofName "local" ⟨""⟩ { dbpath := "db" }

theorem settled_newDisk : installedRepository.Settled newDisk := .inr (by decide)

theorem unclaimed_newDisk (package : String) : installedRepository.Unclaimed newDisk package :=
  unclaimed_of_nil (by decide +kernel) package

theorem first_write_reads_back_twoLineRecord :
    ∃ repository' snapshot later,
      inhabitedRepository.Settled inhabitedDisk ∧
      inhabitedRepository.Vacant inhabitedDisk twoLineRecord.dbname ∧
      inhabitedRepository.Unclaimed inhabitedDisk twoLineRecord.name ∧
      inhabitedRepository.write twoLineRecord inhabitedDisk =
        .ok (repository', snapshot) later ∧
      ∃ stored current,
        storedRecord twoLineRecord .installed = .ok stored ∧
        repository'.read later "foo" = .ok (some ⟨stored, current⟩) ∧
        (current.get .desc).times = .madeAt 3 ∧ (current.get .install).times = .madeAt 9 ∧
        (current.get .install).isZero = false ∧
        repository'.isModified "foo" current = false := by
  have succeeds : Operation.succeeds (inhabitedRepository.write twoLineRecord) inhabitedDisk =
      true := by decide +kernel
  obtain ⟨⟨repository', snapshot⟩, later, written⟩ := (Operation.succeeds_iff _).1 succeeds
  have settled : inhabitedRepository.Settled inhabitedDisk := .inl (by decide +kernel)
  have vacant : inhabitedRepository.Vacant inhabitedDisk twoLineRecord.dbname :=
    vacant_of_notFound (by decide +kernel)
  have unclaimed : inhabitedRepository.Unclaimed inhabitedDisk twoLineRecord.name := by
    have listed : inhabitedRepository.entryDirectories inhabitedDisk = .ok ["bar-2-1"] := by
      decide +kernel
    rintro directories found directory member ⟨entry, parsed, named⟩
    rw [listed] at found
    cases found
    rw [List.mem_singleton.1 member,
      show EntryName.parse? "bar-2-1" = some ⟨"bar", "2", "1"⟩ by decide] at parsed
    cases parsed
    exact absurd named (by decide)
  obtain ⟨made, makes, -, reads⟩ := first_write_reads_back inhabitedRepository repository'
    twoLineRecord snapshot inhabitedDisk later (by decide) (by decide) (by decide) settled vacant
    unclaimed written
  have moments : Operation.succeedsWith
      (fun _ made => made.moment 0 == 3 && made.moment 3 == 9)
      (Operation.makeDirectories (inhabitedRepository.directory.join twoLineRecord.dbname))
      inhabitedDisk = true := by decide +kernel
  rw [Operation.succeedsWith, makes, Bool.and_eq_true, beq_iff_eq, beq_iff_eq] at moments
  refine ⟨repository', snapshot, later, settled, vacant, unclaimed, written, ?_⟩
  have kind : inhabitedRepository.kind = .installed := by decide
  rw [kind] at reads
  cases coded : storedRecord twoLineRecord .installed with
  | error failure =>
      have fine : (storedRecord twoLineRecord .installed).isOk = true := by decide +kernel
      rw [coded] at fine
      cases fine
  | ok stored =>
      rw [coded] at reads
      obtain ⟨current, read, -, states, -, -, -, install, unmodified⟩ := reads
      have desc := (states .desc _ (Repository.desc_mem_sectionsOf _ _)).2
      have scripts := (states .install (encodeInstall twoLineRecord.scriptlets) (by decide)).2
      rw [position_desc, moments.1] at desc
      rw [position_install ⟨by decide, by decide⟩, moments.2] at scripts
      have stands := install.2 ⟨by rw [moments.2]; decide, by decide, .postInstall, by decide⟩
      exact ⟨stored, current, rfl, read, desc, scripts, stands, unmodified⟩

def abandonedDisk : Disk where
  tree := {
    nodes := [
      (["install", "foo-1.0-1", "y", "db"],
        ⟨.file (.ofText "post_install() \x7b\necho stale\n\x7d\n"), .madeAt 1⟩),
      (["foo-1.0-1", "y", "db"], ⟨.directory, .madeAt 1⟩), (["y", "db"], ⟨.directory, .madeAt 1⟩),
      (["db"], ⟨.directory, .madeAt 1⟩), ([], ⟨.directory, .madeAt 1⟩)]
    rooted := by decide
    distinct := by decide
    nested := by decide }
  now := 2

def windingRepository : Repository := .ofName "x/../y" ⟨""⟩ { dbpath := "db" }

def readsOther (record : PackageRecord) (repository : Repository) (disk : Disk) : Bool :=
  match storedRecord record repository.kind, repository.read disk record.name with
  | .ok stored, .ok (some entry) =>
      entry.record != stored && repository.isModified record.name entry.snapshot
  | _, _ => false

/-- Through `x/..` the repository is empty as long as `x` is missing. The write makes `x`, and the
read finds what stood in `y`. -/
theorem first_write_does_not_refine_through_missing_directory :
    ∃ repository' snapshot later stored entry,
      windingRepository.Vacant abandonedDisk (PackageRecord.bare "foo" "1.0-1").dbname ∧
      windingRepository.Unclaimed abandonedDisk "foo" ∧
      windingRepository.write (.bare "foo" "1.0-1") abandonedDisk =
        .ok (repository', snapshot) later ∧
      storedRecord (.bare "foo" "1.0-1") windingRepository.kind = .ok stored ∧
      repository'.read later "foo" = .ok (some entry) ∧
      entry.record ≠ stored ∧ repository'.isModified "foo" entry.snapshot = true := by
  have run : Operation.succeedsWith (fun written => readsOther (.bare "foo" "1.0-1") written.1)
      (windingRepository.write (.bare "foo" "1.0-1")) abandonedDisk = true := by
    decide +kernel
  have vacant : windingRepository.Vacant abandonedDisk (PackageRecord.bare "foo" "1.0-1").dbname :=
    vacant_of_notFound (by decide +kernel)
  have unclaimed : windingRepository.Unclaimed abandonedDisk "foo" :=
    unclaimed_of_nil (by decide +kernel) "foo"
  obtain ⟨⟨repository', snapshot⟩, later, written, other⟩ := (Operation.succeedsWith_iff _ _).1 run
  have kind : repository'.kind = windingRepository.kind := by
    obtain ⟨-, -, -, rfl⟩ := (Repository.write_eq_ok_iff _ _ _).1 written
    rfl
  rw [readsOther, kind] at other
  split at other
  · next stored entry coded read =>
      rw [Bool.and_eq_true, bne_iff_ne] at other
      exact ⟨repository', snapshot, later, stored, entry, vacant, unclaimed, written, coded, read,
        other.1, other.2⟩
  · cases other

end PackageAssay

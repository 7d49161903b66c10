import PackageAssay.Proofs.EntryReading
import PackageAssay.Proofs.ScriptletCodec

set_option autoImplicit false

namespace PackageAssay

theorem isName_dbname (record : PackageRecord) (name : '/' ∉ record.name.toList)
    (version : '/' ∉ record.version.toList) : IsName record.dbname := by
  have shape : record.dbname.toList = record.name.toList ++ '-' :: record.version.toList := by
    simp [PackageRecord.dbname]
  have hyphen : '-' ∈ record.dbname.toList := by simp [shape]
  refine ⟨?_, by simp [shape, name, version], ?_, ?_⟩ <;> intro same <;> rw [same] at hyphen <;>
    exact absurd hyphen (by decide)

namespace Repository

def Vacant (repository : Repository) (disk : Disk) (name : String) : Prop :=
  ∀ node, disk.node .target (repository.directory.join name) ≠ .ok node

def Unclaimed (repository : Repository) (disk : Disk) (package : String) : Prop :=
  ∀ directories, repository.entryDirectories disk = .ok directories →
    ∀ directory ∈ directories, ¬ BelongsTo package directory

/-- The directory of the repository is there, or it is new once it has been made. -/
def Settled (repository : Repository) (disk : Disk) : Prop :=
  disk.isDirectory repository.directory = true ∨ repository.directory.Forward

structure HoldsEntry (repository : Repository) (disk : Disk) (package name : String)
    (shelf : Location) (files : EntryFiles) : Prop where
  holds : disk.Holds repository.directory name shelf files
  some : repository.directory.text ≠ ""
  sound : ∀ key : SectionKey, ((repository.directory.join name).join key.fileName).Sound
  only : ∀ other, disk.tree.body? (other :: shelf) = .some .directory →
    BelongsTo package other → other = name

variable {repository : Repository} {disk : Disk} {package name : String} {shelf : Location}
  {files : EntryFiles}

theorem Settled.text_ne_empty (settled : repository.Settled disk) :
    repository.directory.text ≠ "" := by
  rcases settled with there | forward
  · exact ((Disk.isDirectory_iff _ _).1 there).1.2.1
  · exact forward.1

theorem Vacant.not_reaches (vacant : repository.Vacant disk name)
    (sound : (repository.directory.join name).Sound) :
    ¬ ∃ place, disk.Reaches (repository.directory.join name) place := by
  rintro ⟨place, reaches⟩
  obtain ⟨node, held, -⟩ := Option.map_eq_some_iff.1 reaches.directory
  exact vacant node ((Disk.node_eq_ok_iff _ _).2 ⟨place, reaches.locate sound, held⟩)

/-- One file of an entry is looked up like any other, since none has a longer name than
`depends`. -/
theorem sound_files {directory : Path} (sound : (directory.join SectionKey.depends.fileName).Sound)
    (key : SectionKey) : (directory.join key.fileName).Sound := by
  refine sound.join_of_join key.isName_fileName SectionKey.depends.isName_fileName ?_ ?_ <;>
    cases key <;> decide

theorem holdsEntry_of_makeDirectories {middle : Disk} (plain : IsName name)
    (settled : repository.Settled disk) (vacant : repository.Vacant disk name)
    (unclaimed : repository.Unclaimed disk package)
    (made : Operation.makeDirectories (repository.directory.join name) disk = .ok () middle)
    (sound : ∀ key : SectionKey, ((repository.directory.join name).join key.fileName).Sound) :
    disk.Onward middle ∧
      ∃ shelf, repository.HoldsEntry middle package name shelf .empty := by
  have entrySound := ((Disk.makeDirectories_eq_ok_iff plain).1 made).1
  have baseSound := entrySound.of_join plain settled.text_ne_empty
  obtain ⟨before, place, keeps, reached, descends, step, origin⟩ :=
    Disk.made_of_makeDirectories plain settled (vacant.not_reaches entrySound) made
  refine ⟨(keeps.trans step.keeps).clock, place, ?_, settled.text_ne_empty, sound, ?_⟩
  · refine ⟨plain, descends.short, step.keeps.reaches reached, ?_, ?_⟩
    · rw [step.bodies, if_pos rfl]
    · intro key
      exact Option.map_eq_none_iff.1 (step.empty key.fileName)
  · intro other found belongs
    rw [step.bodies] at found
    split at found
    · next same => exact (List.cons.inj same).1
    -- Another directory was there before, where none belongs, or the parent was made as well.
    · rcases origin with rfl | empty
      · obtain ⟨directories, listed, member⟩ := exists_entryDirectories baseSound reached
        exact absurd belongs (unclaimed directories listed other ((member other).2 found))
      · rw [empty] at found
        cases found

theorem write_eq_ok_iff {later : Disk} (repository' : Repository) (record : PackageRecord)
    (snapshot : Snapshot) :
    repository.write record disk = .ok (repository', snapshot) later ↔
      ∃ middle,
        Operation.makeDirectories (repository.directory.join record.dbname) disk = .ok () middle ∧
        writeSections (repository.directory.join record.dbname) (repository.sectionsOf record) {}
          middle = .ok snapshot later ∧
        repository' = repository.remember record.name snapshot := by
  have unfolded : repository.write record = (do
      Operation.makeDirectories (repository.directory.join record.dbname)
      let snapshot ← writeSections (repository.directory.join record.dbname)
        (repository.sectionsOf record) {}
      return (repository.remember record.name snapshot, snapshot)) := rfl
  rw [unfolded]
  simp only [Operation.bind_eq_ok_iff, Operation.pure_eq_ok_iff, Prod.mk.injEq]
  constructor
  · rintro ⟨_, middle, made, captured, _, written, ⟨rfl, rfl⟩, rfl⟩
    exact ⟨middle, made, written, rfl⟩
  · rintro ⟨middle, made, written, rfl⟩
    exact ⟨(), middle, made, snapshot, later, written, ⟨rfl, rfl⟩, rfl⟩

theorem depends_mem_sectionsOf (repository : Repository) (record : PackageRecord) :
    (SectionKey.depends, encodeDepends record repository.kind) ∈ repository.sectionsOf record := by
  simp only [sectionsOf, EntryText.ofRecord]
  split <;> simp

theorem desc_mem_sectionsOf (repository : Repository) (record : PackageRecord) :
    (SectionKey.desc, encodeDesc record repository.kind) ∈ repository.sectionsOf record := by
  simp only [sectionsOf, EntryText.ofRecord]
  split <;> simp

theorem nodup_sectionsOf (repository : Repository) (record : PackageRecord) :
    ((repository.sectionsOf record).map Prod.fst).Nodup := by
  simp only [sectionsOf]
  split
  · split <;> simp
  · simp

theorem sound_of_write {later : Disk} {repository' : Repository} {record : PackageRecord}
    {snapshot : Snapshot}
    (written : repository.write record disk = .ok (repository', snapshot) later)
    (key : SectionKey) :
    ((repository.directory.join record.dbname).join key.fileName).Sound := by
  obtain ⟨middle, -, sections, -⟩ := (write_eq_ok_iff _ _ _).1 written
  have depends := sound_of_writeSections _ _ _ sections (.depends, _)
    (depends_mem_sectionsOf repository record)
  exact sound_files depends key

theorem HoldsEntry.writeSections (entry : repository.HoldsEntry disk package name shelf files)
    (sections : List (SectionKey × String)) :
    ∃ captured later,
      Repository.writeSections (repository.directory.join name) sections {} disk =
        .ok captured later ∧
      repository.HoldsEntry later package name shelf (files.fill disk.moment sections) ∧
      ∀ key, captured.find? key =
        if key ∈ sections.map Prod.fst then (files.fill disk.moment sections key).map EntryFile.state
        else none := by
  obtain ⟨captured, later, written, holds, within, states⟩ :=
    entry.holds.writeSections sections {} fun part _ => entry.sound part.1
  refine ⟨captured, later, written, ⟨holds, entry.some, entry.sound, ?_⟩, ?_⟩
  · intro other found belongs
    have outside : (other :: shelf).tail ≠ name :: shelf := by simp
    rw [within.others _ outside] at found
    exact entry.only other found belongs
  · intro key
    rw [states]
    cases key <;> rfl

theorem HoldsEntry.write {record : PackageRecord}
    (entry : repository.HoldsEntry disk package record.dbname shelf files) :
    ∃ snapshot later,
      repository.write record disk =
        .ok (repository.remember record.name snapshot, snapshot) later ∧
      repository.HoldsEntry later package record.dbname shelf
        (files.fill disk.moment (repository.sectionsOf record)) ∧
      ∀ key, snapshot.find? key =
        if key ∈ (repository.sectionsOf record).map Prod.fst then
          (files.fill disk.moment (repository.sectionsOf record) key).map EntryFile.state
        else none := by
  have baseSound := (entry.sound .desc).of_join SectionKey.desc.isName_fileName
    (by simp [Path.join_name _ entry.holds.plain, entry.holds.plain.some])
  have there := Disk.makeDirectories_of_reaches entry.holds.plain baseSound
    entry.holds.reaches_entry
  obtain ⟨snapshot, later, written, filled, states⟩ :=
    entry.writeSections (repository.sectionsOf record)
  exact ⟨snapshot, later, (write_eq_ok_iff _ _ _).2 ⟨disk, there, written, rfl⟩, filled, states⟩

theorem HoldsEntry.remember (entry : repository.HoldsEntry disk package name shelf files)
    (other : String) (snapshot : Snapshot) :
    (repository.remember other snapshot).HoldsEntry disk package name shelf files :=
  ⟨entry.holds, entry.some, entry.sound, entry.only⟩

/-- Reading does not notice that the clock goes on. -/
theorem HoldsEntry.congr (entry : repository.HoldsEntry disk package name shelf files)
    {other : Disk} (tree : other.tree = disk.tree)
    (workingDirectory : other.workingDirectory = disk.workingDirectory) :
    repository.HoldsEntry other package name shelf files where
  holds := {
    plain := entry.holds.plain
    short := entry.holds.short
    reached := by
      rw [Disk.Reaches, tree, Disk.startOf_congr workingDirectory]
      exact entry.holds.reached
    entry := tree ▸ entry.holds.entry
    files := tree ▸ entry.holds.files }
  some := entry.some
  sound := entry.sound
  only := tree ▸ entry.only

theorem HoldsEntry.read_eq {record : PackageRecord} {desc : EntryFile}
    (entry : repository.HoldsEntry disk record.name record.dbname shelf files)
    (one : record.version.toList.count '-' = 1) (present : files .desc = .some desc) :
    repository.read disk record.name =
      (decodeTexts files.texts (.bare record.name record.version)).map fun stored =>
        .some ⟨stored, files.capture⟩ := by
  obtain ⟨parts, parsed, named, version⟩ := parse?_dbname record one
  rw [← version]
  exact entry.holds.read_eq rfl entry.sound entry.some present parsed named entry.only

/-- The first write of a package leaves its sections in an entry of their own. -/
theorem holdsEntry_of_write {later : Disk} {repository' : Repository} {record : PackageRecord}
    {snapshot : Snapshot} (plain : IsName record.dbname) (settled : repository.Settled disk)
    (vacant : repository.Vacant disk record.dbname)
    (unclaimed : repository.Unclaimed disk record.name)
    (written : repository.write record disk = .ok (repository', snapshot) later) :
    repository' = repository.remember record.name snapshot ∧
      ∃ middle,
        Operation.makeDirectories (repository.directory.join record.dbname) disk = .ok () middle ∧
        disk.Onward middle ∧
        ∃ shelf,
          repository.HoldsEntry later record.name record.dbname shelf
            (EntryFiles.empty.fill middle.moment (repository.sectionsOf record)) ∧
          ∀ key, snapshot.find? key =
            (EntryFiles.empty.fill middle.moment (repository.sectionsOf record) key).map
              EntryFile.state := by
  obtain ⟨middle, made, sections, remembered⟩ := (write_eq_ok_iff _ _ _).1 written
  obtain ⟨onward, shelf, entry⟩ := holdsEntry_of_makeDirectories plain settled vacant unclaimed
    made (sound_of_write written)
  obtain ⟨captured, last, done, filled, states⟩ :=
    entry.writeSections (repository.sectionsOf record)
  rw [sections] at done
  cases done
  refine ⟨remembered, middle, made, onward, shelf, filled, ?_⟩
  intro key
  rw [states]
  split
  · rfl
  · next absent =>
      rw [EntryFiles.fill_of_notMem _ _ _ _ absent]
      rfl

end Repository

end PackageAssay

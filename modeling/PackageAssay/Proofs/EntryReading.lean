import PackageAssay.Proofs.EntryFiles
import PackageAssay.Proofs.EntryNames

set_option autoImplicit false

namespace PackageAssay

def BelongsTo (name directory : String) : Prop :=
  ∃ entry, EntryName.parse? directory = some entry ∧ entry.name = name

theorem belongsTo_iff (name directory : String) :
    BelongsTo name directory ↔ (EntryName.parse? directory).map EntryName.name = some name :=
  Option.map_eq_some_iff.symm

instance (name directory : String) : Decidable (BelongsTo name directory) :=
  decidable_of_iff _ (belongsTo_iff name directory).symm

theorem findSome?_of_only {α β : Type} {see : α → Option β} {items : List α} {item : α}
    {value : β} (member : item ∈ items) (seen : see item = some value)
    (only : ∀ other ∈ items, see other ≠ none → other = item) :
    items.findSome? see = some value := by
  induction items with
  | nil => cases member
  | cons head tail ih =>
      rw [List.findSome?_cons]
      cases first : see head with
      | some found =>
          have same := only head (by simp) (by simp [first])
          rw [same, seen] at first
          exact first.symm
      | none =>
          rcases List.mem_cons.1 member with rfl | later
          · rw [seen] at first
            cases first
          · exact ih later fun other within => only other (by simp [within])

namespace Disk

theorem children_of_locate {disk : Disk} {path : Path} {place : Location}
    (located : disk.locate .target path = .ok place)
    (directory : disk.tree.body? place = some .directory) :
    disk.children path = .ok ((disk.tree.childNames place).filterMap fun name =>
      (disk.tree.body? (name :: place)).map (name, ·)) := by
  rw [children, located]
  simp only [bind, Except.bind, directory]
  rfl

end Disk

namespace Repository

variable {repository : Repository} {disk : Disk} {shelf : Location}

theorem entryDirectories_of_locate (located : disk.locate .target repository.directory = .ok shelf)
    (there : disk.tree.body? shelf = some .directory) :
    ∃ directories, repository.entryDirectories disk = .ok directories ∧
      ∀ directory, directory ∈ directories ↔
        disk.tree.body? (directory :: shelf) = some .directory := by
  have listed := Disk.children_of_locate located there
  refine ⟨_, by rw [entryDirectories, listed], ?_⟩
  intro directory
  simp only [List.mem_map, List.mem_filter, List.mem_filterMap, FileTree.mem_childNames,
    Option.map_eq_some_iff]
  constructor
  · rintro ⟨child, ⟨⟨name, -, body, found, rfl⟩, isDirectory⟩, rfl⟩
    have same : body = .directory := (NodeBody.isDirectory_iff body).1 isDirectory
    rw [found, same]
  · intro found
    have held : (disk.tree.body? (directory :: shelf)).isSome = true := by simp [found]
    exact ⟨(directory, .directory), ⟨⟨directory, held, .directory, found, rfl⟩, rfl⟩, rfl⟩

theorem exists_entryDirectories (sound : repository.directory.Sound)
    (reaches : disk.Reaches repository.directory shelf) :
    ∃ directories, repository.entryDirectories disk = .ok directories ∧
      ∀ directory, directory ∈ directories ↔
        disk.tree.body? (directory :: shelf) = some .directory :=
  entryDirectories_of_locate (reaches.locate sound) reaches.directory

theorem findEntry_of_only {name directory : String} {entry : EntryName}
    (sound : repository.directory.Sound) (reaches : disk.Reaches repository.directory shelf)
    (there : disk.tree.body? (directory :: shelf) = some .directory)
    (parsed : EntryName.parse? directory = some entry) (named : entry.name = name)
    (only : ∀ other, disk.tree.body? (other :: shelf) = some .directory →
      BelongsTo name other → other = directory) :
    repository.findEntry disk name = .ok (some (repository.directory.join directory, entry)) := by
  obtain ⟨directories, listed, member⟩ := exists_entryDirectories sound reaches
  rw [findEntry, listed]
  have within := (mem_sortedNames directories directory).2 ((member directory).2 there)
  refine congrArg Except.ok (findSome?_of_only within (by simp [parsed, named]) ?_)
  intro other inside seen
  refine only other ((member other).1 ((mem_sortedNames directories other).1 inside)) ?_
  cases other' : EntryName.parse? other with
  | none => simp [other'] at seen
  | some found =>
      refine ⟨found, other', ?_⟩
      by_cases same : found.name = name
      · exact same
      · simp [other', same] at seen

theorem readSection_of_readText {directory : Path} {key : SectionKey} {text : String}
    (read : disk.readText (directory.join key.fileName) = .ok text)
    (decode : String → PackageRecord → Decoded) (entry : DatabaseEntry) :
    readSection disk directory key decode entry =
      (decode text entry.record).result.map fun record =>
        ⟨record, entry.snapshot.insert key (.ofFile disk (directory.join key.fileName))⟩ := by
  rw [readSection, read]
  simp only [Except.mapError, bind, Except.bind]
  cases (decode text entry.record).result <;> rfl

theorem readOptional_of_missing {directory : Path} {key : SectionKey}
    (missing : disk.readText (directory.join key.fileName) = .error .notFound)
    (decode : String → PackageRecord → Decoded) (entry : DatabaseEntry) :
    readOptional disk directory key decode entry = .ok entry := by
  unfold readOptional
  rw [missing]

theorem readOptional_of_readText {directory : Path} {key : SectionKey} {text : String}
    (read : disk.readText (directory.join key.fileName) = .ok text)
    (decode : String → PackageRecord → Decoded) (entry : DatabaseEntry) :
    readOptional disk directory key decode entry =
      readSection disk directory key decode entry := by
  unfold readOptional
  rw [read]

end Repository

def decodeText (text : Option String) (decode : String → PackageRecord → Decoded)
    (record : PackageRecord) : Except Error PackageRecord :=
  match text with
  | none => .ok record
  | some text => (decode text record).result

def decodeTexts (texts : SectionKey → Option String) (record : PackageRecord) :
    Except Error PackageRecord := do
  let record ← decodeText (texts .desc) decodeDesc record
  let record ← decodeText (texts .files) decodeFiles record
  let record ← decodeText (texts .depends) decodeDepends record
  decodeText (texts .install) (fun text record => ⟨decodeInstall text record, none⟩) record

namespace EntryFiles

def texts (files : EntryFiles) (key : SectionKey) : Option String :=
  (files key).map EntryFile.text

def captureOne (files : EntryFiles) (snapshot : Snapshot) (key : SectionKey) : Snapshot :=
  match files key with
  | none => snapshot
  | some file => snapshot.insert key file.state

def capture (files : EntryFiles) : Snapshot :=
  [SectionKey.desc, .files, .depends, .install].foldl files.captureOne {}

theorem find?_captureOne (files : EntryFiles) (snapshot : Snapshot) (key other : SectionKey)
    (fresh : snapshot.find? key = none) :
    (files.captureOne snapshot key).find? other =
      if other = key then (files key).map EntryFile.state else snapshot.find? other := by
  rw [captureOne]
  cases found : files key with
  | none =>
      by_cases same : other = key
      · rw [if_pos same, same, fresh]
        rfl
      · rw [if_neg same]
  | some file => exact Snapshot.find?_insert snapshot key other file.state

theorem find?_foldl_captureOne (files : EntryFiles) (keys : List SectionKey) (snapshot : Snapshot)
    (once : keys.Nodup) (fresh : ∀ key ∈ keys, snapshot.find? key = none) (other : SectionKey) :
    (keys.foldl files.captureOne snapshot).find? other =
      if other ∈ keys then (files other).map EntryFile.state else snapshot.find? other := by
  induction keys generalizing snapshot with
  | nil => simp
  | cons key rest ih =>
      rw [List.nodup_cons] at once
      have step := fun other => files.find?_captureOne snapshot key other (fresh key (by simp))
      have others : ∀ next ∈ rest, (files.captureOne snapshot key).find? next = none := by
        intro next member
        have apart : next ≠ key := by
          rintro rfl
          exact once.1 member
        rw [step, if_neg apart, fresh next (by simp [member])]
      rw [List.foldl_cons, ih _ once.2 others, step]
      by_cases same : other = key
      · simp [same, once.1]
      · simp [same]

theorem find?_capture (files : EntryFiles) (key : SectionKey) :
    files.capture.find? key = (files key).map EntryFile.state := by
  have every : key ∈ [SectionKey.desc, .files, .depends, .install] := by cases key <;> decide
  rw [capture, find?_foldl_captureOne _ _ _ (by decide) (by decide), if_pos every]

theorem get_capture (files : EntryFiles) (key : SectionKey) :
    files.capture.get key = ((files key).map EntryFile.state).getD {} := by
  rw [Snapshot.get, find?_capture]

end EntryFiles

namespace Disk.Holds

variable {disk : Disk} {path : Path} {name : String} {shelf : Location} {files : EntryFiles}
  (holds : disk.Holds path name shelf files)

include holds

theorem readSection_eq (key : SectionKey) {file : EntryFile} (present : files key = some file)
    (sound : ((path.join name).join key.fileName).Sound)
    (decode : String → PackageRecord → Decoded) (entry : DatabaseEntry) :
    Repository.readSection disk (path.join name) key decode entry =
      (decodeText (files.texts key) decode entry.record).map fun record =>
        ⟨record, files.captureOne entry.snapshot key⟩ := by
  have read := holds.readText_file key sound
  have state := holds.state_file key sound
  simp only [present, Option.map_some, Option.getD_some] at read state
  rw [Repository.readSection_of_readText read, state]
  simp only [EntryFiles.texts, EntryFiles.captureOne, present, Option.map_some, decodeText]

theorem readOptional_eq (key : SectionKey)
    (sound : ((path.join name).join key.fileName).Sound)
    (decode : String → PackageRecord → Decoded) (entry : DatabaseEntry) :
    Repository.readOptional disk (path.join name) key decode entry =
      (decodeText (files.texts key) decode entry.record).map fun record =>
        ⟨record, files.captureOne entry.snapshot key⟩ := by
  have read := holds.readText_file key sound
  cases present : files key with
  | none =>
      simp only [present] at read
      rw [Repository.readOptional_of_missing read]
      simp only [EntryFiles.texts, EntryFiles.captureOne, present, Option.map_none, decodeText]
      rfl
  | some file =>
      rw [← holds.readSection_eq key present sound decode entry]
      simp only [present] at read
      exact Repository.readOptional_of_readText read decode entry

theorem read_eq {repository : Repository} {package : String} {entry : EntryName}
    (here : repository.directory = path)
    (sound : ∀ key : SectionKey, ((path.join name).join key.fileName).Sound)
    (some : path.text ≠ "") {desc : EntryFile} (present : files .desc = .some desc)
    (parsed : EntryName.parse? name = .some entry) (named : entry.name = package)
    (only : ∀ other, disk.tree.body? (other :: shelf) = .some .directory →
      BelongsTo package other → other = name) :
    repository.read disk package =
      (decodeTexts files.texts (.bare package entry.fullVersion)).map fun record =>
        .some ⟨record, files.capture⟩ := by
  subst here
  have named' : (repository.directory.join name).text ≠ "" := by
    simp [Path.join_name _ holds.plain, holds.plain.some]
  have base := Path.Sound.of_join holds.plain some
    (Path.Sound.of_join SectionKey.desc.isName_fileName named' (sound .desc))
  have found := Repository.findEntry_of_only base holds.reached holds.entry parsed named only
  unfold Repository.read
  rw [found]
  simp only [bind, Except.bind]
  -- Each section is read if the ones before it could be decoded, in both ways of reading.
  rw [holds.readSection_eq .desc present (sound .desc)]
  simp only [decodeTexts, bind, Except.bind]
  cases decodeText (files.texts .desc) decodeDesc (.bare package entry.fullVersion) with
  | error failure => rfl
  | ok record =>
  simp only [Except.map]
  rw [holds.readOptional_eq .files (sound .files)]
  cases decodeText (files.texts .files) decodeFiles record with
  | error failure => rfl
  | ok record =>
  simp only [Except.map]
  rw [holds.readOptional_eq .depends (sound .depends)]
  cases decodeText (files.texts .depends) decodeDepends record with
  | error failure => rfl
  | ok record =>
  simp only [Except.map]
  rw [holds.readOptional_eq .install (sound .install)]
  cases decodeText (files.texts .install) (fun text record => ⟨decodeInstall text record, none⟩)
      record with
  | error failure => rfl
  | ok record => rfl

end Disk.Holds

end PackageAssay

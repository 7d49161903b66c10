import Mathlib.Data.List.Basic
import PackageAssay.Database.EntryText
import PackageAssay.Proofs.Manifests
import PackageAssay.Proofs.ScriptletCodec
import PackageAssay.Proofs.SectionCodec

set_option autoImplicit false

namespace PackageAssay

/-- A line that can stand in a list, which the first empty line ends. -/
def Text.IsItem (text : String) : Prop := text ≠ "" ∧ IsLine text

instance (text : String) : Decidable (Text.IsItem text) := inferInstanceAs (Decidable (_ ∧ _))

/-- A line that is not taken for a title line where a reader passes over it. -/
def Text.IsPassedOver (text : String) : Prop :=
  IsLine text ∧ ∀ title : String, title ≠ "" → text ≠ "%" ++ title ++ "%"

theorem isPassedOver_iff (text : String) :
    Text.IsPassedOver text ↔ Text.IsLine text ∧ titleOf text = none := by
  refine and_congr_right fun _ => ?_
  rw [Option.eq_none_iff_forall_ne_some]
  refine forall_congr' fun title => ?_
  have titled := titleOf_eq_some_iff text title
  rw [Section.header] at titled
  rw [← not_and, ← titled]

instance (text : String) : Decidable (Text.IsPassedOver text) :=
  decidable_of_iff _ (isPassedOver_iff text).symm

/-- What a record has to satisfy for its fields to be told apart in the files of an entry of the
installed system. -/
structure PackageRecord.Storable (record : PackageRecord) : Prop where
  name : Text.IsPassedOver record.name
  version : Text.IsPassedOver record.version
  description : Text.IsLine record.description
  arch : Text.IsLine record.arch
  url : Text.IsLine record.url
  buildDate : Text.IsLine record.buildDate
  installDate : Text.IsLine record.installDate
  packager : Text.IsLine record.packager
  license : ∀ item ∈ record.license, Text.IsItem item
  groups : ∀ item ∈ record.groups, Text.IsItem item
  depends : ∀ item ∈ record.depends, Text.IsItem item
  requiredBy : ∀ item ∈ record.requiredBy, Text.IsItem item
  conflicts : ∀ item ∈ record.conflicts, Text.IsItem item
  provides : ∀ item ∈ record.provides, Text.IsItem item
  files : ∀ entry ∈ record.files, Text.IsItem (filenameOf entry)
  backup : ∀ entry ∈ record.backup,
    '\n' ∉ entry.path.toList ∧ '\t' ∉ entry.path.toList ∧ Text.IsLine entry.fingerprint
  scriptlets : record.scriptlets.Storable

def PackageRecord.heading (record : PackageRecord) : PackageRecord :=
  { PackageRecord.bare record.name record.version with
    description := record.description
    groups := record.groups
    arch := record.arch }

theorem reads_heading (record : PackageRecord) (name : Text.IsPassedOver record.name)
    (version : Text.IsPassedOver record.version) (description : Text.IsLine record.description)
    (groups : ∀ item ∈ record.groups, Text.IsItem item) (arch : Text.IsLine record.arch) :
    Reads .desc descField
      (Section.always "NAME" record.name ++ Section.always "VERSION" record.version ++
        Section.scalar "DESC" record.description ++ Section.list "GROUPS" record.groups ++
        Section.scalar "ARCH" record.arch)
      (.bare record.name record.version) record.heading := by
  have first : Reads .desc descField (Section.always "NAME" record.name)
      (.bare record.name record.version) (.bare record.name record.version) :=
    reads_unknown "NAME" (by decide) _ _ rfl name.1 ((isPassedOver_iff _).1 name).2
  have whole := first
    |>.append (reads_unknown "VERSION" (by decide) _ _ rfl version.1
      ((isPassedOver_iff _).1 version).2)
    |>.append (reads_scalar "DESC" (by decide) rfl _ _ rfl description)
    |>.append (reads_list "GROUPS" (by decide) rfl _ _ rfl groups)
    |>.append (reads_scalar "ARCH" (by decide) rfl _ _ rfl arch)
  exact whole

def PackageRecord.ofInstalledDesc (record : PackageRecord) : PackageRecord :=
  { record.heading with
    url := record.url
    license := record.license
    buildDate := record.buildDate
    installDate := record.installDate
    packager := record.packager
    size := record.size
    reason := record.reason }

theorem reads_descSections_installed (record : PackageRecord) (storable : record.Storable) :
    Reads .desc descField (descSections record .installed) record.heading
      record.ofInstalledDesc := by
  have first : Reads .desc descField (Section.scalar "URL" record.url) record.heading _ :=
    reads_scalar "URL" (by decide) rfl _ _ rfl storable.url
  have whole := first
    |>.append (reads_list "LICENSE" (by decide) rfl _ _ rfl storable.license)
    |>.append (reads_scalar "BUILDDATE" (by decide) rfl _ _ rfl storable.buildDate)
    |>.append (reads_scalar "INSTALLDATE" (by decide) rfl _ _ rfl storable.installDate)
    |>.append (reads_scalar "PACKAGER" (by decide) rfl _ _ rfl storable.packager)
    |>.append (reads_integer "SIZE" (by decide) rfl record.size _ rfl)
    |>.append (reads_smallInteger "REASON" (by decide) rfl record.reason _ rfl)
  exact whole

theorem decodeDesc_encodeDesc_installed (record : PackageRecord) (storable : record.Storable) :
    decodeDesc (encodeDesc record .installed) (.bare record.name record.version) =
      ⟨record.ofInstalledDesc, none⟩ :=
  (reads_heading record storable.name storable.version storable.description storable.groups
    storable.arch |>.append (reads_descSections_installed record storable)).decodeLines_render

theorem isItem_of_mem_expandManifest (entries : List String)
    (items : ∀ entry ∈ entries, Text.IsItem (filenameOf entry)) (name : String)
    (member : name ∈ expandManifest entries) : Text.IsItem name := by
  obtain ⟨entry, listed, rfl | ⟨lead, slash⟩⟩ := (mem_expandManifest entries name).1 member
  · exact items entry listed
  -- A leading directory is a beginning of an item and ends in a slash.
  · have last : name.toList.getLast? = some '/' := by simpa [Text.endsWithChar] using slash
    refine ⟨?_, ?_, ?_⟩
    · rintro rfl
      exact absurd last (by decide)
    · exact fun feed => (items entry listed).2.1 (lead.subset feed)
    · simp [last]

theorem parse_line (entry : BackupEntry) (whole : '\t' ∉ entry.path.toList) :
    BackupEntry.parse entry.line = entry := by
  have cut : Text.splitFirst "\t" entry.line = some (entry.path, entry.fingerprint) :=
    Text.splitFirst_append '\t' _ _ whole
  simp only [BackupEntry.parse, cut]

theorem isItem_line (entry : BackupEntry) (path : '\n' ∉ entry.path.toList)
    (fingerprint : Text.IsLine entry.fingerprint) : Text.IsItem entry.line := by
  have chars : entry.line.toList = entry.path.toList ++ '\t' :: entry.fingerprint.toList := by
    simp [BackupEntry.line]
  refine ⟨?_, ?_, ?_⟩
  · intro empty
    simp [empty] at chars
  · simp [chars, path, fingerprint.1]
  · rw [chars, List.getLast?_append_of_ne_nil _ (by simp), List.getLast?_cons]
    cases last : entry.fingerprint.toList.getLast? with
    | none => simp
    | some c => simpa [last] using fingerprint.2

/-- What the manifest of a record comes back as: the paths without the directories, in order. -/
def storedFiles (entries : List String) : List String :=
  (expandManifest entries).filter fun name => !Text.endsWithChar '/' name

theorem pairwise_storedFiles (entries : List String) : (storedFiles entries).Pairwise (· < ·) :=
  (pairwise_expandManifest entries).filter _

theorem mem_storedFiles (entries : List String) (name : String) :
    name ∈ storedFiles entries ↔
      Text.endsWithChar '/' name = false ∧ ∃ entry ∈ entries, filenameOf entry = name := by
  simp only [storedFiles, List.mem_filter, mem_expandManifest, Bool.not_eq_true']
  constructor
  · rintro ⟨⟨entry, listed, rfl | ⟨_, slash⟩⟩, plain⟩
    · exact ⟨plain, entry, listed, rfl⟩
    · simp [plain] at slash
  · rintro ⟨plain, entry, listed, rfl⟩
    exact ⟨⟨entry, listed, .inl rfl⟩, plain⟩

theorem decodeFiles_encodeFiles (record start : PackageRecord)
    (names : ∀ entry ∈ record.files, Text.IsItem (filenameOf entry))
    (entries : ∀ entry ∈ record.backup,
      '\n' ∉ entry.path.toList ∧ '\t' ∉ entry.path.toList ∧ Text.IsLine entry.fingerprint)
    (files : start.files = []) (backup : start.backup = []) :
    decodeFiles (encodeFiles record) start =
      ⟨{ start with files := storedFiles record.files, backup := record.backup }, none⟩ := by
  have first : Reads .files filesField (Section.list "FILES" (expandManifest record.files))
      start _ :=
    reads_list "FILES" (by decide) rfl _ _ (by cases start; simp_all)
      (isItem_of_mem_expandManifest _ names)
  have whole := first
    |>.append (reads_list "BACKUP" (by decide) rfl (record.backup.map BackupEntry.line) _
      (by cases start; simp_all) (by
        intro item member
        obtain ⟨entry, listed, rfl⟩ := List.mem_map.1 member
        have plain := entries entry listed
        exact isItem_line entry plain.1 plain.2.2))
  -- A tab parts the fingerprint from the path, which holds none.
  have parsed : (record.backup.map BackupEntry.line).map BackupEntry.parse = record.backup := by
    rw [List.map_map]
    refine (List.map_congr_left fun entry listed => ?_).trans (List.map_id _)
    exact parse_line entry (entries entry listed).2.1
  have decoded := whole.decodeLines_render
  rw [parsed] at decoded
  exact decoded

theorem decodeDepends_encodeDepends_installed (record start : PackageRecord)
    (storable : record.Storable) (depends : start.depends = [])
    (requiredBy : start.requiredBy = []) (conflicts : start.conflicts = [])
    (provides : start.provides = []) :
    decodeDepends (encodeDepends record .installed) start =
      ⟨{ start with
          depends := record.depends
          requiredBy := record.requiredBy
          conflicts := record.conflicts
          provides := record.provides }, none⟩ := by
  have first : Reads .depends dependsField (Section.list "DEPENDS" record.depends) start _ :=
    reads_list "DEPENDS" (by decide) rfl record.depends _ (by cases start; simp_all)
      storable.depends
  have whole := first
    |>.append (reads_list "REQUIREDBY" (by decide) rfl record.requiredBy _
      (by cases start; simp_all) storable.requiredBy)
    |>.append (reads_list "CONFLICTS" (by decide) rfl record.conflicts _
      (by cases start; simp_all) storable.conflicts)
    |>.append (reads_list "PROVIDES" (by decide) rfl record.provides _
      (by cases start; simp_all) storable.provides)
  exact whole.decodeLines_render

def PackageRecord.installedView (record : PackageRecord) : PackageRecord :=
  { record with
    compressedSize := 0
    sha1sum := ""
    replaces := []
    removes := []
    force := false
    stick := false
    files := storedFiles record.files }

theorem installed_files_give_back_record (record : PackageRecord) (storable : record.Storable) :
    ∃ afterDesc afterFiles afterDepends : PackageRecord,
      decodeDesc (encodeDesc record .installed) (.bare record.name record.version) =
        ⟨afterDesc, none⟩ ∧
      decodeFiles (encodeFiles record) afterDesc = ⟨afterFiles, none⟩ ∧
      decodeDepends (encodeDepends record .installed) afterFiles = ⟨afterDepends, none⟩ ∧
      decodeInstall (encodeInstall record.scriptlets) afterDepends = record.installedView :=
  ⟨_, _, _, decodeDesc_encodeDesc_installed record storable,
    decodeFiles_encodeFiles record _ storable.files storable.backup rfl rfl,
    decodeDepends_encodeDepends_installed record _ storable rfl rfl rfl rfl,
    decodeInstall_encodeInstall record.scriptlets storable.scriptlets _ rfl⟩

/-- Of the manifest only the paths come back, sorted and without the directories, and what the
installed system has no file for is gone. All else is as it was. -/
theorem installed_record_round_trips (record : PackageRecord) (storable : record.Storable) :
    ∃ files : List String,
      files.Pairwise (· < ·) ∧
      (∀ path, path ∈ files ↔
        Text.endsWithChar '/' path = false ∧ ∃ entry ∈ record.files, filenameOf entry = path) ∧
      ∃ afterDesc afterFiles afterDepends : PackageRecord,
        decodeDesc (encodeDesc record .installed) (.bare record.name record.version) =
          ⟨afterDesc, none⟩ ∧
        decodeFiles (encodeFiles record) afterDesc = ⟨afterFiles, none⟩ ∧
        decodeDepends (encodeDepends record .installed) afterFiles = ⟨afterDepends, none⟩ ∧
        decodeInstall (encodeInstall record.scriptlets) afterDepends =
          { record with
            compressedSize := 0
            sha1sum := ""
            replaces := []
            removes := []
            force := false
            stick := false
            files := files } :=
  ⟨storedFiles record.files, pairwise_storedFiles record.files, mem_storedFiles record.files,
    installed_files_give_back_record record storable⟩

/-- Values that look like title lines, function headings or directories. -/
def deceptiveRecord : PackageRecord where
  name := "%"
  version := "%%"
  description := "%URL%"
  license := ["%ARCH%", " "]
  size := Int64.minValue
  reason := Int32.minValue
  requiredBy := ["%PROVIDES%"]
  files := ["usr/bin/", "usr/bin/tool*", "/ -> x", "bin/tool", "usr/bin/tool -> /bin/tool"]
  backup := [⟨"", "%BACKUP%"⟩, ⟨"etc/a b", ""⟩]
  scriptlets := { preInstall := "post_install() \x7b\n\n", postUpgrade := "\x7d ;" }

theorem storable_deceptiveRecord : deceptiveRecord.Storable := by
  constructor <;> decide

theorem deceptiveRecord_round_trips :
    deceptiveRecord.Storable ∧ ∃ files : List String,
      files.Pairwise (· < ·) ∧
      (∀ path, path ∈ files ↔ Text.endsWithChar '/' path = false ∧
        ∃ entry ∈ deceptiveRecord.files, filenameOf entry = path) ∧
      ∃ afterDesc afterFiles afterDepends : PackageRecord,
        decodeDesc (encodeDesc deceptiveRecord .installed) (.bare "%" "%%") =
          ⟨afterDesc, none⟩ ∧
        decodeFiles (encodeFiles deceptiveRecord) afterDesc = ⟨afterFiles, none⟩ ∧
        decodeDepends (encodeDepends deceptiveRecord .installed) afterFiles =
          ⟨afterDepends, none⟩ ∧
        decodeInstall (encodeInstall deceptiveRecord.scriptlets) afterDepends =
          { deceptiveRecord with files := files } :=
  ⟨storable_deceptiveRecord, installed_record_round_trips deceptiveRecord storable_deceptiveRecord⟩

end PackageAssay

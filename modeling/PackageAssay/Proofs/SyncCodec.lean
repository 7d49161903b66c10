import Mathlib.Data.List.Basic
import PackageAssay.Proofs.RecordCodec

set_option autoImplicit false

namespace PackageAssay

/-- What a record has to satisfy for its fields to be told apart in the files of an entry of a
source of packages. -/
structure PackageRecord.Offerable (record : PackageRecord) : Prop where
  name : Text.IsPassedOver record.name
  version : Text.IsPassedOver record.version
  description : Text.IsLine record.description
  arch : Text.IsLine record.arch
  sha1sum : Text.IsLine record.sha1sum
  groups : ∀ item ∈ record.groups, Text.IsItem item
  replaces : ∀ item ∈ record.replaces, Text.IsItem item
  depends : ∀ item ∈ record.depends, Text.IsItem item
  conflicts : ∀ item ∈ record.conflicts, Text.IsItem item
  provides : ∀ item ∈ record.provides, Text.IsItem item

/-- The size of the archive is read as the size of the package as well. -/
def PackageRecord.ofSyncDesc (record : PackageRecord) : PackageRecord :=
  { record.heading with
    compressedSize := record.compressedSize
    size := record.compressedSize
    sha1sum := record.sha1sum
    replaces := record.replaces
    force := record.force
    stick := record.stick }

theorem reads_flag_as_field {file : SectionKey} {fields : String → Option Field} (title : String)
    (proper : title ≠ "" ∧ '\n' ∉ title.toList) (store : Bool → PackageRecord → PackageRecord)
    (known : fields title = some (.flag (store true))) (isSet : Bool) (record : PackageRecord)
    (idle : store false record = record) :
    Reads file fields (Section.flag title isSet) record (store isSet record) := by
  have reads : Reads file fields (Section.flag title isSet) record _ :=
    reads_flag title proper known isSet record
  cases isSet with
  | false => rwa [idle]
  | true => exact reads

theorem reads_descSections_sync (record : PackageRecord) (offerable : record.Offerable) :
    Reads .desc descField (descSections record .sync) record.heading record.ofSyncDesc := by
  have first : Reads .desc descField (Section.integer "CSIZE" record.compressedSize.toInt)
      record.heading _ :=
    reads_integer "CSIZE" (by decide) rfl record.compressedSize _ rfl
  have whole := first
    |>.append (reads_scalar "SHA1SUM" (by decide) rfl _ _ rfl offerable.sha1sum)
    |>.append (reads_list "REPLACES" (by decide) rfl _ _ rfl offerable.replaces)
    |>.append (reads_flag_as_field "FORCE" (by decide)
      (fun isSet record => { record with force := isSet }) rfl record.force _ rfl)
    |>.append (reads_flag_as_field "STICK" (by decide)
      (fun isSet record => { record with stick := isSet }) rfl record.stick _ rfl)
  exact whole

theorem decodeDesc_encodeDesc_sync (record : PackageRecord) (offerable : record.Offerable) :
    decodeDesc (encodeDesc record .sync) (.bare record.name record.version) =
      ⟨record.ofSyncDesc, none⟩ :=
  (reads_heading record offerable.name offerable.version offerable.description offerable.groups
    offerable.arch |>.append (reads_descSections_sync record offerable)).decodeLines_render

theorem decodeDepends_encodeDepends_sync (record start : PackageRecord)
    (offerable : record.Offerable) (depends : start.depends = [])
    (conflicts : start.conflicts = []) (provides : start.provides = []) :
    decodeDepends (encodeDepends record .sync) start =
      ⟨{ start with
          depends := record.depends
          conflicts := record.conflicts
          provides := record.provides }, none⟩ := by
  have first : Reads .depends dependsField (Section.list "DEPENDS" record.depends) start _ :=
    reads_list "DEPENDS" (by decide) rfl record.depends _ (by cases start; simp_all)
      offerable.depends
  have whole := first
    |>.append (.nil _)
    |>.append (reads_list "CONFLICTS" (by decide) rfl record.conflicts _
      (by cases start; simp_all) offerable.conflicts)
    |>.append (reads_list "PROVIDES" (by decide) rfl record.provides _
      (by cases start; simp_all) offerable.provides)
  exact whole.decodeLines_render

/-- What a source of packages tells comes back. A record that differs from this one only in what is
not told has the same two files. -/
theorem sync_record_round_trips (record : PackageRecord) (offerable : record.Offerable) :
    (∃ afterDesc : PackageRecord,
      decodeDesc (encodeDesc record .sync) (.bare record.name record.version) =
        ⟨afterDesc, none⟩ ∧
      decodeDepends (encodeDepends record .sync) afterDesc =
        ⟨{ name := record.name
           version := record.version
           description := record.description
           groups := record.groups
           arch := record.arch
           compressedSize := record.compressedSize
           size := record.compressedSize
           sha1sum := record.sha1sum
           replaces := record.replaces
           force := record.force
           stick := record.stick
           depends := record.depends
           conflicts := record.conflicts
           provides := record.provides }, none⟩) ∧
    ∀ (url buildDate installDate packager : String) (license requiredBy files removes : List String)
      (size : Int64) (reason : Int32) (backup : List BackupEntry) (scriptlets : Scriptlets),
      let other : PackageRecord := { record with
        url, buildDate, installDate, packager, license, requiredBy, files, removes, size, reason,
        backup, scriptlets }
      encodeDesc other .sync = encodeDesc record .sync ∧
        encodeDepends other .sync = encodeDepends record .sync := by
  refine ⟨⟨record.ofSyncDesc, decodeDesc_encodeDesc_sync record offerable, ?_⟩, ?_⟩
  · exact decodeDepends_encodeDepends_sync record record.ofSyncDesc offerable rfl rfl rfl
  · intros
    exact ⟨rfl, rfl⟩

/-- Flags stand next to each other and to empty sections, and items look like titles. -/
def titledRecord : PackageRecord where
  name := "%"
  version := "%%"
  description := "%CSIZE%"
  url := "http://host"
  groups := ["%FORCE%", " "]
  size := 7
  compressedSize := Int64.minValue
  reason := 1
  replaces := ["%STICK%"]
  force := true
  stick := true
  requiredBy := ["other"]
  provides := ["%DEPENDS%"]

theorem offerable_titledRecord : titledRecord.Offerable := by
  constructor <;> decide

theorem sync_record_round_trips_titledRecord :
    titledRecord.Offerable ∧ ∃ afterDesc : PackageRecord,
      decodeDesc (encodeDesc titledRecord .sync) (.bare "%" "%%") = ⟨afterDesc, none⟩ ∧
      decodeDepends (encodeDepends titledRecord .sync) afterDesc =
        ⟨{ titledRecord with
            url := "", size := Int64.minValue, reason := 0, requiredBy := [] }, none⟩ :=
  ⟨offerable_titledRecord, (sync_record_round_trips titledRecord offerable_titledRecord).1⟩

end PackageAssay

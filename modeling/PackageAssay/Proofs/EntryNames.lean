import Mathlib.Data.List.Basic
import Mathlib.Data.List.Count
import PackageAssay.Database.EntryName
import PackageAssay.Package.Record
import PackageAssay.Proofs.Splits

set_option autoImplicit false

namespace PackageAssay

theorem EntryName.parse?_joined (name version release : String)
    (plainVersion : '-' ∉ version.toList) (plainRelease : '-' ∉ release.toList) :
    EntryName.parse? (name ++ "-" ++ version ++ "-" ++ release) =
      some ⟨name, version, release⟩ := by
  -- The name may hold hyphens, since the cuts are made from the end.
  have outer : Text.splitLast "-" (name ++ "-" ++ version ++ "-" ++ release) =
      some (name ++ "-" ++ version, release) := Text.splitLast_append '-' _ _ plainRelease
  have inner : Text.splitLast "-" (name ++ "-" ++ version) = some (name, version) :=
    Text.splitLast_append '-' _ _ plainVersion
  simp only [EntryName.parse?, outer, inner]

/-- The two cuts that give the parts of a name. -/
theorem EntryName.parse?_eq_some_iff_cuts (directory : String) (entry : EntryName) :
    parse? directory = some entry ↔
      ∃ rest, Text.splitLast "-" directory = some (rest, entry.release) ∧
        Text.splitLast "-" rest = some (entry.name, entry.version) := by
  constructor
  · intro parsed
    unfold parse? at parsed
    split at parsed
    · cases parsed
    · next rest release outer =>
        split at parsed
        · cases parsed
        · next name version inner =>
            cases parsed
            exact ⟨rest, outer, inner⟩
  · rintro ⟨rest, outer, inner⟩
    simp only [parse?, outer, inner]

theorem EntryName.eq_of_parse? {directory : String} {entry : EntryName}
    (parsed : parse? directory = some entry) :
    directory = entry.name ++ "-" ++ entry.fullVersion := by
  obtain ⟨rest, outer, inner⟩ := (parse?_eq_some_iff_cuts _ _).1 parsed
  rw [Text.eq_of_splitLast (by decide) outer, Text.eq_of_splitLast (by decide) inner, fullVersion]
  simp only [String.append_assoc]

theorem EntryName.parse?_eq_some_iff (directory : String) (entry : EntryName) :
    parse? directory = some entry ↔
      directory = entry.name ++ "-" ++ entry.version ++ "-" ++ entry.release ∧
        '-' ∉ entry.version.toList ∧ '-' ∉ entry.release.toList := by
  constructor
  · intro parsed
    obtain ⟨rest, outer, inner⟩ := (parse?_eq_some_iff_cuts _ _).1 parsed
    have joined := eq_of_parse? parsed
    rw [fullVersion, ← String.append_assoc, ← String.append_assoc] at joined
    exact ⟨joined, Text.notMem_of_splitLast '-' inner, Text.notMem_of_splitLast '-' outer⟩
  · rintro ⟨rfl, plainVersion, plainRelease⟩
    exact parse?_joined _ _ _ plainVersion plainRelease

theorem count_hyphen_join (before after : String) :
    (before ++ "-" ++ after).toList.count '-' =
      before.toList.count '-' + after.toList.count '-' + 1 := by
  have hyphen : "-".toList.count '-' = 1 := by decide
  rw [String.toList_append, String.toList_append, List.count_append, List.count_append, hyphen]
  omega

theorem EntryName.parse?_eq_none_iff (directory : String) :
    parse? directory = none ↔ directory.toList.count '-' < 2 := by
  constructor
  · intro unparsed
    -- One of the two cuts is missing, and where it is missed there is no hyphen.
    cases outer : Text.splitLast "-" directory with
    | none =>
        have absent := (Text.splitLast_eq_none_iff '-' directory).1 outer
        rw [List.count_eq_zero.2 absent]
        decide
    | some cut =>
        obtain ⟨rest, release⟩ := cut
        cases inner : Text.splitLast "-" rest with
        | none =>
            have plain := (Text.splitLast_eq_none_iff '-' rest).1 inner
            rw [Text.eq_of_splitLast (by decide) outer, count_hyphen_join,
              List.count_eq_zero.2 plain, List.count_eq_zero.2 (Text.notMem_of_splitLast '-' outer)]
            decide
        | some cut =>
            obtain ⟨name, version⟩ := cut
            have parsed := (parse?_eq_some_iff_cuts _ ⟨name, version, release⟩).2
              ⟨rest, outer, inner⟩
            rw [unparsed] at parsed
            cases parsed
  · intro few
    cases parsed : parse? directory with
    | none => rfl
    | some entry =>
        rw [((parse?_eq_some_iff _ _).1 parsed).1, count_hyphen_join, count_hyphen_join] at few
        omega

theorem exists_parts_of_one_hyphen (text : String) (one : text.toList.count '-' = 1) :
    ∃ version release : String, text = version ++ "-" ++ release ∧ '-' ∉ version.toList ∧
      '-' ∉ release.toList := by
  have member : '-' ∈ text.toList := List.count_pos_iff.1 (by omega)
  obtain ⟨before, after, shape⟩ := List.append_of_mem member
  rw [shape, List.count_append, List.count_cons_self] at one
  refine ⟨String.ofList before, String.ofList after, ?_, ?_, ?_⟩
  · exact String.toList_injective (by simp [shape])
  · rw [String.toList_ofList]
    exact List.count_eq_zero.1 (by omega)
  · rw [String.toList_ofList]
    exact List.count_eq_zero.1 (by omega)

theorem parse?_dbname (record : PackageRecord) (one : record.version.toList.count '-' = 1) :
    ∃ entry : EntryName, EntryName.parse? record.dbname = some entry ∧
      entry.name = record.name ∧ entry.fullVersion = record.version := by
  obtain ⟨version, release, shape, plainVersion, plainRelease⟩ :=
    exists_parts_of_one_hyphen record.version one
  refine ⟨⟨record.name, version, release⟩, ?_, rfl, shape.symm⟩
  rw [PackageRecord.dbname, shape, ← String.append_assoc, ← String.append_assoc]
  exact EntryName.parse?_joined _ _ _ plainVersion plainRelease

theorem count_hyphen_fullVersion {directory : String} {entry : EntryName}
    (parsed : EntryName.parse? directory = some entry) :
    entry.fullVersion.toList.count '-' = 1 := by
  obtain ⟨-, plainVersion, plainRelease⟩ := (EntryName.parse?_eq_some_iff _ _).1 parsed
  rw [EntryName.fullVersion, count_hyphen_join, List.count_eq_zero.2 plainVersion,
    List.count_eq_zero.2 plainRelease]

theorem directory_names_split_uniquely :
    (∀ directory name version release, EntryName.parse? directory = some ⟨name, version, release⟩ ↔
      directory = name ++ "-" ++ version ++ "-" ++ release ∧
        '-' ∉ version.toList ∧ '-' ∉ release.toList) ∧
    (∀ directory, EntryName.parse? directory = none ↔ directory.toList.count '-' < 2) ∧
    (∀ record : PackageRecord,
      (∃ version release, EntryName.parse? record.dbname = some ⟨record.name, version, release⟩ ∧
        version ++ "-" ++ release = record.version) ↔ record.version.toList.count '-' = 1) ∧
    ∀ record other : PackageRecord, record.version.toList.count '-' = 1 →
      other.version.toList.count '-' = 1 → record.dbname = other.dbname →
      record.name = other.name ∧ record.version = other.version := by
  refine ⟨fun directory name version release =>
    EntryName.parse?_eq_some_iff directory ⟨name, version, release⟩,
    EntryName.parse?_eq_none_iff, ?_, ?_⟩
  · intro record
    constructor
    · rintro ⟨version, release, parsed, same⟩
      have one := count_hyphen_fullVersion parsed
      rwa [EntryName.fullVersion, same] at one
    · intro one
      obtain ⟨⟨_, version, release⟩, parsed, rfl, same⟩ := parse?_dbname record one
      exact ⟨version, release, parsed, same⟩
  · intro record other one otherOne same
    obtain ⟨entry, parsed, name, version⟩ := parse?_dbname record one
    obtain ⟨otherEntry, otherParsed, otherName, otherVersion⟩ := parse?_dbname other otherOne
    rw [same, otherParsed] at parsed
    cases parsed
    exact ⟨name.symm.trans otherName, version.symm.trans otherVersion⟩

def hyphenatedRecord : PackageRecord := { name := "foo-bar", version := "-1" }

theorem directory_names_split_uniquely_hyphenatedRecord :
    let other : PackageRecord := { hyphenatedRecord with url := "example.org" }
    hyphenatedRecord.version.toList.count '-' = 1 ∧ other ≠ hyphenatedRecord ∧
      hyphenatedRecord.dbname = other.dbname ∧ hyphenatedRecord.name = other.name ∧
      hyphenatedRecord.version = other.version ∧
      EntryName.parse? hyphenatedRecord.dbname = some ⟨"foo-bar", "", "1"⟩ := by
  intro other
  have one : hyphenatedRecord.version.toList.count '-' = 1 := by decide
  have same : hyphenatedRecord.dbname = other.dbname := rfl
  have dbname : hyphenatedRecord.dbname = "foo-bar" ++ "-" ++ "" ++ "-" ++ "1" := by decide
  obtain ⟨split, -, -, unique⟩ := directory_names_split_uniquely
  obtain ⟨name, version⟩ := unique hyphenatedRecord other one one same
  refine ⟨one, by decide, same, name, version, ?_⟩
  exact (split _ _ _ _).2 ⟨dbname, by decide, by decide⟩

end PackageAssay

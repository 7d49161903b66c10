import PackageAssay.Proofs.LineCuts
import PackageAssay.Proofs.ManifestExpansion
import PackageAssay.Proofs.RecordCodec

set_option autoImplicit false

namespace PackageAssay

theorem mem_expandManifest_of_storedFiles {entries : List String} {name : String}
    (member : name ∈ storedFiles entries) : name ∈ expandManifest entries :=
  List.mem_of_mem_filter member

theorem unlinked_of_mem_storedFiles {entries : List String} {name : String}
    (member : name ∈ storedFiles entries) :
    ¬ManifestEntry.linkSeparator.toList <:+: name.toList :=
  unlinked_of_mem_expandManifest (mem_expandManifest_of_storedFiles member)

theorem unmarked_of_same_expansion {entries : List String}
    (same : expandManifest (storedFiles entries) = expandManifest entries) {entry : String}
    (held : entry ∈ entries) : Text.endsWithChar '*' (filenameOf entry) = false := by
  apply Text.not_endsWithChar_of_longer '*' (expandManifest entries)
  · intro name member marked
    rw [← same] at member
    have longer := longer_mem_of_mem_expandManifest (fun _ => unlinked_of_mem_storedFiles)
      member marked
    exact mem_expandManifest_of_storedFiles longer
  · exact (mem_expandManifest entries _).2 ⟨entry, held, .inl rfl⟩

section Unmarked

variable {entries : List String}
  (unmarked : ∀ entry ∈ entries, Text.endsWithChar '/' (filenameOf entry) = false →
    Text.endsWithChar '*' (filenameOf entry) = false)

include unmarked

theorem filenameOf_of_mem_storedFiles {name : String} (member : name ∈ storedFiles entries) :
    filenameOf name = name := by
  obtain ⟨plain, entry, held, same⟩ := (mem_storedFiles entries name).1 member
  apply filenameOf_of_unmarked (unlinked_of_mem_storedFiles member)
  rw [← same] at plain ⊢
  exact unmarked entry held plain

theorem mem_expandManifest_storedFiles (name : String) :
    name ∈ expandManifest (storedFiles entries) ↔ name ∈ storedFiles entries ∨
      Text.endsWithChar '/' name = true ∧
        ∃ other ∈ storedFiles entries, name.toList <+: other.toList := by
  rw [mem_expandManifest]
  constructor
  · rintro ⟨other, stored, named⟩
    rw [filenameOf_of_mem_storedFiles unmarked stored] at named
    rcases named with rfl | ⟨lead, slash⟩
    · exact .inl stored
    · exact .inr ⟨slash, other, stored, lead⟩
  · rintro (stored | ⟨slash, other, stored, lead⟩)
    · exact ⟨name, stored, .inl (filenameOf_of_mem_storedFiles unmarked stored).symm⟩
    · refine ⟨other, stored, .inr ⟨?_, slash⟩⟩
      rwa [filenameOf_of_mem_storedFiles unmarked stored]

end Unmarked

theorem expandManifest_storedFiles_iff (entries : List String) :
    expandManifest (storedFiles entries) = expandManifest entries ↔
      (∀ entry ∈ entries, Text.endsWithChar '/' (filenameOf entry) = false →
        Text.endsWithChar '*' (filenameOf entry) = false) ∧
      ∀ entry ∈ entries, Text.endsWithChar '/' (filenameOf entry) = true →
        ∃ other ∈ entries, Text.endsWithChar '/' (filenameOf other) = false ∧
          (filenameOf entry).toList <+: (filenameOf other).toList := by
  constructor
  · intro same
    have unmarked : ∀ entry ∈ entries, Text.endsWithChar '/' (filenameOf entry) = false →
        Text.endsWithChar '*' (filenameOf entry) = false :=
      fun entry held _ => unmarked_of_same_expansion same held
    refine ⟨unmarked, fun entry held slash => ?_⟩
    have listed : filenameOf entry ∈ expandManifest entries :=
      (mem_expandManifest entries _).2 ⟨entry, held, .inl rfl⟩
    rw [← same, mem_expandManifest_storedFiles unmarked] at listed
    rcases listed with stored | ⟨-, name, stored, lead⟩
    · have plain := ((mem_storedFiles entries _).1 stored).1
      simp [slash] at plain
    · obtain ⟨plain, other, found, rfl⟩ := (mem_storedFiles entries name).1 stored
      exact ⟨other, found, plain, lead⟩
  · rintro ⟨unmarked, occupied⟩
    apply (pairwise_expandManifest _).eq_of_mem_iff (pairwise_expandManifest _)
    intro name
    rw [mem_expandManifest_storedFiles unmarked]
    constructor
    · rintro (stored | ⟨slash, other, stored, lead⟩)
      · exact mem_expandManifest_of_storedFiles stored
      · exact mem_expandManifest_of_lead (mem_expandManifest_of_storedFiles stored) lead slash
    · intro listed
      obtain ⟨entry, held, further⟩ := exists_lead_of_mem_expandManifest listed
      cases slash : Text.endsWithChar '/' name with
      | false =>
          exact .inl (List.mem_filter.2 ⟨listed, by simp [slash]⟩)
      | true =>
          refine .inr ⟨rfl, ?_⟩
          cases inner : Text.endsWithChar '/' (filenameOf entry) with
          | false => exact ⟨_, (mem_storedFiles entries _).2 ⟨inner, entry, held, rfl⟩, further⟩
          -- A directory that was listed itself leads on to something that is none.
          | true =>
              obtain ⟨other, found, plain, lead⟩ := occupied entry held inner
              exact ⟨_, (mem_storedFiles entries _).2 ⟨plain, other, found, rfl⟩,
                further.trans lead⟩

theorem filenameOf_prefix {path : String}
    (unlinked : ¬ManifestEntry.linkSeparator.toList <:+: path.toList) :
    (filenameOf path).toList <+: path.toList := by
  cases ends : Text.endsWithChar '*' path with
  | false => rw [filenameOf_of_unmarked unlinked ends]
  | true =>
      have cut := congrArg String.toList (eq_filenameOf_append_of_marked unlinked ends)
      rw [String.toList_append] at cut
      exact ⟨_, cut.symm⟩

theorem whole_of_mem_expandManifest_storedFiles {entries : List String}
    (whole : ∀ name ∈ expandManifest entries, '\n' ∉ name.toList) (name : String)
    (member : name ∈ expandManifest (storedFiles entries)) : '\n' ∉ name.toList := by
  obtain ⟨other, stored, lead⟩ := exists_lead_of_mem_expandManifest member
  have further := filenameOf_prefix (unlinked_of_mem_storedFiles stored)
  intro feed
  exact whole other (mem_expandManifest_of_storedFiles stored) ((lead.trans further).subset feed)

theorem Section.flatMap_lines_list (title : String) (items : List String)
    (whole : ∀ item ∈ items, '\n' ∉ item.toList) :
    (Section.list title items).flatMap Section.lines =
      if items = [] then [] else Section.header title :: (items ++ [""]) := by
  cases items with
  | nil => rfl
  | cons first others =>
      simp [Section.list, Section.always, Section.lines, Text.rows_joinLines _ _ whole]

theorem Section.whole_of_mem_list {title : String} (titleWhole : '\n' ∉ title.toList)
    {items : List String} (whole : ∀ item ∈ items, '\n' ∉ item.toList) (line : String)
    (member : line ∈ (Section.list title items).flatMap Section.lines) : '\n' ∉ line.toList := by
  rw [Section.flatMap_lines_list title items whole] at member
  split at member
  · simp at member
  · rcases List.mem_cons.1 member with rfl | member
    · simpa [toList_header] using titleWhole
    · rcases List.mem_append.1 member with listed | blank
      · exact whole line listed
      · obtain rfl : line = "" := by simpa using blank
        simp

theorem encodeFiles_eq_iff {record other : PackageRecord} (backup : other.backup = record.backup)
    (whole : ∀ name ∈ expandManifest record.files, '\n' ∉ name.toList)
    (otherWhole : ∀ name ∈ expandManifest other.files, '\n' ∉ name.toList) :
    encodeFiles other = encodeFiles record ↔
      expandManifest other.files = expandManifest record.files := by
  constructor
  · intro same
    have chars := congrArg String.toList same
    -- Both files end in the same section of backups.
    simp only [encodeFiles, Section.toList_render, backup, List.flatMap_append, Text.closed] at chars
    have lists := Text.closed_inj (Section.whole_of_mem_list (by decide) otherWhole)
      (Section.whole_of_mem_list (by decide) whole) (List.append_cancel_right chars)
    rw [Section.flatMap_lines_list "FILES" _ otherWhole,
      Section.flatMap_lines_list "FILES" _ whole] at lists
    split at lists
    · next otherNone =>
        split at lists
        · next none => rw [otherNone, none]
        · cases lists
    · split at lists
      · cases lists
      · exact List.append_cancel_right (List.cons.inj lists).2
  · intro same
    rw [encodeFiles, encodeFiles, same, backup]

/-- Directories come back where they lead to something that is none, and marks do not come back. -/
theorem rewritten_manifest_same_iff (record start : PackageRecord)
    (names : ∀ entry ∈ record.files, Text.IsItem (filenameOf entry))
    (backups : ∀ entry ∈ record.backup,
      '\n' ∉ entry.path.toList ∧ '\t' ∉ entry.path.toList ∧ Text.IsLine entry.fingerprint)
    (noFiles : start.files = []) (noBackup : start.backup = []) :
    ∃ decoded : PackageRecord, decodeFiles (encodeFiles record) start = ⟨decoded, none⟩ ∧
      (encodeFiles decoded = encodeFiles record ↔
        (∀ entry ∈ record.files, Text.endsWithChar '/' (filenameOf entry) = false →
          Text.endsWithChar '*' (filenameOf entry) = false) ∧
        ∀ entry ∈ record.files, Text.endsWithChar '/' (filenameOf entry) = true →
          ∃ other ∈ record.files, Text.endsWithChar '/' (filenameOf other) = false ∧
            (filenameOf entry).toList <+: (filenameOf other).toList) := by
  have whole : ∀ name ∈ expandManifest record.files, '\n' ∉ name.toList := fun name member =>
    (isItem_of_mem_expandManifest record.files names name member).2.1
  refine ⟨_, decodeFiles_encodeFiles record start names backups noFiles noBackup, ?_⟩
  refine Iff.trans (encodeFiles_eq_iff ?_ whole ?_) (expandManifest_storedFiles_iff record.files)
  · rfl
  · exact whole_of_mem_expandManifest_storedFiles whole

def occupiedRecord : PackageRecord where
  files := ["usr/", "usr/bin/", "usr/bin/tool*", "lib -> usr/lib*", "a b", "usr/bin/tool"]
  backup := [⟨"etc/tool.conf", ""⟩, ⟨"", "%FILES%"⟩]

def vacantRecord : PackageRecord :=
  { occupiedRecord with files := "var/" :: occupiedRecord.files }

theorem rewritten_manifest_same_iff_occupiedRecord :
    (∃ decoded : PackageRecord,
      decodeFiles (encodeFiles occupiedRecord) {} = ⟨decoded, none⟩ ∧
        encodeFiles decoded = encodeFiles occupiedRecord) ∧
    ∃ decoded : PackageRecord,
      decodeFiles (encodeFiles vacantRecord) {} = ⟨decoded, none⟩ ∧
        encodeFiles decoded ≠ encodeFiles vacantRecord := by
  constructor
  · obtain ⟨decoded, done, same⟩ :=
      rewritten_manifest_same_iff occupiedRecord {} (by decide) (by decide) rfl rfl
    exact ⟨decoded, done, same.2 (by decide)⟩
  · obtain ⟨decoded, done, same⟩ :=
      rewritten_manifest_same_iff vacantRecord {} (by decide) (by decide) rfl rfl
    exact ⟨decoded, done, fun kept => absurd (same.1 kept) (by decide)⟩

end PackageAssay

import PackageAssay.Proofs.ByteOrder
import PackageAssay.Proofs.ManifestEntries
import PackageAssay.Proofs.Manifests

/-!
# Expansion as a closure

The expansion of a manifest is the closure of its paths under the directories that lead to them,
in byte order. The paths alone decide it, and expanding it once more adds nothing unless one of
the paths still ends in the mark of an altered file.
-/

set_option autoImplicit false

namespace PackageAssay

theorem exists_lead_of_mem_expandManifest {entries : List String} {name : String}
    (member : name ∈ expandManifest entries) :
    ∃ entry ∈ entries, name.toList <+: (filenameOf entry).toList := by
  obtain ⟨entry, held, rfl | ⟨lead, -⟩⟩ := (mem_expandManifest entries name).1 member
  · exact ⟨entry, held, List.prefix_rfl⟩
  · exact ⟨entry, held, lead⟩

theorem mem_expandManifest_of_lead {entries : List String} {name directory : String}
    (member : name ∈ expandManifest entries) (lead : directory.toList <+: name.toList)
    (slash : Text.endsWithChar '/' directory = true) : directory ∈ expandManifest entries := by
  obtain ⟨entry, held, further⟩ := exists_lead_of_mem_expandManifest member
  exact (mem_expandManifest entries directory).2
    ⟨entry, held, .inr ⟨lead.trans further, slash⟩⟩

theorem unlinked_of_mem_expandManifest {entries : List String} {name : String}
    (member : name ∈ expandManifest entries) :
    ¬ManifestEntry.linkSeparator.toList <:+: name.toList := by
  obtain ⟨entry, -, lead⟩ := exists_lead_of_mem_expandManifest member
  exact fun found => not_linkSeparator_infix_filenameOf entry (found.trans lead.isInfix)

theorem expandManifest_congr {entries others : List String}
    (same : ∀ path, path ∈ entries.map filenameOf ↔ path ∈ others.map filenameOf) :
    expandManifest entries = expandManifest others := by
  simp only [List.mem_map] at same
  refine sortedNames_congr fun name => ?_
  simp only [List.mem_flatMap]
  constructor
  · rintro ⟨entry, held, leads⟩
    obtain ⟨other, found, path⟩ := (same _).1 ⟨entry, held, rfl⟩
    exact ⟨other, found, path ▸ leads⟩
  · rintro ⟨entry, held, leads⟩
    obtain ⟨other, found, path⟩ := (same _).2 ⟨entry, held, rfl⟩
    exact ⟨other, found, path ▸ leads⟩

/-- The first list holds the names of the other two, each once and in byte order. -/
structure SortedUnion (union left right : List String) : Prop where
  ordered : union.Pairwise Text.BytesBefore
  members : ∀ name, name ∈ union ↔ name ∈ left ∨ name ∈ right

theorem bytesBefore_expandManifest (entries : List String) :
    (expandManifest entries).Pairwise Text.BytesBefore :=
  (pairwise_expandManifest entries).imp Text.bytesBefore_of_lt

theorem sortedUnion_expandManifest_append (entries others : List String) :
    SortedUnion (expandManifest (entries ++ others)) (expandManifest entries)
      (expandManifest others) where
  ordered := bytesBefore_expandManifest _
  members name := by
    simp only [mem_expandManifest, List.mem_append, or_and_right, exists_or]

theorem directory_before_of_expandManifest {entries before after : List String}
    {below directory : String} (cut : expandManifest entries = before ++ below :: after)
    (lead : directory.toList <+: below.toList) (different : directory ≠ below)
    (slash : Text.endsWithChar '/' directory = true) : directory ∈ before := by
  have listed : directory ∈ before ++ below :: after :=
    cut ▸ mem_expandManifest_of_lead (by simp [cut]) lead slash
  have ordered := pairwise_expandManifest entries
  rw [cut, List.pairwise_append, List.pairwise_cons] at ordered
  rcases List.mem_append.1 listed with earlier | later
  · exact earlier
  · rcases List.mem_cons.1 later with same | behind
    · exact absurd same different
    · have greater : below < directory := ordered.2.1.1 directory behind
      exact absurd greater (Std.not_lt.2 lead.le)

theorem expandManifest_is_closure (entries : List String) :
    (expandManifest entries).Pairwise Text.BytesBefore ∧
    (∀ name, name ∈ expandManifest entries ↔ ∃ entry ∈ entries, name = filenameOf entry ∨
      name ≠ "" ∧ name.toList <+: (filenameOf entry).toList ∧
        Text.endsWithChar '/' name = true) ∧
    (∀ others : List String,
      (∀ path, path ∈ entries.map filenameOf ↔ path ∈ others.map filenameOf) →
        expandManifest entries = expandManifest others) ∧
    (∀ others, SortedUnion (expandManifest (entries ++ others)) (expandManifest entries)
      (expandManifest others)) ∧
    (∀ before below after directory, expandManifest entries = before ++ below :: after →
      directory.toList <+: below.toList → directory ≠ below →
        Text.endsWithChar '/' directory = true → directory ∈ before) := by
  refine ⟨bytesBefore_expandManifest entries, fun name => ?_, fun others => expandManifest_congr,
    sortedUnion_expandManifest_append entries,
    fun before below after directory => directory_before_of_expandManifest⟩
  have nonempty : Text.endsWithChar '/' name = true → name ≠ "" := by
    rintro slash rfl
    exact absurd slash (by decide)
  rw [mem_expandManifest]
  constructor
  · rintro ⟨entry, held, same | ⟨lead, slash⟩⟩
    · exact ⟨entry, held, .inl same⟩
    · exact ⟨entry, held, .inr ⟨nonempty slash, lead, slash⟩⟩
  · rintro ⟨entry, held, same | ⟨-, lead, slash⟩⟩
    · exact ⟨entry, held, .inl same⟩
    · exact ⟨entry, held, .inr ⟨lead, slash⟩⟩

theorem expandManifest_of_unmarked {entries : List String}
    (unmarked : ∀ name ∈ expandManifest entries, Text.endsWithChar '*' name = false) :
    expandManifest (expandManifest entries) = expandManifest entries := by
  have path : ∀ name ∈ expandManifest entries, filenameOf name = name := fun name member =>
    filenameOf_of_unmarked (unlinked_of_mem_expandManifest member) (unmarked name member)
  apply (pairwise_expandManifest _).eq_of_mem_iff (pairwise_expandManifest _)
  intro name
  rw [mem_expandManifest]
  constructor
  · rintro ⟨entry, member, same | ⟨lead, slash⟩⟩
    · rwa [same, path entry member]
    · exact mem_expandManifest_of_lead member (path entry member ▸ lead) slash
  · intro member
    exact ⟨name, member, .inl (path name member).symm⟩

theorem longer_mem_of_mem_expandManifest {names : List String}
    (unlinked : ∀ name ∈ names, ¬ManifestEntry.linkSeparator.toList <:+: name.toList)
    {name : String} (member : name ∈ expandManifest names)
    (marked : Text.endsWithChar '*' name = true) : name ++ "*" ∈ names := by
  have noSlash : Text.endsWithChar '/' name = false :=
    not_endsWithChar_of_endsWithChar (by decide) marked
  obtain ⟨entry, held, same | ⟨-, slash⟩⟩ := (mem_expandManifest names name).1 member
  · cases ends : Text.endsWithChar '*' entry with
    | false =>
        rw [filenameOf_of_unmarked (unlinked entry held) ends] at same
        rw [same, ends] at marked
        cases marked
    | true =>
        rw [same, ← eq_filenameOf_append_of_marked (unlinked entry held) ends]
        exact held
  · exact absurd slash (Bool.eq_false_iff.1 noSlash)

theorem longer_mem_expandManifest {entries : List String}
    (again : expandManifest (expandManifest entries) = expandManifest entries) {name : String}
    (member : name ∈ expandManifest entries) (marked : Text.endsWithChar '*' name = true) :
    name ++ "*" ∈ expandManifest entries := by
  rw [← again] at member
  exact longer_mem_of_mem_expandManifest (fun _ => unlinked_of_mem_expandManifest) member marked

theorem expandManifest_idempotent_iff (entries : List String) :
    expandManifest (expandManifest entries) = expandManifest entries ↔
      ∀ entry ∈ entries, Text.endsWithChar '*' (filenameOf entry) = false := by
  constructor
  · intro again entry held
    apply Text.not_endsWithChar_of_longer '*' (expandManifest entries)
    · intro name member marked
      exact longer_mem_expandManifest again member marked
    · exact (mem_expandManifest entries _).2 ⟨entry, held, .inl rfl⟩
  · intro unmarked
    apply expandManifest_of_unmarked
    intro name member
    obtain ⟨entry, held, rfl | ⟨-, slash⟩⟩ := (mem_expandManifest entries name).1 member
    · exact unmarked entry held
    · exact not_endsWithChar_of_endsWithChar (by decide) slash

end PackageAssay

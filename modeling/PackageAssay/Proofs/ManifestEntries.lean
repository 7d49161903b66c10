import PackageAssay.Manifest.Entry
import PackageAssay.Proofs.Splits

/-!
# What manifest entries stand for

Every text is read as an entry, and written out again that entry is the same text. Which entries
come back from their texts is seen from these texts alone.
-/

set_option autoImplicit false

namespace PackageAssay

theorem Text.IsFirstCut.not_infix {separator before after : String} (nonempty : separator ≠ "")
    (first : IsFirstCut separator before after) : ¬separator.toList <:+: before.toList := by
  rintro ⟨front, back, shape⟩
  have inside : before = String.ofList front ++ separator ++ String.ofList back :=
    String.toList_injective (by simp [← shape])
  have least := first (String.ofList front) (String.ofList back ++ separator ++ after) (by
    rw [inside]
    simp only [String.append_assoc])
  have some : 0 < separator.length := by
    rw [← String.length_toList, List.length_pos_iff]
    simpa using nonempty
  rw [inside, String.length_append, String.length_append] at least
  omega

theorem not_endsWithChar_of_endsWithChar {last other : Char} {text : String}
    (different : other ≠ last) (ends : Text.endsWithChar last text = true) :
    Text.endsWithChar other text = false := by
  rw [Text.endsWithChar, beq_iff_eq] at ends
  simp [Text.endsWithChar, ends, different.symm]

namespace ManifestEntry

def text (entry : ManifestEntry) : String :=
  match entry.kind with
  | .symlink target => entry.path ++ linkSeparator ++ target
  | .altered => entry.path ++ "*"
  | .directory | .file => entry.path

/-- Nothing in the text of the entry is taken for the sign of another kind of entry. -/
def Unambiguous (entry : ManifestEntry) : Prop :=
  match entry.kind with
  | .symlink target => Text.IsFirstCut linkSeparator entry.path target
  | .altered => ¬linkSeparator.toList <:+: entry.text.toList
  | .directory =>
      ¬linkSeparator.toList <:+: entry.text.toList ∧ Text.endsWithChar '/' entry.path = true
  | .file =>
      ¬linkSeparator.toList <:+: entry.text.toList ∧ Text.endsWithChar '*' entry.path = false ∧
        Text.endsWithChar '/' entry.path = false

theorem parse_of_cut {entry path target : String}
    (cut : Text.splitFirst linkSeparator entry = some (path, target)) :
    parse entry = ⟨path, .symlink target⟩ := by
  rw [parse, cut]

section Unlinked

variable {entry : String} (unlinked : ¬linkSeparator.toList <:+: entry.toList)

include unlinked

theorem parse_of_marked {path : String} (marked : Text.withoutSuffix "*" entry = some path) :
    parse entry = ⟨path, .altered⟩ := by
  rw [parse, (Text.splitFirst_eq_none_iff _ _).2 unlinked]
  simp only [marked]

theorem parse_of_unmarked (unmarked : Text.endsWithChar '*' entry = false) :
    parse entry = ⟨entry, if Text.endsWithChar '/' entry then .directory else .file⟩ := by
  have whole : Text.withoutSuffix "*" entry = none :=
    (Text.withoutSuffix_singleton_eq_none_iff '*' entry).2 unmarked
  rw [parse, (Text.splitFirst_eq_none_iff _ _).2 unlinked]
  simp only [whole]

end Unlinked

theorem parse_text {entry : ManifestEntry} (plain : entry.Unambiguous) :
    parse entry.text = entry := by
  obtain ⟨path, kind⟩ := entry
  cases kind with
  | symlink target => exact parse_of_cut (Text.splitFirst_of_isFirstCut (by decide) plain)
  | altered => exact parse_of_marked plain ((Text.withoutSuffix_eq_some_iff _ _ _).2 rfl)
  | directory =>
      obtain ⟨unlinked, ends⟩ := plain
      have unmarked : Text.endsWithChar '*' path = false :=
        not_endsWithChar_of_endsWithChar (by decide) ends
      rw [parse_of_unmarked unlinked unmarked]
      exact congrArg (mk path) (if_pos ends)
  | file =>
      obtain ⟨unlinked, unmarked, ends⟩ := plain
      rw [parse_of_unmarked unlinked unmarked]
      exact congrArg (mk path) (if_neg (Bool.eq_false_iff.1 ends))

theorem exists_unambiguous (entry : String) :
    ∃ parsed : ManifestEntry, parsed.text = entry ∧ parsed.Unambiguous := by
  cases cut : Text.splitFirst linkSeparator entry with
  | some parts =>
      obtain ⟨path, target⟩ := parts
      obtain ⟨whole, first⟩ := Text.isFirstCut_of_splitFirst (by decide) cut
      exact ⟨⟨path, .symlink target⟩, whole.symm, first⟩
  | none =>
      have unlinked := (Text.splitFirst_eq_none_iff _ _).1 cut
      cases marked : Text.withoutSuffix "*" entry with
      | some path =>
          obtain rfl := (Text.withoutSuffix_eq_some_iff _ _ _).1 marked
          exact ⟨⟨path, .altered⟩, rfl, unlinked⟩
      | none =>
          have unmarked := (Text.withoutSuffix_singleton_eq_none_iff '*' entry).1 marked
          cases ends : Text.endsWithChar '/' entry with
          | true => exact ⟨⟨entry, .directory⟩, rfl, unlinked, ends⟩
          | false => exact ⟨⟨entry, .file⟩, rfl, unlinked, unmarked, ends⟩

theorem parse_eq_iff (entry : String) (parsed : ManifestEntry) :
    parse entry = parsed ↔ entry = parsed.text ∧ parsed.Unambiguous := by
  constructor
  · rintro rfl
    obtain ⟨found, whole, plain⟩ := exists_unambiguous entry
    rw [← whole, parse_text plain]
    exact ⟨rfl, plain⟩
  · rintro ⟨rfl, plain⟩
    exact parse_text plain

theorem text_parse (entry : String) : (parse entry).text = entry :=
  ((parse_eq_iff entry _).1 rfl).1.symm

theorem unambiguous_parse (entry : String) : (parse entry).Unambiguous :=
  ((parse_eq_iff entry _).1 rfl).2

theorem Unambiguous.not_infix_path {entry : ManifestEntry} (plain : entry.Unambiguous) :
    ¬linkSeparator.toList <:+: entry.path.toList := by
  obtain ⟨path, kind⟩ := entry
  cases kind with
  | symlink target => exact Text.IsFirstCut.not_infix (by decide) plain
  | altered =>
      intro found
      apply plain
      rw [text, String.toList_append]
      exact found.trans (List.infix_append' [] _ _)
  | directory => exact plain.1
  | file => exact plain.1

theorem kind_parse_eq_directory_iff (entry : String) :
    (parse entry).kind = .directory ↔
      ¬linkSeparator.toList <:+: entry.toList ∧ Text.endsWithChar '/' entry = true := by
  constructor
  · intro directory
    have whole := text_parse entry
    have plain := unambiguous_parse entry
    simp only [text, directory] at whole
    simp only [Unambiguous, text, directory, whole] at plain
    exact plain
  · rintro ⟨unlinked, ends⟩
    have unmarked : Text.endsWithChar '*' entry = false :=
      not_endsWithChar_of_endsWithChar (by decide) ends
    rw [parse_of_unmarked unlinked unmarked, if_pos ends]

theorem manifest_entries_are_read_exactly :
    (∀ entry : String,
      (∀ target, (parse entry).kind = .symlink target →
        entry = (parse entry).path ++ " -> " ++ target) ∧
      ((parse entry).kind = .altered → entry = (parse entry).path ++ "*") ∧
      ((parse entry).kind = .directory ∨ (parse entry).kind = .file →
        entry = (parse entry).path) ∧
      ¬" -> ".toList <:+: (parse entry).path.toList ∧
      ((parse entry).kind = .directory ↔
        ¬" -> ".toList <:+: entry.toList ∧ Text.endsWithChar '/' entry = true) ∧
      ((parse entry).kind = .file → Text.endsWithChar '*' (parse entry).path = false ∧
        Text.endsWithChar '/' (parse entry).path = false)) ∧
    (∀ path target, Text.IsFirstCut " -> " path target →
      parse (path ++ " -> " ++ target) = ⟨path, .symlink target⟩) ∧
    ∀ path, ¬" -> ".toList <:+: (path ++ "*").toList → parse (path ++ "*") = ⟨path, .altered⟩ := by
  refine ⟨?_, ?_, ?_⟩
  · intro entry
    have whole := text_parse entry
    have plain := unambiguous_parse entry
    refine ⟨?_, ?_, ?_, plain.not_infix_path, kind_parse_eq_directory_iff entry, ?_⟩
    · intro target symlink
      rw [text, symlink] at whole
      exact whole.symm
    · intro altered
      rw [text, altered] at whole
      exact whole.symm
    · rintro (directory | file)
      · rw [text, directory] at whole
        exact whole.symm
      · rw [text, file] at whole
        exact whole.symm
    · intro file
      rw [Unambiguous, file] at plain
      exact plain.2
  · intro path target first
    exact parse_of_cut (Text.splitFirst_of_isFirstCut (by decide) first)
  · intro path unlinked
    exact parse_of_marked unlinked ((Text.withoutSuffix_eq_some_iff _ _ _).2 rfl)

theorem manifest_entries_are_read_exactly_linkToLink :
    Text.IsFirstCut " -> " "a*" "b -> c/" ∧
      parse "a* -> b -> c/" = ⟨"a*", .symlink "b -> c/"⟩ ∧
      ¬" -> ".toList <:+: ("d ->/" ++ "*").toList ∧ parse "d ->/*" = ⟨"d ->/", .altered⟩ := by
  have found : Text.splitFirst " -> " "a* -> b -> c/" = some ("a*", "b -> c/") := by decide
  have first := (Text.isFirstCut_of_splitFirst (by decide) found).2
  have unlinked : ¬" -> ".toList <:+: ("d ->/" ++ "*").toList := by decide
  obtain ⟨-, links, marks⟩ := manifest_entries_are_read_exactly
  have link : "a*" ++ " -> " ++ "b -> c/" = "a* -> b -> c/" := by decide
  have mark : "d ->/" ++ "*" = "d ->/*" := by decide
  refine ⟨first, ?_, unlinked, ?_⟩
  · rw [← link]
    exact links _ _ first
  · rw [← mark]
    exact marks _ unlinked

end ManifestEntry

theorem not_linkSeparator_infix_filenameOf (entry : String) :
    ¬ManifestEntry.linkSeparator.toList <:+: (filenameOf entry).toList :=
  (ManifestEntry.unambiguous_parse entry).not_infix_path

section unlinked

variable {path : String}
  (unlinked : ¬ManifestEntry.linkSeparator.toList <:+: path.toList)

include unlinked

theorem filenameOf_of_unmarked (unmarked : Text.endsWithChar '*' path = false) :
    filenameOf path = path := by
  rw [filenameOf, ManifestEntry.parse_of_unmarked unlinked unmarked]

theorem eq_filenameOf_append_of_marked (marked : Text.endsWithChar '*' path = true) :
    path = filenameOf path ++ "*" := by
  cases cut : Text.withoutSuffix "*" path with
  | none =>
      have unmarked := (Text.withoutSuffix_singleton_eq_none_iff '*' path).1 cut
      exact absurd marked (Bool.eq_false_iff.1 unmarked)
  | some shorter =>
      rw [filenameOf, ManifestEntry.parse_of_marked unlinked cut]
      exact (Text.withoutSuffix_eq_some_iff _ _ _).1 cut

end unlinked

end PackageAssay

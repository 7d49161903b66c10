import Mathlib.Data.List.Basic
import PackageAssay.Manifest.Expansion
import PackageAssay.Proofs.NameMaps

set_option autoImplicit false

namespace PackageAssay

theorem mem_leadingDirectories_cons (head : Char) (tail directory : List Char) :
    directory ∈ leadingDirectories (head :: tail) ↔
      (head = '/' ∧ directory = ['/']) ∨
        ∃ rest ∈ leadingDirectories tail, directory = head :: rest := by
  by_cases slash : head = '/' <;> simp [leadingDirectories, slash, eq_comm]

theorem mem_leadingDirectories (path directory : List Char) :
    directory ∈ leadingDirectories path ↔
      directory <+: path ∧ directory.getLast? = some '/' := by
  induction path generalizing directory with
  | nil =>
      simp only [leadingDirectories, List.not_mem_nil, List.prefix_nil, false_iff, not_and]
      rintro rfl
      simp
  | cons head tail ih =>
      rw [mem_leadingDirectories_cons]
      -- The shortest leading directory is a slash at the head; the others begin with the head.
      match directory with
      | [] => simp
      | [only] =>
          have shorter : [] ∉ leadingDirectories tail := by simp [ih]
          simp only [List.cons.injEq, and_true, List.cons_prefix_cons, List.nil_prefix,
            List.getLast?_singleton, Option.some.injEq]
          constructor
          · rintro (⟨rfl, rfl⟩ | ⟨_, member, _, rfl⟩)
            · exact ⟨rfl, rfl⟩
            · exact absurd member shorter
          · rintro ⟨rfl, slash⟩
            exact .inl ⟨slash, slash⟩
      | first :: second :: rest =>
          simp only [List.cons.injEq, reduceCtorEq, and_false, false_or, List.cons_prefix_cons,
            List.getLast?_cons_cons]
          constructor
          · rintro ⟨_, member, rfl, rfl⟩
            simpa [List.cons_prefix_cons] using (ih _).1 member
          · rintro ⟨⟨rfl, lead⟩, slash⟩
            exact ⟨second :: rest, (ih _).2 ⟨by simpa using lead, slash⟩, rfl, rfl⟩

theorem mem_pathWithDirectories (path name : String) :
    name ∈ pathWithDirectories path ↔
      name = path ∨ name.toList <+: path.toList ∧ Text.endsWithChar '/' name = true := by
  simp only [pathWithDirectories, List.mem_cons, List.mem_map, mem_leadingDirectories,
    Text.endsWithChar, beq_iff_eq]
  constructor
  · rintro (same | ⟨directory, lead, rfl⟩)
    · exact .inl same
    · exact .inr (by simpa using lead)
  · rintro (same | lead)
    · exact .inl same
    · exact .inr ⟨name.toList, lead, String.ofList_toList⟩

theorem mem_expandManifest (entries : List String) (name : String) :
    name ∈ expandManifest entries ↔ ∃ entry ∈ entries, name = filenameOf entry ∨
      name.toList <+: (filenameOf entry).toList ∧ Text.endsWithChar '/' name = true := by
  simp only [expandManifest, mem_sortedNames, List.mem_flatMap, mem_pathWithDirectories]

theorem pairwise_expandManifest (entries : List String) :
    (expandManifest entries).Pairwise (· < ·) :=
  pairwise_sortedNames _

end PackageAssay

import PackageAssay.Proofs.ArchivePaths
import PackageAssay.Proofs.OtherPackages

set_option autoImplicit false

namespace PackageAssay

namespace Path

theorem components_intercalate {names : List String} (some : names ≠ [])
    (whole : ∀ name ∈ names, '/' ∉ name.toList) : components ("/".intercalate names) = names :=
  Text.pieces_intercalate '/' names some whole

theorem parts_intercalate {names : List String}
    (whole : ∀ name ∈ names, name ≠ "" ∧ '/' ∉ name.toList) :
    (Path.mk ("/".intercalate names)).parts = names := by
  by_cases none : names = []
  · subst none
    rfl
  · rw [parts_eq, components_intercalate none fun name member => (whole name member).2,
      List.filter_eq_self]
    intro name member
    simpa using (whole name member).1

theorem components_rooted (text : String) : components ("/" ++ text) = "" :: components text := by
  have parted := components_slash "" text
  rwa [String.empty_append] at parted

theorem isAbsolute_intercalate {names : List String}
    (whole : ∀ name ∈ names, name ≠ "" ∧ '/' ∉ name.toList) :
    (Path.mk ("/".intercalate names)).isAbsolute = false := by
  rw [Bool.eq_false_iff]
  intro absolute
  rw [isAbsolute, beq_iff_eq] at absolute
  obtain ⟨rest, rooted⟩ := List.head?_eq_some_iff.1 absolute
  have text : "/".intercalate names = "/" ++ String.ofList rest :=
    String.toList_injective (by simp [rooted])
  have some : names ≠ [] := by
    rintro rfl
    simp at rooted
  -- Behind a slash at the front the first name would be empty.
  have empty : "" ∈ names := by
    rw [← components_intercalate some fun name member => (whole name member).2, text,
      components_rooted]
    exact List.mem_cons_self
  exact (whole "" empty).1 rfl

theorem of_parent? {path parent : Path} (found : path.parent? = some parent) :
    path.names ≠ [] ∧ parent.names = path.names.dropLast ∧ parent.dots = [] ∧
      parent.isAbsolute = path.isAbsolute := by
  rw [parent?] at found
  split at found
  · cases found
  · next some =>
      have named : ∀ name ∈ path.names.dropLast, name ∈ path.names :=
        fun name member => List.dropLast_subset _ member
      have whole : ∀ name ∈ path.names.dropLast, name ≠ "" ∧ '/' ∉ name.toList :=
        fun name member => whole_of_mem_parts ((mem_names_iff path name).1 (named name member)).1
      have notDot : ∀ name ∈ path.names.dropLast, name ≠ "." :=
        fun name member => ((mem_names_iff path name).1 (named name member)).2
      -- The text of the parent is put together from the names, and taken apart it gives them back.
      have parts : parent.parts = path.names.dropLast := by
        cases found
        split
        · rw [parts_eq, components_rooted, List.filter_cons_of_neg (by simp), ← parts_eq,
            parts_intercalate whole]
        · rw [String.empty_append, parts_intercalate whole]
      refine ⟨some, ?_, ?_, ?_⟩
      · rw [names, parts, List.filter_eq_self]
        intro name member
        simpa using notDot name member
      · rw [dots, endsInDot, parts, if_neg]
        intro last
        exact notDot "." (List.mem_of_getLast? (beq_iff_eq.1 last)) rfl
      · cases found
        split
        · next rooted =>
            rw [rooted]
            simp [isAbsolute]
        · next relative =>
            rw [String.empty_append, isAbsolute_intercalate whole]
            exact (Bool.eq_false_iff.2 relative).symm

theorem exists_steps {path : Path} (some : path.text ≠ "") :
    ∃ more, more ≠ [] ∧ path.steps = path.names.dropLast ++ more := by
  obtain ⟨marks, steps, -⟩ := path.exists_marks
  by_cases none : path.names = []
  · refine ⟨path.steps, steps_ne_nil some, ?_⟩
    rw [none]
    rfl
  · refine ⟨[path.names.getLast none] ++ marks, by simp, ?_⟩
    rw [← List.append_assoc, List.dropLast_concat_getLast, steps]

end Path

namespace Leads

variable {tree : FileTree} {links left : Nat} {names : List String} {place last : Location}

theorem walk_entry (linkless : tree.Linkless) (leads : Leads tree links names place left last) :
    walk tree .entry links names place = .ok last := by
  induction leads with
  | here directory => exact walk_nil _ _ _ _
  | mark directory mark later ih => rw [walk_mark _ _ _ _ directory mark, ih]
  | up directory later ih => rw [walk_up _ _ _ _ directory, ih]
  | down directory descends found later ih =>
      rw [walk_descend _ _ _ _ directory descends (by simp), found]
      exact ih
  | link directory descends found later ih => exact absurd found (linkless _ _)

theorem append_marks {marks : List String} (leads : Leads tree links names place left last)
    (each : ∀ mark ∈ marks, mark = Path.dotMark ∨ mark = Path.slashMark) :
    Leads tree links (names ++ marks) place left last := by
  refine leads.append ?_
  induction marks with
  | nil => exact .here leads.finish
  | cons mark rest ih =>
      have later := ih fun other member => each other (by simp [member])
      exact .mark leads.finish (each mark (by simp)) later

end Leads

namespace Disk

variable {disk made later : Disk} {path : Path}

theorem makeDirectories_eq_or (disk : Disk) (path : Path) :
    Operation.makeDirectories path disk = .ok () disk ∧ path.text = "" ∨
    (∃ error, Operation.makeDirectories path disk = .error error disk) ∧ ¬path.Sound ∨
    Operation.makeDirectories path disk =
        Operation.makeDirectoriesAt (disk.startOf path) path.dots path.names.reverse disk ∧
      path.Sound := by
  rw [Operation.makeDirectories]
  by_cases empty : path.text = ""
  · rw [if_neg (not_not_intro empty)]
    exact .inl ⟨rfl, empty⟩
  · rw [if_pos empty]
    refine .inr ?_
    cases checked : path.check with
    | error fault =>
        refine .inl ⟨⟨.file fault, rfl⟩, fun sound => ?_⟩
        rw [(Path.check_eq_ok_iff path).2 sound] at checked
        cases checked
    | ok value => exact .inr ⟨rfl, (Path.check_eq_ok_iff path).1 checked⟩

theorem mark_of_mem_dots (path : Path) :
    ∀ mark ∈ path.dots, mark = Path.dotMark ∨ mark = Path.slashMark := by
  intro mark member
  rw [Path.dots] at member
  split at member
  · exact .inl (List.mem_singleton.1 member)
  · cases member

theorem grows_makeDirectories (linkless : disk.tree.Linkless) (path : Path) :
    disk.Grows (disk.startOf path) path.names ((Operation.makeDirectories path).leaves disk) := by
  rcases makeDirectories_eq_or disk path with ⟨same, -⟩ | ⟨⟨error, same⟩, -⟩ | ⟨made, -⟩
  · rw [Operation.leaves, same]
    exact .refl disk _ _
  · rw [Operation.leaves, same]
    exact .refl disk _ _
  · have grows := grows_makeDirectoriesAt linkless (disk.startOf path) (mark_of_mem_dots path)
      path.names.reverse
    rwa [List.reverse_reverse, ← Operation.leaves_congr made] at grows

theorem startOf_parent {parent : Path} (found : path.parent? = some parent) (disk : Disk) :
    disk.startOf parent = disk.startOf path := by
  rw [startOf, startOf, (Path.of_parent? found).2.2.2]

theorem grows_makeParents (linkless : disk.tree.Linkless) (path : Path) :
    disk.Grows (disk.startOf path) path.names ((Operation.makeParents path).leaves disk) := by
  rw [Operation.makeParents]
  cases found : path.parent? with
  | none => exact .refl disk _ _
  | some parent =>
      have grows := grows_makeDirectories linkless parent
      rw [startOf_parent found, (Path.of_parent? found).2.1] at grows
      exact grows.mono (List.dropLast_prefix _)

theorem leads_of_locate {goal : Goal} {place : Location}
    (located : disk.locate goal path = .ok place) :
    ∃ left parent,
      Leads disk.tree maxLinks path.names.dropLast (disk.startOf path) left parent := by
  have sound := sound_of_locate located
  obtain ⟨more, some, steps⟩ := Path.exists_steps sound.2.1
  rw [locate_of_sound _ sound, walk, steps] at located
  exact leads_of_walk_append located (.inl some)

theorem makeDirectoriesAt_of_leads (linkless : disk.tree.Linkless) {start place : Location}
    {marks parents : List String} {left : Nat}
    (leads : Leads disk.tree maxLinks (parents.reverse ++ marks) start left place) :
    Operation.makeDirectoriesAt start marks parents disk = .ok () disk := by
  cases parents with
  | nil => rfl
  | cons name parents =>
      have walked : disk.walk .entry ((name :: parents).reverse ++ marks) start = .ok place :=
        leads.walk_entry linkless
      have held := makeDirectoryAt_of_walk walked
      simp only [leads.finish, Option.isSome_some, if_true] at held
      simp only [Operation.makeDirectoriesAt, held, Operation.ensureDirectory,
        isDirectoryAt_iff.2 ⟨left, place, leads⟩, if_true]

theorem makeDirectories_again (done : Operation.makeDirectories path disk = .ok () made)
    (linkless : later.tree.Linkless) {left : Nat} {place : Location}
    (leads : Leads later.tree maxLinks path.names (later.startOf path) left place) :
    Operation.makeDirectories path later = .ok () later := by
  rcases makeDirectories_eq_or later path with ⟨same, -⟩ | ⟨-, unsound⟩ | ⟨same, -⟩
  · exact same
  · rcases makeDirectories_eq_or disk path with ⟨-, empty⟩ | ⟨⟨error, failed⟩, -⟩ | ⟨-, sound⟩
    · rw [Operation.makeDirectories, if_neg (not_not_intro empty)]
      rfl
    · rw [failed] at done
      cases done
    · exact absurd sound unsound
  · rw [same]
    have marked := leads.append_marks (mark_of_mem_dots path)
    rw [← List.reverse_reverse path.names] at marked
    exact makeDirectoriesAt_of_leads linkless marked

theorem makeParents_again (done : Operation.makeParents path disk = .ok () made)
    (linkless : later.tree.Linkless) {left : Nat} {place : Location}
    (leads : Leads later.tree maxLinks path.names.dropLast (later.startOf path) left place) :
    Operation.makeParents path later = .ok () later := by
  rw [Operation.makeParents] at done ⊢
  cases found : path.parent? with
  | none => rfl
  | some parent =>
      rw [found] at done
      rw [← (Path.of_parent? found).2.1, ← startOf_parent found] at leads
      exact makeDirectories_again done linkless leads

end Disk

end PackageAssay

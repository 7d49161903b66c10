import Mathlib.Data.List.Sort
import PackageAssay.Proofs.Baselines
import PackageAssay.Proofs.MissingDirectories
import PackageAssay.Proofs.StoreRefinement

/-!
# Packages that are not written

The entries of all packages stand side by side in one directory. A write of one of them is not seen
by those who read the others.
-/

set_option autoImplicit false

namespace PackageAssay

theorem Location.not_within_sibling {name other : String} (apart : other ≠ name)
    (place : Location) : ¬Location.within (other :: place) (name :: place) = true := by
  intro inside
  rw [within, List.isSuffixOf_iff_suffix] at inside
  exact apart (List.cons.inj (inside.eq_of_length rfl)).1.symm

theorem Location.not_within_nephew {name other : String} {place : Location} (apart : other ≠ name)
    (child : String) : ¬Location.within (child :: other :: place) (name :: place) = true := by
  intro inside
  rw [within, List.isSuffixOf_iff_suffix, List.suffix_cons_iff] at inside
  rcases inside with same | inside
  · simpa using congrArg List.length same
  · exact not_within_sibling apart place (List.isSuffixOf_iff_suffix.2 inside)

namespace Disk

variable {disk later : Disk} {base : Path} {name other : String} {shelf : Location}

theorem node_of_unsound {path : Path} (unsound : ¬path.Sound) (disk later : Disk) (goal : Goal) :
    later.node goal path = disk.node goal path := by
  cases checked : path.check with
  | ok _ => exact absurd ((Path.check_eq_ok_iff path).1 checked) unsound
  | error fault =>
      rw [node, node, locate, locate, checked]
      rfl

theorem node_of_longName {file : String} (sound : ((base.join other).join file).Sound)
    (plainFile : IsName file) (plain : IsName other) (reaches : disk.Reaches base shelf)
    (long : Path.maxNameLength < other.utf8ByteSize) (goal : Goal) :
    disk.node goal ((base.join other).join file) = .error .nameTooLong := by
  obtain ⟨left, leads⟩ := reaches
  have located : disk.locate goal _ = _ := locate_of_sound goal sound
  have onward : goal.Onward ([other] ++ [file]) := by simp [Goal.Onward]
  have refused := walk_longName disk.tree goal left [file] leads.finish plain.notMark
    plain.notDots ((plainFile.onward goal).not_place []) long
  rw [Path.steps_join _ plainFile, Path.names_join _ plain, startOf_join plainFile,
    startOf_join plain, List.append_assoc, walk, leads.walk_append onward, List.singleton_append,
    refused] at located
  rw [node, located]
  rfl

theorem Confined.node_eq (confined : disk.Confined (name :: shelf) later)
    (linkless : disk.tree.Linkless) (reaches : disk.Reaches base shelf) (plain : IsName other)
    (apart : other ≠ name) (found : disk.tree.body? (other :: shelf) = some .directory)
    (key : SectionKey) (goal : Goal) :
    later.node goal ((base.join other).join key.fileName) =
      disk.node goal ((base.join other).join key.fileName) := by
  by_cases sound : ((base.join other).join key.fileName).Sound
  · by_cases short : other.utf8ByteSize ≤ Path.maxNameLength
    · have reached := reaches.join plain short found
      have before := reached.locate_join key.isName_fileName key.short_fileName sound goal
        (.inr (linkless _))
      have after := (confined.keeps.reaches reached).locate_join key.isName_fileName
        key.short_fileName sound goal (.inr (confined.linkless linkless _))
      have below : key.fileName :: other :: shelf ≠ shelf := by
        intro same
        have lengths := congrArg List.length same
        rw [List.length_cons, List.length_cons] at lengths
        omega
      have same := confined.nodes _ (Location.not_within_nephew apart key.fileName) below
      rw [node_of_locate before, node_of_locate after, same]
    -- No walk gets into a directory with such a name.
    · have long := Nat.lt_of_not_le short
      rw [node_of_longName sound key.isName_fileName plain reaches long,
        node_of_longName sound key.isName_fileName plain (confined.keeps.reaches reaches) long]
  · exact node_of_unsound sound disk later goal

end Disk

namespace Repository

variable {repository : Repository} {disk middle later : Disk} {name : String} {shelf : Location}

/-- The directories of a repository are listed, and files are found in them, as before, apart from
one directory, which may have come or changed. -/
inductive KeepsOthers (repository : Repository) (name : String) (disk later : Disk) : Prop where
  | refused {error : Error} (before : repository.entryDirectories disk = .error error)
      (after : repository.entryDirectories later = .error error)
  | listed {directories remaining : List String}
      (before : repository.entryDirectories disk = .ok directories)
      (after : repository.entryDirectories later = .ok remaining)
      (others : ∀ other, other ≠ name → (other ∈ remaining ↔ other ∈ directories))
      (stays : name ∈ directories → name ∈ remaining)
      (nodes : ∀ other ∈ directories, other ≠ name → ∀ (key : SectionKey) (goal : Goal),
        later.node goal ((repository.directory.join other).join key.fileName) =
          disk.node goal ((repository.directory.join other).join key.fileName))

theorem KeepsOthers.refl (repository : Repository) (name : String) (disk : Disk) :
    repository.KeepsOthers name disk disk := by
  cases listed : repository.entryDirectories disk with
  | error error => exact .refused listed listed
  | ok directories =>
      exact .listed listed listed (fun _ _ => .rfl) id (fun _ _ _ _ _ => rfl)

theorem entryDirectories_of_notFound
    (missing : disk.node .target repository.directory = .error .notFound) :
    repository.entryDirectories disk = .ok [] := by
  have none : disk.children repository.directory = .error .notFound := by
    cases located : disk.locate .target repository.directory with
    | error fault =>
        rw [Disk.node, located] at missing
        cases missing
        rw [Disk.children, located]
        rfl
    | ok place =>
        rw [Disk.node_of_locate located] at missing
        cases found : disk.tree.find? place with
        | some node =>
            rw [found] at missing
            cases missing
        | none =>
            rw [Disk.children, located]
            simp only [bind, Except.bind, FileTree.body?, found]
            rfl
  rw [entryDirectories, none]

theorem keepsOthers_of_unsound (unsound : ¬repository.directory.Sound) (name : String)
    (disk later : Disk) : repository.KeepsOthers name disk later := by
  cases checked : repository.directory.check with
  | ok _ => exact absurd ((Path.check_eq_ok_iff _).1 checked) unsound
  | error fault =>
      have children (disk : Disk) : disk.children repository.directory = .error fault := by
        rw [Disk.children, Disk.locate, checked]
        rfl
      -- A text that names nothing counts as a repository that is not there.
      by_cases missing : fault = .notFound
      · subst missing
        have none (disk : Disk) : repository.entryDirectories disk = .ok [] := by
          rw [entryDirectories, children]
        exact .listed (none disk) (none later) (fun _ _ => .rfl) id (by simp)
      · have refused (disk : Disk) : repository.entryDirectories disk = .error (.file fault) := by
          simp only [entryDirectories, children]
        exact .refused (refused disk) (refused later)

theorem keepsOthers_of_confined (linkless : disk.tree.Linkless)
    (plain : ∀ other, disk.tree.body? (other :: shelf) = some .directory → IsName other)
    (sound : repository.directory.Sound) (reaches : disk.Reaches repository.directory shelf)
    (confined : disk.Confined (name :: shelf) later) : repository.KeepsOthers name disk later := by
  obtain ⟨directories, before, member⟩ := exists_entryDirectories sound reaches
  obtain ⟨remaining, after, remains⟩ :=
    exists_entryDirectories sound (confined.keeps.reaches reaches)
  refine .listed before after ?_ ?_ ?_
  · intro other apart
    rw [remains, member, confined.bodies _ (Location.not_within_sibling apart shelf)]
  · intro listed
    exact (remains name).2 (confined.keeps.bodies _ _ ((member name).1 listed) rfl)
  · intro other listed apart
    have found := (member other).1 listed
    exact confined.node_eq linkless reaches (plain other found) apart found

theorem KeepsOthers.trans_of_nil (none : repository.entryDirectories disk = .ok [])
    (empty : repository.entryDirectories middle = .ok [])
    (next : repository.KeepsOthers name middle later) : repository.KeepsOthers name disk later := by
  cases next with
  | refused before after =>
      rw [empty] at before
      cases before
  | listed before after others stays nodes =>
      rw [empty] at before
      cases before
      exact .listed none after others stays (by simp)

section Look

variable {path : Path}

theorem readText_congr (same : later.node .target path = disk.node .target path) :
    later.readText path = disk.readText path := by
  rw [Disk.readText, Disk.readText, Disk.read, Disk.read, same]

theorem ofFile_congr (same : ∀ goal, later.node goal path = disk.node goal path) :
    SectionState.ofFile later path = SectionState.ofFile disk path := by
  simp only [SectionState.ofFile, Disk.fingerprint, Disk.read, Disk.timesOrZero, Disk.times, same]

variable {directory : Path} {key : SectionKey} (same : ∀ goal,
  later.node goal (directory.join key.fileName) = disk.node goal (directory.join key.fileName))

include same

theorem readSection_congr (decode : String → PackageRecord → Decoded) :
    readSection later directory key decode = readSection disk directory key decode := by
  funext entry
  rw [readSection, readSection, readText_congr (same .target), ofFile_congr same]

theorem readOptional_congr (decode : String → PackageRecord → Decoded) :
    readOptional later directory key decode = readOptional disk directory key decode := by
  funext entry
  unfold readOptional
  rw [readText_congr (same .target), readSection_congr same]

end Look

theorem findSome?_filter {α β : Type} {see : α → Option β} {keep : α → Bool} (items : List α)
    (skipped : ∀ item, keep item = false → see item = none) :
    (items.filter keep).findSome? see = items.findSome? see := by
  induction items with
  | nil => rfl
  | cons item rest ih =>
      rw [List.filter_cons, List.findSome?_cons]
      split
      · rw [List.findSome?_cons, ih]
      · next dropped => rw [skipped item (Bool.eq_false_iff.2 dropped), ih]

theorem findSome?_eq_of_filter {α β : Type} {see : α → Option β} {keep : α → Bool}
    {items others : List α} (same : items.filter keep = others.filter keep)
    (skipped : ∀ item, keep item = false → see item = none) :
    items.findSome? see = others.findSome? see := by
  rw [← findSome?_filter items skipped, same, findSome?_filter others skipped]

variable {record : PackageRecord} {package : String}

theorem directory_of_findEntry {directories : List String} {path : Path} {parts : EntryName}
    (listed : repository.entryDirectories disk = .ok directories)
    (found : repository.findEntry disk package = .ok (some (path, parts))) :
    ∃ directory ∈ directories, EntryName.parse? directory = some parts ∧ parts.name = package ∧
      path = repository.directory.join directory := by
  rw [findEntry, listed] at found
  obtain ⟨directory, member, seen⟩ := List.exists_of_findSome?_eq_some (Except.ok.inj found)
  refine ⟨directory, (mem_sortedNames directories directory).1 member, ?_⟩
  split at seen
  · next entry parsed =>
      split at seen
      · next named =>
          cases seen
          exact ⟨parsed, named, rfl⟩
      · cases seen
  · cases seen

theorem KeepsOthers.read_eq (keeps : repository.KeepsOthers record.dbname disk later)
    (hyphen : record.version.toList.count '-' = 1) (other : package ≠ record.name) :
    repository.read later package = repository.read disk package := by
  obtain ⟨written, parsed, named, -⟩ := parse?_dbname record hyphen
  cases keeps with
  | refused before after =>
      rw [read, read, findEntry, findEntry, before, after]
      rfl
  | @listed directories remaining before after others stays nodes =>
      have same : (sortedNames remaining).filter (· ≠ record.dbname) =
          (sortedNames directories).filter (· ≠ record.dbname) := by
        refine ((pairwise_sortedNames remaining).filter _).eq_of_mem_iff
          ((pairwise_sortedNames directories).filter _) fun directory => ?_
        simp only [List.mem_filter, mem_sortedNames, decide_eq_true_eq]
        exact and_congr_left fun apart => others directory apart
      -- The search passes over the directory of the record, so it ends in the same place.
      have search : repository.findEntry later package = repository.findEntry disk package := by
        rw [findEntry, findEntry, before, after]
        refine congrArg Except.ok (findSome?_eq_of_filter same fun directory dropped => ?_)
        have here : directory = record.dbname := by simpa using dropped
        rw [here, parsed]
        exact if_neg fun belongs => other (belongs.symm.trans named)
      unfold Repository.read
      rw [search]
      cases found : repository.findEntry disk package with
      | error failure => rfl
      | ok entry =>
          cases entry with
          | none => rfl
          | some entry =>
              obtain ⟨path, parts⟩ := entry
              obtain ⟨directory, member, here, belongs, rfl⟩ := directory_of_findEntry before found
              have apart : directory ≠ record.dbname := by
                rintro rfl
                rw [parsed] at here
                cases here
                exact other (belongs.symm.trans named)
              have nodes := nodes directory member apart
              simp only [bind, Except.bind, readSection_congr (nodes _),
                readOptional_congr (nodes _)]

theorem KeepsOthers.list_eq (keeps : repository.KeepsOthers record.dbname disk later)
    (hyphen : record.version.toList.count '-' = 1) :
    repository.list later = repository.list disk ∨
      ∃ names, repository.list disk = .ok names ∧
        repository.list later = .ok (sortedNames (record.name :: names)) := by
  obtain ⟨written, parsed, named, -⟩ := parse?_dbname record hyphen
  cases keeps with
  | refused before after =>
      left
      rw [list, list, before, after]
  | @listed directories remaining before after others stays nodes =>
      -- If the directory of the record is listed, its package is among the names.
      by_cases listed : record.dbname ∈ remaining
      · right
        refine ⟨_, by rw [list, before]; rfl, ?_⟩
        rw [list, after]
        refine congrArg Except.ok (sortedNames_congr fun name => ?_)
        simp only [List.mem_cons, mem_sortedNames, List.mem_filterMap]
        constructor
        · rintro ⟨directory, member, seen⟩
          by_cases here : directory = record.dbname
          · rw [here, parsed, Option.map_some, named] at seen
            exact .inl (Option.some.inj seen).symm
          · exact .inr ⟨directory, (others directory here).1 member, seen⟩
        · rintro (rfl | ⟨directory, member, seen⟩)
          · exact ⟨record.dbname, listed, by rw [parsed, Option.map_some, named]⟩
          · by_cases here : directory = record.dbname
            · exact ⟨directory, here ▸ listed, seen⟩
            · exact ⟨directory, (others directory here).2 member, seen⟩
      · left
        have same (directory : String) : directory ∈ remaining ↔ directory ∈ directories := by
          by_cases here : directory = record.dbname
          · rw [here]
            exact ⟨fun member => absurd member listed, fun member => absurd (stays member) listed⟩
          · exact others directory here
        rw [list, list, before, after]
        refine congrArg Except.ok (sortedNames_congr fun name => ?_)
        simp only [List.mem_filterMap, same]

/-- What a lookup of the directory does not find can be made by its names alone: none of them leads
back, and none is too long. -/
def Placed (repository : Repository) (disk : Disk) : Prop :=
  disk.node .target repository.directory = .error .notFound →
    ∀ part ∈ repository.directory.names, part ≠ ".." ∧ part.utf8ByteSize ≤ Path.maxNameLength

theorem keepsOthers_of_write (linkless : disk.tree.Linkless) (named : disk.tree.Named)
    (plain : IsName record.dbname) (placed : repository.Placed disk) :
    repository.KeepsOthers record.dbname disk ((repository.write record).leaves disk) := by
  by_cases sound : repository.directory.Sound
  · obtain ⟨middle, prepared, ends⟩ :=
      @exists_middle_of_write repository record disk linkless plain
    have grows := prepared.grows linkless
    have middleLinkless := grows.linkless linkless
    -- What a write does within the entry is seen from any disk that holds the repository.
    have within (plainNames : ∀ shelf, middle.Reaches repository.directory shelf →
        ∀ other, middle.tree.body? (other :: shelf) = some .directory → IsName other) :
        repository.KeepsOthers record.dbname middle ((repository.write record).leaves disk) := by
      rcases ends with same | ⟨⟨shelf, reaches⟩, confined⟩
      · rw [same]
        exact .refl repository record.dbname middle
      · obtain ⟨left, leads⟩ := reaches
        have place := leads.last_eq middleLinkless
        rw [grows.keeps.startOf] at place
        subst place
        exact keepsOthers_of_confined middleLinkless (plainNames _ ⟨left, leads⟩) sound
          ⟨left, leads⟩ confined
    -- The repository is as it was, or nothing was found before and nothing is in it now.
    rcases prepared.same_or_empty linkless plain sound placed with
      rfl | ⟨missing, shelf, reaches, empty⟩
    · exact within fun shelf _ other found => named other shelf (by simp [found])
    · have alone : ∀ place, middle.Reaches repository.directory place → place = shelf :=
        fun place other => reaches.same_place middleLinkless middleLinkless rfl other
      have unlisted : repository.entryDirectories middle = .ok [] := by
        obtain ⟨directories, listed, member⟩ := exists_entryDirectories sound reaches
        have none : directories = [] := List.eq_nil_iff_forall_not_mem.2 fun other found => by
          simpa [empty] using (member other).1 found
        rw [listed, none]
      refine .trans_of_nil (entryDirectories_of_notFound missing) unlisted (within ?_)
      intro place other child found
      rw [alone place other, empty] at found
      cases found
  · exact keepsOthers_of_unsound sound record.dbname disk _

theorem list_congr {left right : Repository} (same : left.directory = right.directory)
    (disk : Disk) : left.list disk = right.list disk := by
  simp only [list, entryDirectories, same]

theorem body_of_write (linkless : disk.tree.Linkless) (plain : IsName record.dbname)
    {location : Location} (outside : ¬Location.within location
      (record.dbname :: wayFrom repository.directory.names (disk.startOf repository.directory)) =
        true) :
    ((repository.write record).leaves disk).tree.body? location = disk.tree.body? location ∨
      disk.tree.body? location = none ∧
        ((repository.write record).leaves disk).tree.body? location = some .directory ∧
        ∃ first, first <+: repository.directory.names ∧
          location = wayFrom first (disk.startOf repository.directory) := by
  obtain ⟨middle, prepared, ends⟩ :=
    @exists_middle_of_write repository record disk linkless plain
  have same : ((repository.write record).leaves disk).tree.body? location =
      middle.tree.body? location := by
    rcases ends with same | ⟨-, confined⟩
    · rw [same]
    · exact confined.bodies location outside
  rw [same]
  exact (prepared.grows linkless).bodies location

end Repository

/-- A write of one package, whether it succeeds or stops at one of its changes, leaves the other
packages alone. Only the entry of the package changes, and directories on the way to it are made.
Any handle of the repository reads the others as before and lists the same names, apart from the
one that was written. -/
theorem write_leaves_others_alone (repository : Repository) (record : PackageRecord)
    (disk later : Disk) (linkless : disk.tree.Linkless) (named : disk.tree.Named)
    (name : '/' ∉ record.name.toList) (version : '/' ∉ record.version.toList)
    (hyphen : record.version.toList.count '-' = 1)
    (left : (repository.write record).leaves disk = later) :
    (∀ location : Location,
      ¬Location.within location
        (record.dbname ::
          wayFrom repository.directory.names (disk.startOf repository.directory)) = true →
      later.tree.body? location = disk.tree.body? location ∨
        disk.tree.body? location = none ∧ later.tree.body? location = some .directory ∧
          ∃ first, first <+: repository.directory.names ∧
            location = wayFrom first (disk.startOf repository.directory)) ∧
    (repository.Placed disk →
      ∀ handle : Repository, handle.directory = repository.directory →
        (∀ package, package ≠ record.name →
          handle.read later package = handle.read disk package) ∧
        (handle.list later = handle.list disk ∨
          ∃ names, handle.list disk = .ok names ∧
            handle.list later = .ok (sortedNames (record.name :: names)))) := by
  subst left
  have plain := isName_dbname record name version
  refine ⟨fun location outside => Repository.body_of_write linkless plain outside, ?_⟩
  intro placed handle same
  have keeps := Repository.keepsOthers_of_write linkless named plain placed
  constructor
  · intro package other
    rw [Repository.read_congr same, Repository.read_congr same]
    exact keeps.read_eq hyphen other
  · rw [Repository.list_congr same, Repository.list_congr same]
    exact keeps.list_eq hyphen

def blockedDisk : Disk where
  tree := {
    nodes := [
      (["desc", "foo-bar-2-1", "local", "db"], ⟨.file (.ofText ""), .madeAt 1⟩),
      (["foo-bar-2-1", "local", "db"], ⟨.directory, .madeAt 1⟩),
      (["depends", "foo-1.0-1", "local", "db"], ⟨.directory, .madeAt 1⟩),
      (["foo-1.0-1", "local", "db"], ⟨.directory, .madeAt 1⟩),
      (["local", "db"], ⟨.directory, .madeAt 1⟩), (["db"], ⟨.directory, .madeAt 1⟩),
      ([], ⟨.directory, .madeAt 1⟩)]
    rooted := by decide
    distinct := by decide
    nested := by decide }
  now := 2

/-- The write stops after two files, and the package with the longer name is there as before. -/
theorem write_leaves_others_alone_blockedDisk :
    blockedDisk.tree.Linkless ∧ blockedDisk.tree.Named ∧
    installedRepository.Placed blockedDisk ∧
    Operation.succeeds (installedRepository.write (.bare "foo" "1.0-1")) blockedDisk = false ∧
    ∃ later,
      (installedRepository.write (.bare "foo" "1.0-1")).leaves blockedDisk = later ∧
      later.tree.body? ["files", "foo-1.0-1", "local", "db"] = some (.file (.ofText "")) ∧
      later.tree.body? ["desc", "foo-bar-2-1", "local", "db"] = some (.file (.ofText "")) ∧
      (installedRepository.read blockedDisk "foo-bar").toOption.join.isSome = true ∧
      installedRepository.read later "foo-bar" = installedRepository.read blockedDisk "foo-bar" ∧
      installedRepository.list later = .ok ["foo", "foo-bar"] := by
  have linkless : blockedDisk.tree.Linkless := FileTree.linkless_of_nodes (by decide)
  have named : blockedDisk.tree.Named := FileTree.named_of_nodes (by decide)
  have placed : installedRepository.Placed blockedDisk := fun missing =>
    absurd missing (by decide +kernel)
  have listed : installedRepository.list blockedDisk = .ok ["foo", "foo-bar"] := by
    decide +kernel
  obtain ⟨frame, others⟩ := write_leaves_others_alone installedRepository (.bare "foo" "1.0-1")
    blockedDisk _ linkless named (by decide) (by decide) (by decide) rfl
  obtain ⟨reads, lists⟩ := others placed installedRepository rfl
  refine ⟨linkless, named, placed, by decide +kernel, _, rfl, by decide +kernel, ?_,
    by decide +kernel, reads "foo-bar" (by decide), ?_⟩
  · have there : blockedDisk.tree.body? ["desc", "foo-bar-2-1", "local", "db"] =
        some (.file (.ofText "")) := by decide
    rcases frame ["desc", "foo-bar-2-1", "local", "db"] (by decide +kernel) with same | ⟨absent, -⟩
    · rw [same, there]
    · rw [there] at absent
      cases absent
  · rcases lists with same | ⟨names, before, after⟩
    · rw [same, listed]
    · rw [listed] at before
      cases before
      rw [after]
      decide

theorem Repository.entryDirectories_of_longName {repository : Repository} {disk : Disk}
    {base : Path} {shelf : Location} {long : String}
    (here : repository.directory = base.join long) (sound : repository.directory.Sound)
    (plain : IsName long)
    (tooLong : Path.maxNameLength < long.utf8ByteSize) (reaches : disk.Reaches base shelf) :
    repository.entryDirectories disk = .error (.file .nameTooLong) := by
  obtain ⟨left, leads⟩ := reaches
  have located : disk.locate .target _ = _ := Disk.locate_of_sound .target sound
  have refused := walk_longName disk.tree .target left [] leads.finish plain.notMark
    plain.notDots (by simp) tooLong
  rw [here, Path.steps_join _ plain, Disk.startOf_join plain, Disk.walk,
    leads.walk_append (plain.onward .target), refused, ← here] at located
  rw [Repository.entryDirectories, Disk.children, located]
  rfl

theorem Repository.refused_after_write {repository : Repository} {record : PackageRecord}
    {long : String} (here : repository.directory = (Path.mk "db").join long)
    (sound : (repository.directory.join record.dbname).Sound) (plain : IsName long)
    (tooLong : Path.maxNameLength < long.utf8ByteSize) (entry : IsName record.dbname) :
    repository.entryDirectories newDisk = .ok [] ∧
      repository.entryDirectories ((repository.write record).leaves newDisk) =
        .error (.file .nameTooLong) := by
  have base : repository.directory.Sound :=
    sound.of_join entry (by simp [here, Path.join_name _ plain, plain.some])
  have start : newDisk.startOf repository.directory = [] := by
    rw [here, Disk.startOf_join plain]
    rfl
  have names : repository.directory.names = ["db", long] := by
    rw [here, Path.names_join _ plain]
    rfl
  constructor
  · apply Repository.entryDirectories_of_notFound
    have located : newDisk.locate .target _ = _ := Disk.locate_of_sound .target base
    rw [start, here, Path.steps_join _ plain, ← here] at located
    rw [Disk.node, located]
    rfl
  · have begun : Operation.succeedsWith (fun _ made => made.isDirectoryAt ["db"] [])
        (Operation.makeDirectoriesAt [] [] ["db"]) newDisk = true := by
      decide +kernel
    obtain ⟨_, middle, made, there⟩ := (Operation.succeedsWith_iff _ _).1 begun
    obtain ⟨left, shelf, leads⟩ := Disk.isDirectoryAt_iff.1 there
    -- The way is tried from its end, and only the first of its directories can be made.
    have parents : newDisk.makeDirectoryAt (["db"].reverse ++ [long]) [] = .error .notFound := rfl
    have whole : newDisk.makeDirectoryAt ([long, "db"].reverse ++ [record.dbname]) [] =
        .error .notFound := rfl
    have stopped : Operation.makeDirectories (repository.directory.join record.dbname) newDisk =
        .error (.file .nameTooLong) middle := by
      have refused := Disk.ensureDirectory_of_longName plain tooLong leads
      have reversed : repository.directory.names.reverse = [long, "db"] := by rw [names]; rfl
      rw [Disk.makeDirectories_of_sound entry sound, reversed, start,
        Disk.makeDirectoriesAt_of_notFound whole]
      simp only [bind, EStateM.bind, Disk.makeDirectoriesAt_of_notFound parents, made]
      rw [show ["db"].reverse = ["db"] from rfl, refused]
    have reaches : middle.Reaches ⟨"db"⟩ shelf := by
      have grows : newDisk.Grows [] ["db"] _ :=
        Disk.grows_makeDirectoriesAt (FileTree.linkless_of_nodes (by decide)) []
          (List.forall_mem_nil _) ["db"]
      rw [Operation.leaves, made] at grows
      exact ⟨left, by rwa [grows.keeps.startOf]⟩
    rw [Repository.write, Operation.leaves_bind_of_error stopped]
    exact Repository.entryDirectories_of_longName here base plain tooLong reaches

def letters (count : Nat) : String := String.ofList (List.replicate count 'a')

theorem utf8ByteSize_letters (count : Nat) : (letters count).utf8ByteSize = count := by
  induction count with
  | zero => rfl
  | succ count ih =>
      rw [letters, List.replicate_succ, String.ofList_cons, String.utf8ByteSize_append,
        String.utf8ByteSize_singleton, ← letters, ih]
      exact Nat.add_comm 1 count

theorem eq_of_mem_letters {count : Nat} {letter : Char}
    (member : letter ∈ (letters count).toList) : letter = 'a' := by
  rw [letters, String.toList_ofList] at member
  exact List.eq_of_mem_replicate member

theorem isName_letters {count : Nat} (some : count ≠ 0) : IsName (letters count) := by
  have size := utf8ByteSize_letters count
  have only : ∀ letter ∈ (letters count).toList, letter = 'a' := fun _ => eq_of_mem_letters
  generalize letters count = text at size only
  refine ⟨?_, fun slash => absurd (only _ slash) (by decide), ?_, ?_⟩
  · rintro rfl
    exact some size.symm
  · rintro rfl
    exact absurd (only '.' (by decide)) (by decide)
  · rintro rfl
    exact absurd (only '.' (by decide)) (by decide)

def deepRepository (name : String) : Repository := .ofName name ⟨""⟩ { dbpath := "db" }

theorem directory_deepRepository (name : String) :
    (deepRepository name).directory = (Path.mk "db").join name :=
  congrArg (Path.join · name) (show (Path.mk "").join "db" = ⟨"db"⟩ by decide)

theorem refused_deepRepository {long : String} (plain : IsName long)
    (noNul : '\x00' ∉ long.toList) (size : long.utf8ByteSize = 256) :
    (deepRepository long).entryDirectories newDisk = .ok [] ∧
      (deepRepository long).entryDirectories
        (((deepRepository long).write (.bare "bar" "1-1")).leaves newDisk) =
          .error (.file .nameTooLong) := by
  have entry : IsName (PackageRecord.bare "bar" "1-1").dbname :=
    isName_dbname _ (by decide) (by decide)
  refine Repository.refused_after_write (directory_deepRepository long) ?_ plain
    (by rw [size]; decide) entry
  rw [directory_deepRepository]
  refine ⟨Path.nul_notMem_join _ entry (Path.nul_notMem_join _ plain (by decide) noNul)
    (by decide), by simp [Path.join_name _ entry, entry.some], ?_⟩
  have base : "db".utf8ByteSize = 2 := by decide
  have name : (PackageRecord.bare "bar" "1-1").dbname.utf8ByteSize = 7 := by decide
  have inner := Path.utf8ByteSize_join_le ⟨"db"⟩ plain
  have outer := Path.utf8ByteSize_join_le ((Path.mk "db").join long) entry
  rw [Path.maxLength]
  dsimp only at inner outer
  omega

/-- Through `x/..` a repository is empty as long as `x` is missing. The write makes `x`, and what
stood in `y` is seen. A name that is too long is met once the directory before it has been made. -/
theorem write_is_seen_through_missing_directory :
    (abandonedDisk.tree.Linkless ∧ abandonedDisk.tree.Named ∧
      ∃ later, (windingRepository.write (.bare "bar" "1-1")).leaves abandonedDisk = later ∧
        windingRepository.list abandonedDisk = .ok [] ∧
        windingRepository.list later = .ok ["bar", "foo"] ∧
        windingRepository.read abandonedDisk "foo" = .ok none ∧
        windingRepository.read later "foo" = .error (.file .notFound)) ∧
    newDisk.tree.Linkless ∧ newDisk.tree.Named ∧
      ∃ later, ((deepRepository (letters 256)).write (.bare "bar" "1-1")).leaves newDisk = later ∧
        (deepRepository (letters 256)).list newDisk = .ok [] ∧
        (deepRepository (letters 256)).list later = .error (.file .nameTooLong) ∧
        (deepRepository (letters 256)).read newDisk "foo" = .ok none ∧
        (deepRepository (letters 256)).read later "foo" = .error (.file .nameTooLong) := by
  refine ⟨⟨FileTree.linkless_of_nodes (by decide), FileTree.named_of_nodes (by decide), _, rfl,
    by decide +kernel, by decide +kernel, by decide +kernel, by decide +kernel⟩,
    FileTree.linkless_of_nodes (by decide), FileTree.named_of_nodes (by decide), _, rfl, ?_⟩
  obtain ⟨before, after⟩ := refused_deepRepository (isName_letters (by decide))
    (fun nul => absurd (eq_of_mem_letters nul) (by decide)) (utf8ByteSize_letters 256)
  simp only [Repository.list, Repository.read, Repository.findEntry, before, after]
  exact ⟨rfl, rfl, rfl, rfl⟩

end PackageAssay

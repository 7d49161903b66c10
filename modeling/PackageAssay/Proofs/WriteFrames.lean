import PackageAssay.Proofs.EntryStore
import PackageAssay.Proofs.FileHistory

/-!
# What a write leaves alone

A write makes directories that are missing on the way to an entry and then changes files of that
entry. Whether it succeeds or stops halfway, everything else stays as it is.
-/

set_option autoImplicit false

namespace PackageAssay

theorem last_eq_of_walk {tree : FileTree} (linkless : tree.Linkless) {goal : Goal} {links : Nat}
    {names : List String} {place last : Location}
    (walked : walk tree goal links names place = .ok last) : last = wayFrom names place := by
  -- Name by name, since no link leads the walk elsewhere.
  induction names generalizing place with
  | nil =>
      rw [walk_nil] at walked
      cases walked
      rfl
  | cons name rest ih =>
      have directory := directory_of_walk_cons _ _ _ _ walked
      rw [wayFrom]
      by_cases mark : name = Path.dotMark ∨ name = Path.slashMark
      · rw [walk_mark _ _ _ _ directory mark] at walked
        rw [if_pos mark, ih walked]
      by_cases dots : name = ".."
      · subst dots
        rw [walk_up _ _ _ _ directory] at walked
        rw [if_neg mark, if_pos rfl, ih walked]
      obtain ⟨descends, allowed⟩ := descends_of_walk_cons _ _ _ _ directory mark dots walked
      rw [walk_descend _ _ _ _ directory descends allowed] at walked
      rw [if_neg mark, if_neg dots]
      cases found : tree.body? (name :: place) with
      | none =>
          simp only [found] at walked
          split at walked
          · next only =>
              cases walked
              rw [only, wayFrom]
          · cases walked
      | some body =>
          cases body with
          | link target => exact absurd found (linkless _ _)
          | directory =>
              rw [found] at walked
              exact ih walked
          | file content =>
              rw [found] at walked
              exact ih walked

theorem wayFrom_append (names more : List String) (place : Location) :
    wayFrom (names ++ more) place = wayFrom more (wayFrom names place) := by
  induction names generalizing place with
  | nil => rfl
  | cons name rest ih =>
      rw [List.cons_append, wayFrom, wayFrom]
      split
      · exact ih place
      · split
        · exact ih place.tail
        · exact ih (name :: place)

theorem wayFrom_isName {name : String} (plain : IsName name) (place : Location) :
    wayFrom [name] place = name :: place := by
  rw [wayFrom, if_neg plain.notMark, if_neg plain.notDots, wayFrom]

theorem wayFrom_marks {marks : List String}
    (each : ∀ mark ∈ marks, mark = Path.dotMark ∨ mark = Path.slashMark)
    (place : Location) : wayFrom marks place = place := by
  induction marks with
  | nil => rfl
  | cons mark rest ih =>
      rw [wayFrom, if_pos (each mark (by simp))]
      exact ih fun other member => each other (by simp [member])

theorem wayFrom_names {names : List String} (plain : ∀ name ∈ names, IsName name)
    (place : Location) : wayFrom names place = names.reverse ++ place := by
  induction names generalizing place with
  | nil => rfl
  | cons name rest ih =>
      have here := plain name (by simp)
      rw [wayFrom, if_neg here.notMark, if_neg here.notDots,
        ih (fun other member => plain other (by simp [member])), List.reverse_cons,
        List.append_assoc, List.singleton_append]

theorem exists_name_of_walk {tree : FileTree} (linkless : tree.Linkless) {goal : Goal}
    {links : Nat} {names : List String} {place last : Location} (some : names ≠ [])
    (walked : walk tree goal links names place = .ok last) (absent : tree.body? last = none) :
    ∃ name parent, last = name :: parent ∧ name ∈ names ∧ Descends name := by
  induction names generalizing place with
  | nil => exact absurd rfl some
  | cons name rest ih =>
      have directory := directory_of_walk_cons _ _ _ _ walked
      by_cases only : rest = []
      · subst only
        have ends := last_eq_of_walk linkless walked
        rw [wayFrom] at ends
        split at ends
        · rw [ends, wayFrom, directory] at absent
          cases absent
        · split at ends
          · rw [ends, wayFrom, FileTree.directory_tail directory] at absent
            cases absent
          · subst ends
            exact ⟨name, place, rfl, by simp, descends_of_walk_single directory walked⟩
      -- The names behind the first one lead to the same end.
      · have later {from_ : Location} (on : walk tree goal links rest from_ = .ok last) :
            ∃ found parent, last = found :: parent ∧ found ∈ name :: rest ∧ Descends found := by
          obtain ⟨found, parent, ends, member, descends⟩ := ih only on
          exact ⟨found, parent, ends, List.mem_cons_of_mem _ member, descends⟩
        cases firstStep_of_walk_cons _ _ _ _ walked with
        | mark mark on => exact later on
        | up dots on => exact later on
        | enter body descends found noLink on => exact later on
        | absent missing ends => exact absurd ends only
        | stay ends => exact absurd ends only
        | follow target fewer descends found => exact absurd found (linkless _ _)

theorem Location.within_self (top : Location) : Location.within top top = true := by
  simp [within, List.isSuffixOf_iff_suffix]

namespace Disk

/-- All that changes stands at or below the top, but for the times of the directory above. -/
structure Confined (disk : Disk) (top : Location) (later : Disk) : Prop where
  keeps : disk.Keeps later
  linkless : disk.tree.Linkless → later.tree.Linkless
  bodies : ∀ location : Location, ¬Location.within location top = true →
    later.tree.body? location = disk.tree.body? location
  nodes : ∀ location : Location, ¬Location.within location top = true → location ≠ top.tail →
    later.tree.find? location = disk.tree.find? location

theorem Confined.refl (disk : Disk) (top : Location) : disk.Confined top disk :=
  ⟨.refl disk, id, fun _ _ => rfl, fun _ _ _ => rfl⟩

theorem Confined.tick {disk later : Disk} {top : Location} (confined : disk.Confined top later) :
    disk.Confined top later.tick :=
  ⟨confined.keeps.trans later.keeps_tick, confined.linkless, confined.bodies, confined.nodes⟩

theorem Confined.trans {disk later last : Disk} {top : Location} (first : disk.Confined top later)
    (next : later.Confined top last) : disk.Confined top last where
  keeps := first.keeps.trans next.keeps
  linkless := fun linkless => next.linkless (first.linkless linkless)
  bodies := fun location outside =>
    (next.bodies location outside).trans (first.bodies location outside)
  nodes := fun location outside other =>
    (next.nodes location outside other).trans (first.nodes location outside other)

variable {disk later : Disk} {top : Location}

theorem Made.confined {location : Location} {body : NodeBody} (step : disk.Made location body later)
    (noLink : body.isLink = false) (inside : Location.within location top = true)
    (above : location = top ∨ Location.within location.tail top = true) :
    disk.Confined top later where
  keeps := step.keeps
  linkless := step.linkless noLink
  bodies := by
    intro key outside
    rw [step.bodies, if_neg]
    rintro rfl
    exact outside inside
  nodes := by
    intro key outside notAbove
    rw [step.nodes key, if_neg]
    · rintro rfl
      exact outside inside
    · rintro rfl
      rcases above with rfl | above
      · exact notAbove rfl
      · exact outside above

theorem confined_setContent {location : Location} {old : Content} (content : Content)
    (held : disk.tree.body? location = some (.file old))
    (inside : Location.within location top = true) :
    disk.Confined top { disk with tree := disk.tree.setContent location content disk.now } := by
  have elsewhere : ∀ key : Location, ¬Location.within key top = true →
      (disk.tree.setContent location content disk.now).find? key = disk.tree.find? key := by
    intro key outside
    rw [find?_setContent, if_neg]
    rintro rfl
    exact outside inside
  cases location with
  | nil =>
      have root := (FileTree.holdsDirectory_iff disk.tree []).1 disk.tree.rooted
      rw [root] at held
      cases held
  | cons name place =>
      refine ⟨(changesWithin_setContent disk name place old content held).keeps,
        (advances_rewrite content held).linkless, ?_, fun key outside _ => elsewhere key outside⟩
      intro key outside
      exact congrArg (Option.map Node.body) (elsewhere key outside)

def placeOf (disk : Disk) (path : Path) : Location :=
  wayFrom path.names (disk.startOf path)

theorem placeOf_join {name : String} (plain : IsName name) (disk : Disk) (path : Path) :
    disk.placeOf (path.join name) = name :: disk.placeOf path := by
  rw [placeOf, Path.names_join path plain, startOf_join plain, wayFrom_append,
    wayFrom_isName plain, ← placeOf]

theorem placeOf_join_inward {text : String} (inward : (Path.mk text).Inward) (disk : Disk)
    (path : Path) :
    disk.placeOf (path.join text) = (Path.mk text).names.reverse ++ disk.placeOf path := by
  have start : disk.startOf (path.join text) = disk.startOf path := by
    rw [startOf, startOf, Path.isAbsolute_join_relative path inward.1]
  rw [placeOf, Path.names_join_relative path inward.1, start, wayFrom_append,
    wayFrom_names inward.isName, ← placeOf]

theorem placeOf_of_locate (linkless : disk.tree.Linkless) {goal : Goal} {path : Path}
    {place : Location} (located : disk.locate goal path = .ok place) :
    disk.placeOf path = place := by
  obtain ⟨marks, steps, each⟩ := path.exists_marks
  rw [locate_of_sound _ (sound_of_locate located), steps] at located
  rw [last_eq_of_walk linkless located, wayFrom_append, wayFrom_marks each, placeOf]

theorem Keeps.placeOf (keeps : disk.Keeps later) (path : Path) :
    later.placeOf path = disk.placeOf path := by
  rw [Disk.placeOf, Disk.placeOf, keeps.startOf]

theorem confined_writeFile (linkless : disk.tree.Linkless) {path : Path} {content : Content}
    (inside : Location.within (disk.placeOf path).tail top = true)
    (done : Operation.writeFile path content disk = .ok () later) : disk.Confined top later := by
  obtain ⟨changed, wrote, rfl⟩ := (Operation.change_eq_ok_iff _).1 done
  obtain ⟨location, located, step⟩ := step_of_writeFile linkless wrote
  rw [placeOf_of_locate linkless located] at inside
  -- The parent is at the top or below it, and so the file is below.
  have below : Location.within location top = true := by
    by_contra outside
    exact not_within_tail outside inside
  cases step with
  | create made => exact (made_of_make made).tick.confined rfl below (.inr inside)
  | rewrite new held => exact (confined_setContent new held below).tick

end Disk

namespace Operation

variable {α β : Type}

def leaves (operation : Operation α) (disk : Disk) : Disk :=
  match operation disk with
  | .ok _ later => later
  | .error _ later => later

theorem leaves_congr {first second : Operation α} {disk : Disk} (same : first disk = second disk) :
    first.leaves disk = second.leaves disk := by
  rw [leaves, leaves, same]

theorem leaves_bind_of_ok {first : Operation α} {next : α → Operation β} {disk middle : Disk}
    {value : α} (done : first disk = .ok value middle) :
    (first >>= next).leaves disk = (next value).leaves middle := by
  simp only [leaves, bind, EStateM.bind, done]

theorem leaves_bind_pure (operation : Operation α) (finish : α → β) (disk : Disk) :
    (operation >>= fun value => pure (finish value)).leaves disk = operation.leaves disk := by
  cases done : operation disk with
  | ok value later =>
      rw [leaves_bind_of_ok done, leaves, leaves, done]
      rfl
  | error error later => simp only [leaves, bind, EStateM.bind, done]

theorem leaves_bind_of_error {first : Operation α} {next : α → Operation β} {disk middle : Disk}
    {error : Error} (failed : first disk = .error error middle) :
    (first >>= next).leaves disk = middle := by
  simp only [leaves, bind, EStateM.bind, failed]

end Operation

namespace Repository

variable {disk : Disk} {directory : Path} {entry : Location}

theorem confined_writeSection (linkless : disk.tree.Linkless)
    (leads : disk.placeOf directory = entry) (key : SectionKey)
    (content : String) (snapshot : Snapshot) :
    disk.Confined entry ((writeSection directory key content snapshot).leaves disk) := by
  have plain := key.isName_fileName
  cases done : Operation.writeFile (directory.join key.fileName) (.ofText content) disk with
  | error error middle =>
      rw [writeSection, Operation.writeText, Operation.leaves_bind_of_error done,
        Operation.error_of_change done]
      exact .refl disk entry
  | ok _ later =>
      have written := (writeSection_eq_ok_iff key content snapshot _).2 ⟨done, rfl⟩
      rw [Operation.leaves, written]
      refine Disk.confined_writeFile linkless ?_ done
      rw [Disk.placeOf_join plain, leads]
      exact Location.within_self entry

theorem confined_writeSections (linkless : disk.tree.Linkless)
    (leads : disk.placeOf directory = entry)
    (sections : List (SectionKey × String)) (snapshot : Snapshot) :
    disk.Confined entry ((writeSections directory sections snapshot).leaves disk) := by
  induction sections generalizing disk snapshot with
  | nil => exact .refl disk entry
  | cons file rest ih =>
      have first := confined_writeSection linkless leads file.1 file.2 snapshot
      rw [writeSections, List.foldlM_cons]
      cases written : writeSection directory file.1 file.2 snapshot disk with
      | error error middle =>
          rw [Operation.leaves, written] at first
          rwa [Operation.leaves_bind_of_error written]
      | ok captured middle =>
          rw [Operation.leaves, written] at first
          rw [Operation.leaves_bind_of_ok written]
          exact first.trans (ih (first.linkless linkless) ((first.keeps.placeOf _).trans leads)
            captured)

end Repository

namespace Disk

variable {disk later : Disk} {start : Location} {names : List String}

/-- Directories are made where names lead that stand at the beginning of some names, and nothing
else changes but the times of directories. -/
structure Grows (disk : Disk) (start : Location) (names : List String) (later : Disk) : Prop where
  keeps : disk.Keeps later
  linkless : disk.tree.Linkless → later.tree.Linkless
  named : (∀ name ∈ names, Descends name → IsName name) → disk.tree.Named → later.tree.Named
  bodies : ∀ location : Location, later.tree.body? location = disk.tree.body? location ∨
    disk.tree.body? location = none ∧ later.tree.body? location = some .directory ∧
      ∃ first, first <+: names ∧ location = wayFrom first start

theorem Grows.refl (disk : Disk) (start : Location) (names : List String) :
    disk.Grows start names disk :=
  ⟨.refl disk, id, fun _ => id, fun _ => .inl rfl⟩

theorem Grows.trans {middle : Disk} (first : disk.Grows start names middle)
    (next : middle.Grows start names later) : disk.Grows start names later where
  keeps := first.keeps.trans next.keeps
  linkless := fun linkless => next.linkless (first.linkless linkless)
  named := fun plain named => next.named plain (first.named plain named)
  bodies := by
    intro location
    rcases first.bodies location with same | ⟨absent, made, way⟩
    · rcases next.bodies location with kept | ⟨missing, made, way⟩
      · exact .inl (kept.trans same)
      · exact .inr ⟨same.symm.trans missing, made, way⟩
    · exact .inr ⟨absent, next.keeps.bodies location .directory made rfl, way⟩

theorem Grows.mono {more : List String} (grows : disk.Grows start names later)
    (longer : names <+: more) : disk.Grows start more later where
  keeps := grows.keeps
  linkless := grows.linkless
  named := fun plain => grows.named fun name member => plain name (longer.subset member)
  bodies := fun location => (grows.bodies location).imp id
    fun ⟨absent, made, first, within, way⟩ => ⟨absent, made, first, within.trans longer, way⟩

theorem leaves_ensureDirectory (linkless : disk.tree.Linkless) {names : List String}
    (some : names ≠ []) (start : Location) :
    (Operation.ensureDirectory names start).leaves disk = disk ∨
      ∃ name place, wayFrom names start = name :: place ∧ name ∈ names ∧ Descends name ∧
        disk.Made (name :: place) .directory
          ((Operation.ensureDirectory names start).leaves disk) := by
  cases step : disk.makeDirectoryAt names start with
  | error fault =>
      refine .inl ?_
      simp only [Operation.leaves, Operation.ensureDirectory, step]
      cases disk.isDirectoryAt names start <;> rfl
  | ok made =>
      refine .inr ?_
      simp only [Operation.leaves, Operation.ensureDirectory, step]
      cases walked : disk.walk .entry names start with
      | error fault =>
          rw [makeDirectoryAt_of_error walked] at step
          cases step
      | ok location =>
          rw [makeDirectoryAt_of_walk walked] at step
          split at step
          · cases step
          · have done := (made_of_make step).tick
            obtain ⟨name, place, rfl, member, descends⟩ :=
              exists_name_of_walk linkless some walked done.absent
            exact ⟨name, place, (last_eq_of_walk linkless walked).symm, member, descends, done⟩

theorem Made.grows {name : String} {place : Location} (way : wayFrom names start = name :: place)
    (member : name ∈ names) (descends : Descends name)
    (step : disk.Made (name :: place) .directory later) : disk.Grows start names later where
  keeps := step.keeps
  linkless := step.linkless rfl
  named := by
    intro plain named other parent found
    rw [step.bodies] at found
    split at found
    · next here =>
        cases here
        exact plain name member descends
    · exact named other parent found
  bodies := by
    intro location
    rw [step.bodies]
    split
    · next here =>
        exact .inr ⟨here ▸ step.absent, rfl, names, List.prefix_rfl, here.trans way.symm⟩
    · exact .inl rfl

theorem grows_ensureDirectory (linkless : disk.tree.Linkless) (some : names ≠ [])
    {marks : List String} (each : ∀ mark ∈ marks, mark = Path.dotMark ∨ mark = Path.slashMark)
    (start : Location) :
    disk.Grows start names ((Operation.ensureDirectory (names ++ marks) start).leaves disk) := by
  rcases leaves_ensureDirectory linkless (List.append_ne_nil_of_left_ne_nil some marks) start with
    same | ⟨name, place, way, member, descends, made⟩
  · rw [same]
    exact .refl disk start names
  · rw [wayFrom_append, wayFrom_marks each] at way
    refine made.grows way ?_ descends
    exact (List.mem_append.1 member).resolve_right fun mark => descends.notMark (each name mark)

theorem makeDirectoriesAt_of_notFound {name : String} {parents : List String}
    (missing : disk.makeDirectoryAt (parents.reverse ++ [name]) start = .error .notFound) :
    Operation.makeDirectoriesAt start [] (name :: parents) disk =
      (Operation.makeDirectoriesAt start [] parents >>= fun _ =>
        Operation.ensureDirectory (parents.reverse ++ [name]) start) disk := by
  simp only [Operation.makeDirectoriesAt, List.reverse_cons, List.append_nil, missing]

theorem makeDirectoriesAt_of_other {name : String} {parents : List String}
    (other : disk.makeDirectoryAt (parents.reverse ++ [name]) start ≠ .error .notFound) :
    Operation.makeDirectoriesAt start [] (name :: parents) disk =
      Operation.ensureDirectory (parents.reverse ++ [name]) start disk := by
  simp only [Operation.makeDirectoriesAt, List.reverse_cons, List.append_nil]

theorem makeDirectoriesAt_cons (start : Location) (marks : List String) (name : String)
    (parents : List String) :
    Operation.makeDirectoriesAt start marks (name :: parents) disk =
        Operation.ensureDirectory ((name :: parents).reverse ++ marks) start disk ∨
      Operation.makeDirectoriesAt start marks (name :: parents) disk =
        (Operation.makeDirectoriesAt start [] parents >>= fun _ =>
          Operation.ensureDirectory ((name :: parents).reverse ++ marks) start) disk := by
  simp only [Operation.makeDirectoriesAt]
  split
  · exact .inr rfl
  · exact .inl rfl

/-- Whatever becomes of the last one, no directory is made but on the way. -/
theorem grows_makeDirectoriesAt (linkless : disk.tree.Linkless) (start : Location)
    {marks : List String} (each : ∀ mark ∈ marks, mark = Path.dotMark ∨ mark = Path.slashMark)
    (parents : List String) :
    disk.Grows start parents.reverse
      ((Operation.makeDirectoriesAt start marks parents).leaves disk) := by
  induction parents generalizing marks with
  | nil => exact .refl disk start []
  | cons name parents ih =>
      have longer : parents.reverse <+: (name :: parents).reverse := by
        rw [List.reverse_cons]
        exact List.prefix_append _ _
      have some : (name :: parents).reverse ≠ [] := by simp
      rcases makeDirectoriesAt_cons start marks name parents with last | after
      · rw [Operation.leaves_congr last]
        exact grows_ensureDirectory linkless some each start
      · rw [Operation.leaves_congr after]
        have first := (ih (List.forall_mem_nil _)).mono longer
        cases before : Operation.makeDirectoriesAt start [] parents disk with
        | error error middle =>
            rw [Operation.leaves, before] at first
            rwa [Operation.leaves_bind_of_error before]
        | ok value middle =>
            rw [Operation.leaves, before] at first
            rw [Operation.leaves_bind_of_ok before]
            exact first.trans (grows_ensureDirectory (first.linkless linkless) some each start)

theorem confined_ensureDirectory {name : String} (linkless : disk.tree.Linkless)
    (plain : IsName name) (names : List String) (start : Location) :
    disk.Confined (name :: wayFrom names start)
      ((Operation.ensureDirectory (names ++ [name]) start).leaves disk) := by
  have way : wayFrom (names ++ [name]) start = name :: wayFrom names start := by
    rw [wayFrom_append, wayFrom_isName plain]
  rcases leaves_ensureDirectory linkless (List.concat_ne_nil name names) start with
    same | ⟨last, place, ends, -, -, made⟩
  · rw [same]
    exact .refl disk _
  · rw [← ends, way] at made
    exact made.confined rfl (Location.within_self _) (.inl rfl)

theorem ensureDirectory_error {error : Error} {names : List String} {start : Location}
    (failed : Operation.ensureDirectory names start disk = .error error later) : later = disk := by
  simp only [Operation.ensureDirectory] at failed
  split at failed
  · cases failed
  · split at failed
    · cases failed
    · cases failed
      rfl

theorem error_or_ok_of_ensureDirectory (names : List String) (start : Location) :
    (∃ error, Operation.ensureDirectory names start disk = .error error disk) ∨
      ∃ made, Operation.ensureDirectory names start disk = .ok () made := by
  cases ended : Operation.ensureDirectory names start disk with
  | error error later =>
      cases ensureDirectory_error ended
      exact .inl ⟨error, rfl⟩
  | ok value made => exact .inr ⟨made, rfl⟩

variable {base : Path} {name : String}

/-- What is there when the directory of an entry is about to be made: the disk as it was, or, if
that directory can have no place yet, the disk with directories on the way to it. -/
def Prepared (disk : Disk) (base : Path) (name : String) (middle : Disk) : Prop :=
  middle = disk ∨
    disk.makeDirectoryAt (base.names ++ [name]) (disk.startOf base) = .error .notFound ∧
      middle = (Operation.makeDirectoriesAt (disk.startOf base) [] base.names.reverse).leaves disk

theorem Prepared.grows {middle : Disk} (prepared : disk.Prepared base name middle)
    (linkless : disk.tree.Linkless) : disk.Grows (disk.startOf base) base.names middle := by
  rcases prepared with rfl | ⟨-, rfl⟩
  · exact .refl middle _ _
  · have grows := grows_makeDirectoriesAt linkless (disk.startOf base)
      (List.forall_mem_nil _) base.names.reverse
    rwa [List.reverse_reverse] at grows

theorem makeDirectories_of_sound (plain : IsName name) (sound : (base.join name).Sound) :
    Operation.makeDirectories (base.join name) disk =
      Operation.makeDirectoriesAt (disk.startOf base) [] (name :: base.names.reverse) disk := by
  have some : (base.join name).text ≠ "" := sound.2.1
  have names : (base.join name).names.reverse = name :: base.names.reverse := by
    rw [Path.names_join base plain, List.reverse_concat]
  rw [Operation.makeDirectories, if_pos some, (Path.check_eq_ok_iff _).2 sound,
    Path.dots_join base plain, names, ← startOf_join plain]
  rfl

theorem makeDirectories_of_unsound (plain : IsName name) (unsound : ¬(base.join name).Sound) :
    ∃ error, Operation.makeDirectories (base.join name) disk = .error error disk := by
  have some : (base.join name).text ≠ "" := by simp [Path.join_name base plain, plain.some]
  cases checked : (base.join name).check with
  | ok _ => exact absurd ((Path.check_eq_ok_iff _).1 checked) unsound
  | error fault =>
      refine ⟨.file fault, ?_⟩
      rw [Operation.makeDirectories, if_pos some, checked]
      rfl

theorem exists_prepared (plain : IsName name) (disk : Disk) (base : Path) :
    ∃ middle, disk.Prepared base name middle ∧
      ((∃ error, Operation.makeDirectories (base.join name) disk = .error error middle) ∨
        ∃ made, Operation.makeDirectories (base.join name) disk = .ok () made ∧
          Operation.ensureDirectory (base.names ++ [name]) (disk.startOf base) middle =
            .ok () made) := by
  -- The path is refused at once, or what is before its last name is made first, or the last name
  -- has its place already.
  by_cases sound : (base.join name).Sound
  · have all : Operation.makeDirectories (base.join name) disk = _ :=
      makeDirectories_of_sound plain sound
    by_cases missing : disk.makeDirectoryAt (base.names ++ [name]) (disk.startOf base) =
        .error .notFound
    · have unplaced := missing
      rw [← List.reverse_reverse base.names] at unplaced
      have step := makeDirectoriesAt_of_notFound unplaced
      rw [List.reverse_reverse, ← all] at step
      cases before : Operation.makeDirectoriesAt (disk.startOf base) [] base.names.reverse disk with
      | error error middle =>
          refine ⟨middle, .inr ⟨missing, by rw [Operation.leaves, before]⟩, .inl ⟨error, ?_⟩⟩
          simp only [step, bind, EStateM.bind, before]
      | ok value middle =>
          refine ⟨middle, .inr ⟨missing, by rw [Operation.leaves, before]⟩, ?_⟩
          simp only [step, bind, EStateM.bind, before]
          exact (error_or_ok_of_ensureDirectory _ _).imp id
            fun ⟨made, ended⟩ => ⟨made, ended, ended⟩
    · have placed := missing
      rw [← List.reverse_reverse base.names] at placed
      have step := makeDirectoriesAt_of_other placed
      rw [List.reverse_reverse, ← all] at step
      rw [step]
      exact ⟨disk, .inl rfl, (error_or_ok_of_ensureDirectory _ _).imp id
        fun ⟨made, ended⟩ => ⟨made, ended, ended⟩⟩
  · exact ⟨disk, .inl rfl, .inl (makeDirectories_of_unsound plain sound)⟩

end Disk

namespace Repository

variable {repository : Repository} {record : PackageRecord} {disk : Disk}

theorem exists_middle_of_write (linkless : disk.tree.Linkless) (plain : IsName record.dbname) :
    ∃ middle, disk.Prepared repository.directory record.dbname middle ∧
      ((repository.write record).leaves disk = middle ∨
        (∃ shelf, middle.Reaches repository.directory shelf) ∧
        middle.Confined
          (record.dbname :: wayFrom repository.directory.names (disk.startOf repository.directory))
          ((repository.write record).leaves disk)) := by
  obtain ⟨middle, prepared, ends⟩ := Disk.exists_prepared plain disk repository.directory
  refine ⟨middle, prepared, ?_⟩
  rcases ends with ⟨error, failed⟩ | ⟨made, done, ensured⟩
  · exact .inl (Operation.leaves_bind_of_error failed)
  · have grows := prepared.grows linkless
    have middleLinkless := grows.linkless linkless
    refine .inr ⟨?_, ?_⟩
    -- The entry was made in the directory of the repository, or it was found there.
    · rcases Disk.made_or_leads_of_ensureDirectory plain ensured with
        ⟨left, shelf, leads, -⟩ | ⟨left, place, leads⟩
      · exact ⟨shelf, left, by rwa [grows.keeps.startOf]⟩
      · obtain ⟨before, shelf, above, -⟩ := leads.exists_parent plain
        exact ⟨shelf, before, by rwa [grows.keeps.startOf]⟩
    · have first := Disk.confined_ensureDirectory middleLinkless plain repository.directory.names
        (disk.startOf repository.directory)
      rw [Operation.leaves, ensured] at first
      have leads : made.placeOf (repository.directory.join record.dbname) =
          record.dbname :: disk.placeOf repository.directory := by
        rw [Disk.placeOf_join plain, (grows.keeps.trans first.keeps).placeOf]
      rw [write, Operation.leaves_bind_of_ok done, Operation.leaves_bind_pure]
      exact first.trans (confined_writeSections (first.linkless middleLinkless) leads _ {})

end Repository

end PackageAssay

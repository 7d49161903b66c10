import PackageAssay.Files.Operation
import PackageAssay.Proofs.Reach

set_option autoImplicit false

namespace PackageAssay

namespace Operation

variable {α β : Type} {disk later : Disk}

theorem bind_eq_ok_iff (first : Operation α) (next : α → Operation β) (value : β) :
    (first >>= next) disk = .ok value later ↔
      ∃ found middle, first disk = .ok found middle ∧ next found middle = .ok value later := by
  simp only [bind, EStateM.bind]
  cases first disk with
  | ok found middle => simp
  | error fault middle => simp

theorem pure_eq_ok_iff (given value : α) :
    (pure given : Operation α) disk = .ok value later ↔ value = given ∧ later = disk := by
  constructor
  · intro done
    cases done
    exact ⟨rfl, rfl⟩
  · rintro ⟨rfl, rfl⟩
    rfl

theorem look_eq_ok_iff (see : Disk → Except Error α) (value : α) :
    look see disk = .ok value later ↔ see disk = .ok value ∧ later = disk := by
  rw [look]
  cases see disk with
  | ok found => simp [eq_comm]
  | error error => simp

theorem get_eq_ok_iff (value : Disk) :
    (get : Operation Disk) disk = .ok value later ↔ value = disk ∧ later = disk := by
  constructor
  · intro done
    cases done
    exact ⟨rfl, rfl⟩
  · rintro ⟨rfl, rfl⟩
    rfl

def succeedsWith (test : α → Disk → Bool) (operation : Operation α) (disk : Disk) : Bool :=
  match operation disk with
  | .ok value later => test value later
  | .error _ _ => false

theorem succeedsWith_iff (test : α → Disk → Bool) (operation : Operation α) :
    succeedsWith test operation disk = true ↔
      ∃ value later, operation disk = .ok value later ∧ test value later = true := by
  rw [succeedsWith]
  cases operation disk <;> simp

def succeeds : Operation α → Disk → Bool :=
  succeedsWith fun _ _ => true

theorem succeeds_iff (operation : Operation α) :
    succeeds operation disk = true ↔ ∃ value later, operation disk = .ok value later := by
  simp [succeeds, succeedsWith_iff]

theorem change_eq_ok_iff (step : Disk → Except Fault Disk) :
    change step disk = .ok () later ↔ ∃ changed, step disk = .ok changed ∧ later = changed.tick := by
  rw [change]
  cases step disk <;> simp [eq_comm]

theorem error_of_change {step : Disk → Except Fault Disk} {error : Error}
    (failed : change step disk = .error error later) : later = disk := by
  rw [change] at failed
  split at failed <;> cases failed
  rfl

end Operation

namespace FileTree

theorem find?_touch (tree : FileTree) (location key : Location) (now : Int64) :
    (tree.touch location now).find? key =
      if key = location then (tree.find? key).map (Node.touched now) else tree.find? key :=
  find?_change tree location _ _ key

theorem body?_touch (tree : FileTree) (location key : Location) (now : Int64) :
    (tree.touch location now).body? key = tree.body? key := by
  rw [body?, find?_touch, body?]
  split
  · cases tree.find? key <;> rfl
  · rfl

theorem body?_add {tree added : FileTree} {location : Location} {node : Node}
    (done : tree.add location node = some added) (key : Location) :
    added.body? key = if key = location then some node.body else tree.body? key := by
  rw [body?, find?_add done, body?]
  split <;> rfl

theorem isSome_add_iff (tree : FileTree) (location : Location) (node : Node) :
    (tree.add location node).isSome = true ↔
      tree.body? location = none ∧ tree.body? location.tail = some .directory := by
  rw [← holdsDirectory_iff, ← Option.not_isSome_iff_eq_none, isSome_body?_iff, add]
  split
  · next free => simpa using free
  · next taken => simpa using taken

end FileTree

namespace Disk

/-- The moment of the change that comes after so many others. -/
def moment : Disk → Nat → Int64
  | disk, 0 => disk.now
  | disk, count + 1 => disk.tick.moment count

@[simp] theorem moment_zero (disk : Disk) : disk.moment 0 = disk.now := rfl

/-- The clock of the second disk has gone on by some changes. -/
def Onward (disk later : Disk) : Prop :=
  ∃ count, ∀ next, later.moment next = disk.moment (count + next)

theorem Onward.trans {disk later last : Disk} (first : disk.Onward later)
    (second : later.Onward last) : disk.Onward last := by
  obtain ⟨before, first⟩ := first
  obtain ⟨behind, second⟩ := second
  exact ⟨before + behind, fun next => by rw [second, first, Nat.add_assoc]⟩

theorem onward_of_moment_eq {disk later : Disk} (same : later.moment = disk.moment) :
    disk.Onward later :=
  ⟨0, fun next => by rw [same, Nat.zero_add]⟩

theorem onward_tick (disk : Disk) : disk.Onward disk.tick :=
  ⟨1, fun next => by rw [Nat.add_comm, moment]⟩

theorem moment_congr {disk later : Disk} (now : later.now = disk.now)
    (ahead : later.ahead = disk.ahead) : later.moment = disk.moment := by
  funext count
  induction count generalizing disk later with
  | zero => exact now
  | succ count ih =>
      refine ih ?_ ?_
      · rw [tick, tick, now, ahead]
      · rw [tick, tick, ahead]

/-- What is done to a disk while its directories and links stay. -/
structure Keeps (disk later : Disk) : Prop where
  clock : disk.Onward later
  workingDirectory : later.workingDirectory = disk.workingDirectory
  bodies : ∀ (location : Location) (body : NodeBody), disk.tree.body? location = some body →
    body.isFile = false → later.tree.body? location = some body

theorem Keeps.refl (disk : Disk) : disk.Keeps disk :=
  ⟨onward_of_moment_eq rfl, rfl, fun _ _ found _ => found⟩

theorem Keeps.trans {disk later last : Disk} (first : disk.Keeps later) (next : later.Keeps last) :
    disk.Keeps last :=
  ⟨first.clock.trans next.clock, next.workingDirectory.trans first.workingDirectory,
    fun location body found other =>
      next.bodies location body (first.bodies location body found other) other⟩

theorem keeps_tick (disk : Disk) : disk.Keeps disk.tick :=
  ⟨disk.onward_tick, rfl, fun _ _ found _ => found⟩

theorem Keeps.startOf {disk later : Disk} (keeps : disk.Keeps later) (path : Path) :
    later.startOf path = disk.startOf path :=
  startOf_congr keeps.workingDirectory path

theorem Keeps.reaches {disk later : Disk} (keeps : disk.Keeps later) {path : Path}
    {place : Location} (reaches : disk.Reaches path place) : later.Reaches path place := by
  obtain ⟨left, leads⟩ := reaches
  exact ⟨left, leads_of_later keeps.workingDirectory keeps.bodies leads⟩

/-- A node is made in a directory; that directory is touched, and nothing else changes. -/
structure Made (disk : Disk) (location : Location) (body : NodeBody) (made : Disk) : Prop where
  absent : disk.tree.body? location = none
  inside : disk.tree.body? location.tail = some .directory
  clock : disk.Onward made
  workingDirectory : made.workingDirectory = disk.workingDirectory
  bodies : ∀ key, made.tree.body? key = if key = location then some body else disk.tree.body? key
  nodes : ∀ key, key ≠ location.tail →
    made.tree.find? key =
      if key = location then some ⟨body, .madeAt disk.now⟩ else disk.tree.find? key

theorem Made.keeps {disk made : Disk} {location : Location} {body : NodeBody}
    (step : disk.Made location body made) : disk.Keeps made := by
  refine ⟨step.clock, step.workingDirectory, ?_⟩
  intro key held found _
  rw [step.bodies, if_neg, found]
  rintro rfl
  rw [step.absent] at found
  cases found

theorem Made.tick {disk made : Disk} {location : Location} {body : NodeBody}
    (step : disk.Made location body made) : disk.Made location body made.tick :=
  ⟨step.absent, step.inside, step.clock.trans made.onward_tick, step.workingDirectory,
    step.bodies, step.nodes⟩

theorem moment_of_make {disk made : Disk} {location : Location} {body : NodeBody}
    (done : disk.make location body = .ok made) : made.moment = disk.moment := by
  rw [make] at done
  split at done
  · cases done
    exact moment_congr rfl rfl
  · cases done

theorem made_of_make {disk made : Disk} {location : Location} {body : NodeBody}
    (done : disk.make location body = .ok made) : disk.Made location body made := by
  have clock := onward_of_moment_eq (moment_of_make done)
  rw [make] at done
  cases added : disk.tree.add location ⟨body, .madeAt disk.now⟩ with
  | none =>
      rw [added] at done
      cases done
  | some tree =>
      rw [added] at done
      cases done
      obtain ⟨absent, inside⟩ := (disk.tree.isSome_add_iff location _).1 (by rw [added]; rfl)
      refine ⟨absent, inside, clock, rfl, ?_, ?_⟩
      · intro key
        rw [FileTree.body?_touch, FileTree.body?_add added]
      · intro key other
        rw [FileTree.find?_touch, if_neg other, FileTree.find?_add added]

theorem exists_make {disk : Disk} {location : Location} (body : NodeBody)
    (absent : disk.tree.body? location = none)
    (inside : disk.tree.body? location.tail = some .directory) :
    ∃ made, disk.make location body = .ok made := by
  obtain ⟨tree, added⟩ := Option.isSome_iff_exists.1
    ((disk.tree.isSome_add_iff location ⟨body, .madeAt disk.now⟩).2 ⟨absent, inside⟩)
  rw [make, added]
  exact ⟨_, rfl⟩

section Ensure

variable {disk made : Disk} {start : Location} {names : List String} {name : String}

theorem makeDirectoryAt_of_walk {location : Location}
    (walked : disk.walk .entry names start = .ok location) :
    disk.makeDirectoryAt names start =
      if (disk.tree.body? location).isSome then .error .alreadyExists
      else disk.make location .directory := by
  rw [makeDirectoryAt, walked]
  simp only [bind, Except.bind]
  split <;> rfl

theorem makeDirectoryAt_of_error {fault : Fault}
    (walked : disk.walk .entry names start = .error fault) :
    disk.makeDirectoryAt names start = .error fault := by
  rw [makeDirectoryAt, walked]
  rfl

theorem makeDirectoryAt_of_leads (plain : IsName name) {left : Nat} {place : Location}
    (leads : Leads disk.tree maxLinks names start left place) :
    disk.makeDirectoryAt (names ++ [name]) start =
      if Path.maxNameLength < name.utf8ByteSize then .error .nameTooLong
      else if (disk.tree.body? (name :: place)).isSome then .error .alreadyExists
      else disk.make (name :: place) .directory := by
  have walked : disk.walk .entry (names ++ [name]) start =
      PackageAssay.walk disk.tree .entry left [name] place :=
    leads.walk_append (plain.onward .entry)
  split
  · next long =>
      rw [walk_longName _ _ _ _ leads.finish plain.notMark plain.notDots (by simp) long] at walked
      exact makeDirectoryAt_of_error walked
  · next short =>
      rw [walk_name _ _ _ leads.finish (plain.descends (Nat.not_lt.1 short)) (.inl rfl)] at walked
      exact makeDirectoryAt_of_walk walked

theorem leads_of_makeDirectoryAt (done : disk.makeDirectoryAt (names ++ [name]) start = .ok made) :
    ∃ left place, Leads disk.tree maxLinks names start left place := by
  cases walked : disk.walk .entry (names ++ [name]) start with
  | error fault =>
      rw [makeDirectoryAt_of_error walked] at done
      cases done
  | ok location => exact leads_of_walk_append walked (.inl (by simp))

theorem made_of_makeDirectoryAt (plain : IsName name)
    (done : disk.makeDirectoryAt (names ++ [name]) start = .ok made) :
    ∃ left place, Leads disk.tree maxLinks names start left place ∧ Descends name ∧
      disk.Made (name :: place) .directory made := by
  obtain ⟨left, place, leads⟩ := leads_of_makeDirectoryAt done
  rw [makeDirectoryAt_of_leads plain leads] at done
  split at done
  · cases done
  · next short =>
      split at done
      · cases done
      · exact ⟨left, place, leads, plain.descends (Nat.not_lt.1 short), made_of_make done⟩

theorem makeDirectoryAt_ne_notFound (plain : IsName name) {left : Nat} {place : Location}
    (leads : Leads disk.tree maxLinks names start left place) :
    disk.makeDirectoryAt (names ++ [name]) start ≠ .error .notFound := by
  rw [makeDirectoryAt_of_leads plain leads]
  split
  · simp
  · split
    · simp
    · rw [make]
      split <;> simp

theorem isDirectoryAt_iff :
    disk.isDirectoryAt names start = true ↔
      ∃ left place, Leads disk.tree maxLinks names start left place := by
  rw [isDirectoryAt]
  constructor
  · intro directory
    split at directory
    · next location walked =>
        have body : disk.tree.body? location = some .directory := by
          simpa [Option.any_eq_true, NodeBody.isDirectory_iff] using directory
        have whole : PackageAssay.walk disk.tree .target maxLinks (names ++ []) start =
            .ok location := by rwa [List.append_nil]
        exact leads_of_walk_append whole (.inr ⟨rfl, body⟩)
    · cases directory
  · rintro ⟨left, place, leads⟩
    have walked : disk.walk .target names start = .ok place := leads.walk_target
    rw [walked]
    simp [leads.finish, NodeBody.isDirectory]

theorem made_or_leads_of_ensureDirectory (plain : IsName name)
    (done : Operation.ensureDirectory (names ++ [name]) start disk = .ok () made) :
    (∃ left place, Leads disk.tree maxLinks names start left place ∧ Descends name ∧
      disk.Made (name :: place) .directory made) ∨
    ∃ left place, Leads disk.tree maxLinks (names ++ [name]) start left place := by
  rw [Operation.ensureDirectory] at done
  split at done
  · next changed step =>
      cases done
      obtain ⟨left, place, leads, descends, created⟩ := made_of_makeDirectoryAt plain step
      exact .inl ⟨left, place, leads, descends, created.tick⟩
  · split at done
    · next directory => exact .inr (isDirectoryAt_iff.1 directory)
    · cases done

end Ensure

/-- A directory is made after those before it. Unless its parent was there, it is made in an empty
one. -/
def MadeBelow (disk : Disk) (start : Location) (names : List String) (name : String)
    (made : Disk) : Prop :=
  ∃ before left place, disk.Keeps before ∧
    Leads before.tree maxLinks names start left place ∧ Descends name ∧
    before.Made (name :: place) .directory made ∧
    (before = disk ∨ ∀ child, before.tree.body? (child :: place) = none)

theorem Made.empty {disk made : Disk} {location : Location} {body : NodeBody}
    (step : disk.Made location body made) (child : String) :
    made.tree.body? (child :: location) = none := by
  rw [step.bodies, if_neg (by simp)]
  cases found : disk.tree.body? (child :: location) with
  | none => rfl
  | some held =>
      -- Nothing can have stood in what was not there.
      have wrong := FileTree.directory_of_child found
      rw [step.absent] at wrong
      cases wrong

section Below

variable {start : Location}

theorem ensured_of_makeDirectoriesAt {disk made : Disk} {name : String} {parents : List String}
    (done : Operation.makeDirectoriesAt start [] (name :: parents) disk = .ok () made) :
    Operation.ensureDirectory (parents.reverse ++ [name]) start disk = .ok () made ∨
    disk.makeDirectoryAt (parents.reverse ++ [name]) start = .error .notFound ∧
      ∃ middle, Operation.makeDirectoriesAt start [] parents disk = .ok () middle ∧
        Operation.ensureDirectory (parents.reverse ++ [name]) start middle = .ok () made := by
  simp only [Operation.makeDirectoriesAt, List.reverse_cons, List.append_nil] at done
  split at done
  · next step =>
      refine .inr ⟨step, ?_⟩
      simp only [bind, EStateM.bind] at done
      split at done
      · next middle first => exact ⟨middle, first, done⟩
      · cases done
  · exact .inl done

theorem madeBelow_of_ensureDirectory {disk made : Disk} {name : String} {names : List String}
    (plain : IsName name)
    (missing : ¬ ∃ left place, Leads disk.tree maxLinks (names ++ [name]) start left place)
    (done : Operation.ensureDirectory (names ++ [name]) start disk = .ok () made) :
    disk.MadeBelow start names name made := by
  rcases made_or_leads_of_ensureDirectory plain done with ⟨left, place, leads, step⟩ | there
  · exact ⟨disk, left, place, .refl disk, leads, step.1, step.2, .inl rfl⟩
  · exact absurd there missing

theorem madeBelow_of_fresh {disk middle made : Disk} {name parent : String} {names : List String}
    (plain : IsName name) (fresh : disk.MadeBelow start names parent middle)
    (done : Operation.ensureDirectory (names ++ [parent] ++ [name]) start middle = .ok () made) :
    disk.MadeBelow start (names ++ [parent]) name made := by
  obtain ⟨prior, left, place, keeps, leads, descends, step, -⟩ := fresh
  have found : middle.tree.body? (parent :: place) = some .directory := by
    rw [step.bodies, if_pos rfl]
  have above := leads.mono step.keeps.bodies
  have there := above.append (.down above.finish descends found (.here found))
  rcases made_or_leads_of_ensureDirectory plain done with
    ⟨left', place', leads', descends', step'⟩ | ⟨left', last, leads'⟩
  · cases there.last_unique leads'
    exact ⟨middle, left', _, keeps.trans step.keeps, leads', descends', step', .inr step.empty⟩
  -- The directory cannot be there already, since its parent is new and so holds nothing.
  · obtain ⟨left'', parent', leads'', -, some⟩ := leads'.exists_parent plain
    cases there.last_unique leads''
    exact absurd (step.empty name) some

theorem madeBelow_of_makeDirectoriesAt {disk made : Disk} {name : String} {parents : List String}
    (plain : IsName name)
    (settled : (∃ left place, Leads disk.tree maxLinks parents.reverse start left place) ∨
      ∀ parent ∈ parents, IsName parent)
    (missing : ¬ ∃ left place,
      Leads disk.tree maxLinks (parents.reverse ++ [name]) start left place)
    (done : Operation.makeDirectoriesAt start [] (name :: parents) disk = .ok () made) :
    disk.MadeBelow start parents.reverse name made := by
  -- From the last name to the first: a directory whose parent is missing is made after the parent,
  -- so that only the first directory to be made can meet anything that was there.
  induction parents generalizing name made with
  | nil =>
      rcases ensured_of_makeDirectoriesAt done with ensured | ⟨-, middle, first, ensured⟩
      · exact madeBelow_of_ensureDirectory plain missing ensured
      · cases first
        exact madeBelow_of_ensureDirectory plain missing ensured
  | cons parent before ih =>
      rcases ensured_of_makeDirectoriesAt done with ensured | ⟨refused, middle, first, ensured⟩
      · exact madeBelow_of_ensureDirectory plain missing ensured
      have parentMissing : ¬ ∃ left place,
          Leads disk.tree maxLinks (parent :: before).reverse start left place := by
        rintro ⟨left, place, leads⟩
        exact makeDirectoryAt_ne_notFound plain leads refused
      have names := settled.resolve_left parentMissing
      rw [List.reverse_cons] at parentMissing ensured ⊢
      refine madeBelow_of_fresh plain (ih (names parent (by simp)) ?_
        parentMissing first) ensured
      exact .inr fun other member => names other (by simp [member])

end Below

section Paths

variable {disk made : Disk} {base : Path} {name : String}

theorem makeDirectories_eq_ok_iff (plain : IsName name) :
    Operation.makeDirectories (base.join name) disk = .ok () made ↔
      (base.join name).Sound ∧
        Operation.makeDirectoriesAt (disk.startOf base) [] (name :: base.names.reverse) disk =
          .ok () made := by
  have some : (base.join name).text ≠ "" := by simp [Path.join_name base plain, plain.some]
  have names : (base.join name).names.reverse = name :: base.names.reverse := by
    rw [Path.names_join base plain, List.reverse_concat]
  rw [← Path.check_eq_ok_iff, Operation.makeDirectories, if_pos some, ← startOf_join plain]
  simp only [Operation.bind_eq_ok_iff, Operation.look_eq_ok_iff, Operation.get_eq_ok_iff,
    Path.dots_join base plain, names]
  constructor
  · rintro ⟨_, _, ⟨checked, rfl⟩, _, _, ⟨rfl, rfl⟩, done⟩
    refine ⟨?_, done⟩
    cases found : (base.join name).check with
    | ok _ => rfl
    | error fault =>
        rw [found] at checked
        cases checked
  · rintro ⟨checked, done⟩
    exact ⟨(), disk, ⟨by rw [checked]; rfl, rfl⟩, disk, disk, ⟨rfl, rfl⟩, done⟩

theorem reaches_join_iff (plain : IsName name) (place : Location) :
    disk.Reaches (base.join name) place ↔
      ∃ left, Leads disk.tree maxLinks (base.names ++ [name]) (disk.startOf base) left place := by
  rw [Reaches, Path.names_join base plain, startOf_join plain]

theorem made_of_makeDirectories (plain : IsName name)
    (settled : disk.isDirectory base = true ∨ base.Forward)
    (missing : ¬ ∃ place, disk.Reaches (base.join name) place)
    (done : Operation.makeDirectories (base.join name) disk = .ok () made) :
    ∃ before place, disk.Keeps before ∧ before.Reaches base place ∧ Descends name ∧
      before.Made (name :: place) .directory made ∧
      (before = disk ∨ ∀ child, before.tree.body? (child :: place) = none) := by
  have walked := ((makeDirectories_eq_ok_iff plain).1 done).2
  have known : (∃ left place, Leads disk.tree maxLinks base.names.reverse.reverse
      (disk.startOf base) left place) ∨ ∀ parent ∈ base.names.reverse, IsName parent := by
    rcases settled with there | forward
    · obtain ⟨-, place, left, leads⟩ := (isDirectory_iff disk base).1 there
      exact .inl ⟨left, place, by rwa [List.reverse_reverse]⟩
    · exact .inr fun parent member => forward.isName parent (List.mem_reverse.1 member)
  have below := madeBelow_of_makeDirectoriesAt plain known (by
    rintro ⟨left, place, leads⟩
    rw [List.reverse_reverse] at leads
    exact missing ⟨place, (reaches_join_iff plain place).2 ⟨left, leads⟩⟩) walked
  rw [List.reverse_reverse] at below
  obtain ⟨before, left, place, keeps, leads, rest⟩ := below
  exact ⟨before, place, keeps, ⟨left, by rwa [keeps.startOf]⟩, rest⟩

theorem makeDirectories_of_reaches (plain : IsName name) {place : Location}
    (sound : (base.join name).Sound) (reaches : disk.Reaches (base.join name) place) :
    Operation.makeDirectories (base.join name) disk = .ok () disk := by
  obtain ⟨left, leads⟩ := (reaches_join_iff plain place).1 reaches
  obtain ⟨left', parent, above, descends, some⟩ := leads.exists_parent plain
  have there := isDirectoryAt_iff.2 ⟨left, place, leads⟩
  have short := Nat.not_lt.2 descends.short
  have held := makeDirectoryAt_of_leads plain above
  rw [if_neg short, if_pos (Option.isSome_iff_ne_none.2 some)] at held
  refine (makeDirectories_eq_ok_iff plain).2 ⟨sound, ?_⟩
  simp [Operation.makeDirectoriesAt, Operation.ensureDirectory, held, there]

end Paths

end Disk

end PackageAssay

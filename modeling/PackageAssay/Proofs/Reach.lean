import PackageAssay.Files.Change
import PackageAssay.Proofs.NameMaps
import PackageAssay.Proofs.Walks

set_option autoImplicit false

namespace PackageAssay

theorem NodeBody.isDirectory_iff (body : NodeBody) :
    body.isDirectory = true ↔ body = .directory := by
  cases body <;> simp [isDirectory]

namespace FileTree

theorem holdsDirectory_iff (tree : FileTree) (location : Location) :
    holdsDirectory tree.nodes location = true ↔ tree.body? location = some .directory := by
  simp only [holdsDirectory, body?, find?, Option.any_eq_true, NodeBody.isDirectory_iff,
    Option.map_eq_some_iff]

theorem isSome_body?_iff (tree : FileTree) (location : Location) :
    (tree.body? location).isSome = true ↔ location ∈ tree.nodes.map Prod.fst := by
  simp only [body?, Option.isSome_map, find?, List.lookup_isSome_iff, List.mem_map]
  constructor
  · rintro ⟨entry, member, same⟩
    exact ⟨entry, member, (eq_of_beq same).symm⟩
  · rintro ⟨entry, member, rfl⟩
    exact ⟨entry, member, beq_self_eq_true _⟩

theorem directory_of_child {tree : FileTree} {name : String} {place : Location} {body : NodeBody}
    (found : tree.body? (name :: place) = some body) : tree.body? place = some .directory := by
  have held := (isSome_body?_iff tree (name :: place)).1 (by simp [found])
  exact (holdsDirectory_iff tree place).1 (tree.nested _ held)

theorem mem_childNames (tree : FileTree) (place : Location) (name : String) :
    name ∈ tree.childNames place ↔ (tree.body? (name :: place)).isSome = true := by
  rw [isSome_body?_iff, childNames, List.mem_filterMap, List.mem_map]
  constructor
  · rintro ⟨⟨location, node⟩, member, named⟩
    refine ⟨(location, node), member, ?_⟩
    cases location with
    | nil => cases named
    | cons first parent =>
        simp only at named
        split at named
        · next same =>
            cases named
            simp [same]
        · cases named
  · rintro ⟨⟨location, node⟩, member, rfl⟩
    exact ⟨(name :: place, node), member, by simp⟩

end FileTree

namespace Path

theorem exists_marks (path : Path) :
    ∃ marks, path.steps = path.names ++ marks ∧
      ∀ mark ∈ marks, mark = dotMark ∨ mark = slashMark := by
  refine ⟨_, rfl, ?_⟩
  unfold dots
  split
  · simp
  · split <;> simp

end Path

theorem walk_marks (tree : FileTree) (goal : Goal) (links : Nat) (marks : List String)
    {place : Location} (directory : tree.body? place = some .directory)
    (each : ∀ mark ∈ marks, mark = Path.dotMark ∨ mark = Path.slashMark) :
    walk tree goal links marks place = .ok place := by
  induction marks with
  | nil => rw [walk_nil]
  | cons mark rest ih =>
      rw [walk_mark _ _ _ _ directory (each mark (by simp))]
      exact ih fun other member => each other (by simp [member])

theorem walk_name (tree : FileTree) (goal : Goal) (links : Nat) {name : String} {place : Location}
    (directory : tree.body? place = some .directory) (descends : Descends name)
    (arrives : goal = .entry ∨ ∀ target, tree.body? (name :: place) ≠ some (.link target)) :
    walk tree goal links [name] place = .ok (name :: place) := by
  rw [walk_descend _ _ _ _ directory descends (by simp)]
  cases found : tree.body? (name :: place) with
  | none => rfl
  | some body =>
      cases body with
      | directory => exact walk_nil tree goal links _
      | file content => exact walk_nil tree goal links _
      | link target =>
          have entry := arrives.resolve_right fun never => never target found
          simp [entry]

namespace Disk

theorem startOf_congr {disk later : Disk}
    (workingDirectory : later.workingDirectory = disk.workingDirectory) (path : Path) :
    later.startOf path = disk.startOf path := by
  rw [startOf, startOf, workingDirectory]

theorem leads_of_later {disk later : Disk}
    (workingDirectory : later.workingDirectory = disk.workingDirectory)
    (stays : ∀ (location : Location) (body : NodeBody), disk.tree.body? location = some body →
      body.isFile = false → later.tree.body? location = some body)
    {path : Path} {names : List String} {links left : Nat} {place : Location}
    (leads : Leads disk.tree links names (disk.startOf path) left place) :
    Leads later.tree links names (later.startOf path) left place := by
  rw [startOf_congr workingDirectory]
  exact leads.mono stays

def Reaches (disk : Disk) (path : Path) (place : Location) : Prop :=
  ∃ left, Leads disk.tree maxLinks path.names (disk.startOf path) left place

variable {disk : Disk} {path : Path} {place : Location}

theorem Reaches.directory (reaches : disk.Reaches path place) :
    disk.tree.body? place = some .directory := by
  obtain ⟨left, leads⟩ := reaches
  exact leads.finish

theorem locate_of_sound (goal : Goal) (sound : path.Sound) :
    disk.locate goal path = disk.walk goal path.steps (disk.startOf path) := by
  rw [Disk.locate, (Path.check_eq_ok_iff path).2 sound]
  rfl

theorem sound_of_locate {goal : Goal} (found : disk.locate goal path = .ok place) :
    path.Sound := by
  rw [← Path.check_eq_ok_iff]
  cases checked : path.check with
  | ok _ => rfl
  | error fault =>
      rw [Disk.locate, checked] at found
      cases found

theorem node_of_locate {goal : Goal} (found : disk.locate goal path = .ok place) :
    disk.node goal path =
      match disk.tree.find? place with
      | some node => .ok node
      | none => .error .notFound := by
  rw [node, found]
  rfl

theorem node_eq_ok_iff (goal : Goal) (node : Node) :
    disk.node goal path = .ok node ↔
      ∃ place, disk.locate goal path = .ok place ∧ disk.tree.find? place = some node := by
  cases located : disk.locate goal path with
  | error fault =>
      rw [Disk.node, located]
      constructor
      · intro found
        cases found
      · rintro ⟨place, found, -⟩
        cases found
  | ok place =>
      rw [node_of_locate located]
      cases held : disk.tree.find? place <;> simp [held]

theorem Reaches.locate (reaches : disk.Reaches path place) (sound : path.Sound) :
    disk.locate .target path = .ok place := by
  obtain ⟨left, leads⟩ := reaches
  obtain ⟨marks, steps, each⟩ := path.exists_marks
  have onward : Goal.target.Onward marks := .inl rfl
  have walked := leads.walk_append onward
  rw [walk_marks _ _ _ _ leads.finish each, ← steps] at walked
  rw [locate_of_sound _ sound]
  exact walked

theorem reaches_of_locate (found : disk.locate .target path = .ok place)
    (directory : disk.tree.body? place = some .directory) : disk.Reaches path place := by
  obtain ⟨marks, steps, each⟩ := path.exists_marks
  have walked := found
  rw [locate_of_sound _ (sound_of_locate found), Disk.walk, steps] at walked
  obtain ⟨left, middle, leads⟩ := leads_of_walk_append walked (.inr ⟨rfl, directory⟩)
  -- The names lead to the same place as the whole way, since the marks lead nowhere else.
  have onward : Goal.target.Onward marks := .inl rfl
  have again := leads.walk_append onward
  rw [walk_marks _ _ _ _ leads.finish each, walked] at again
  cases again
  exact ⟨left, leads⟩

theorem isDirectory_iff (disk : Disk) (path : Path) :
    disk.isDirectory path = true ↔ path.Sound ∧ ∃ place, disk.Reaches path place := by
  constructor
  · intro directory
    cases found : disk.node .target path with
    | error fault => simp [isDirectory, found, Except.toOption] at directory
    | ok node =>
        obtain ⟨place, located, held⟩ := (node_eq_ok_iff _ _).1 found
        simp only [isDirectory, found, Except.toOption, Option.map_some, Option.getD_some,
          NodeBody.isDirectory_iff] at directory
        exact ⟨sound_of_locate located, place,
          reaches_of_locate located (by simp [FileTree.body?, held, directory])⟩
  · rintro ⟨sound, place, reaches⟩
    obtain ⟨node, held, body⟩ := Option.map_eq_some_iff.1 reaches.directory
    have found := (node_eq_ok_iff .target node).2 ⟨place, reaches.locate sound, held⟩
    simp [isDirectory, found, Except.toOption, body, NodeBody.isDirectory]

section Join

variable {name : String} (plain : IsName name)

include plain

theorem startOf_join (disk : Disk) (base : Path) :
    disk.startOf (base.join name) = disk.startOf base := by
  rw [startOf, startOf, Path.isAbsolute_join base plain]

theorem Reaches.join (reaches : disk.Reaches path place)
    (short : name.utf8ByteSize ≤ Path.maxNameLength)
    (found : disk.tree.body? (name :: place) = some .directory) :
    disk.Reaches (path.join name) (name :: place) := by
  obtain ⟨left, leads⟩ := reaches
  refine ⟨left, ?_⟩
  rw [Path.names_join path plain, startOf_join plain]
  exact leads.append (.down leads.finish (plain.descends short) found (.here found))

theorem Reaches.locate_join (reaches : disk.Reaches path place)
    (short : name.utf8ByteSize ≤ Path.maxNameLength) (sound : (path.join name).Sound)
    (goal : Goal)
    (arrives : goal = .entry ∨
      ∀ target, disk.tree.body? (name :: place) ≠ some (.link target)) :
    disk.locate goal (path.join name) = .ok (name :: place) := by
  obtain ⟨left, leads⟩ := reaches
  rw [locate_of_sound _ sound, Path.steps_join path plain, startOf_join plain, Disk.walk,
    leads.walk_append (plain.onward goal)]
  exact walk_name _ _ _ leads.finish (plain.descends short) arrives

theorem reaches_of_locate_join {goal : Goal} {location : Location}
    (found : disk.locate goal (path.join name) = .ok location) :
    ∃ parent, disk.Reaches path parent := by
  rw [locate_of_sound _ (sound_of_locate found), Path.steps_join path plain, startOf_join plain,
    Disk.walk] at found
  obtain ⟨left, parent, leads⟩ := leads_of_walk_append found (.inl (by simp))
  exact ⟨parent, left, leads⟩

end Join

end Disk

end PackageAssay

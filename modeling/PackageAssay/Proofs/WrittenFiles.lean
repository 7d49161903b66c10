import PackageAssay.Proofs.EntryFiles

set_option autoImplicit false

namespace PackageAssay

namespace FileTree

theorem directory_tail {tree : FileTree} {place : Location} {body : NodeBody}
    (found : tree.body? place = some body) : tree.body? place.tail = some .directory := by
  cases place with
  | nil => exact (tree.holdsDirectory_iff []).1 tree.rooted
  | cons name parent => exact directory_of_child found

theorem directory_of_below {tree : FileTree} {more place : Location} {body : NodeBody}
    (some : more ≠ []) (found : tree.body? (more ++ place) = .some body) :
    tree.body? place = .some .directory := by
  induction more generalizing body with
  | nil => exact absurd rfl some
  | cons name rest ih =>
      have above := directory_of_child found
      by_cases only : rest = []
      · subst only
        exact above
      · exact ih only above

theorem stands_above {tree : FileTree} {place last : Location} {body : NodeBody}
    (leads : place <:+ last) (stands : tree.body? last = some body) :
    place = last ∨ tree.body? place = some .directory := by
  obtain ⟨more, rfl⟩ := leads
  by_cases none : more = []
  · exact .inl (by rw [none, List.nil_append])
  · exact .inr (directory_of_below none stands)

theorem directory_linkStart {tree : FileTree} {place : Location}
    (directory : tree.body? place = some .directory) (target : String) :
    tree.body? (linkStart target place) = some .directory := by
  unfold linkStart
  split
  · exact (tree.holdsDirectory_iff []).1 tree.rooted
  · exact directory

end FileTree

theorem descends_of_walk_single {tree : FileTree} {goal : Goal} {links : Nat} {name : String}
    {place : Location} (directory : tree.body? place = some .directory)
    (done : walk tree goal links [name] place = .ok (name :: place)) : Descends name := by
  have notMark : ¬ (name = Path.dotMark ∨ name = Path.slashMark) := by
    intro mark
    rw [walk_mark _ _ _ _ directory mark, walk_nil] at done
    have lengths := congrArg List.length (Except.ok.inj done)
    simp at lengths
  have notDots : name ≠ ".." := by
    intro dots
    subst dots
    rw [walk_up _ _ _ _ directory, walk_nil] at done
    have lengths := congrArg List.length (Except.ok.inj done)
    simp at lengths
  exact (descends_of_walk_cons _ _ _ _ directory notMark notDots done).1

theorem not_link_of_walk {tree : FileTree} {goal : Goal} {links : Nat} {names : List String}
    {place last : Location} (follows : goal ≠ .entry)
    (solid : ∀ target, tree.body? place ≠ some (.link target))
    (done : walk tree goal links names place = .ok last) :
    ∀ target, tree.body? last ≠ some (.link target) := by
  -- A link costs one of the links, every other name leaves fewer names.
  induction links using Nat.strongRecOn generalizing names place with
  | _ links fewerLinks =>
    induction names generalizing place with
    | nil =>
        rw [walk_nil] at done
        cases done
        exact solid
    | cons name rest ih =>
        have directory := directory_of_walk_cons _ _ _ _ done
        cases firstStep_of_walk_cons _ _ _ _ done with
        | mark mark later => exact ih solid later
        | up dots later =>
            refine ih ?_ later
            rw [FileTree.directory_tail directory]
            simp
        | absent missing only ends =>
            rw [ends, missing]
            simp
        | stay only entry => exact absurd entry follows
        | enter body descends found noLink later =>
            refine ih ?_ later
            intro target wrong
            rw [found] at wrong
            cases wrong
            cases noLink
        | follow target fewer descends found one later =>
            refine fewerLinks fewer (by omega) ?_ later
            rw [FileTree.directory_linkStart directory]
            simp

theorem walk_of_walk_place {tree later : FileTree} {goal : Goal} (follows : goal ≠ .entry)
    {links : Nat} {names : List String} {place last : Location} {content : Content}
    (free : ∀ body, tree.body? last = some body → body.isFile = true)
    (written : later.body? last = some (.file content))
    (others : ∀ key, key ≠ last → later.body? key = tree.body? key)
    (done : walk tree .place links names place = .ok last) :
    walk later goal links names place = .ok last := by
  -- The way leads through directories and links, and none of them stands at its end.
  have stays {key : Location} {body : NodeBody} (found : tree.body? key = some body)
      (other : body.isFile = false) : later.body? key = some body := by
    refine (others key ?_).trans found
    intro same
    rw [same] at found
    rw [free body found] at other
    cases other
  induction links using Nat.strongRecOn generalizing names place with
  | _ links fewerLinks =>
    induction names generalizing place with
    | nil =>
        rw [walk_nil] at done ⊢
        exact done
    | cons name rest ih =>
        have before := directory_of_walk_cons _ _ _ _ done
        have directory := stays before rfl
        cases firstStep_of_walk_cons _ _ _ _ done with
        | mark mark after =>
            rw [walk_mark _ _ _ _ directory mark]
            exact ih after
        | up dots after =>
            subst dots
            rw [walk_up _ _ _ _ directory]
            exact ih after
        | absent missing only ends =>
            subst only ends
            have descends := descends_of_walk_single before done
            rw [walk_descend _ _ _ _ directory descends (by simp), written]
            exact walk_nil later goal links _
        | stay only entry => cases entry
        | enter body descends found noLink after =>
            have arrives := ih after
            have allowed := (descends_of_walk_cons _ _ _ _ before descends.notMark
              descends.notDots done).2
            have onward : ¬(goal = .place ∧ rest = [Path.slashMark]) :=
              fun refused => allowed ⟨rfl, refused.2⟩
            by_cases here : name :: place = last
            · rw [walk_descend _ _ _ _ directory descends onward, here, written]
              rwa [here] at arrives
            · rw [walk_descend _ _ _ _ directory descends onward, others _ here, found]
              cases body with
              | directory => exact arrives
              | file held => exact arrives
              | link target => cases noLink
        | follow target fewer descends found one after =>
            have arrives := fewerLinks fewer (by omega) after
            have allowed := (descends_of_walk_cons _ _ _ _ before descends.notMark
              descends.notDots done).2
            subst one
            rw [walk_descend _ _ _ _ directory descends (fun refused => allowed ⟨rfl, refused.2⟩),
              stays found rfl]
            simpa [follows] using arrives

namespace Disk

variable {disk later : Disk} {path : Path} {content : Content}

theorem written_of_writeFile (done : Operation.writeFile path content disk = .ok () later) :
    ∃ location, disk.locate .place path = .ok location ∧
      disk.tree.body? location ≠ some .directory ∧
      later.workingDirectory = disk.workingDirectory ∧
      ∀ key, later.tree.body? key =
        if key = location then some (.file content) else disk.tree.body? key := by
  obtain ⟨changed, wrote, rfl⟩ := (Operation.change_eq_ok_iff _).1 done
  cases located : disk.locate .place path with
  | error fault =>
      rw [writeFile, located] at wrote
      cases wrote
  | ok location =>
      rw [writeFile, located] at wrote
      simp only [bind, Except.bind] at wrote
      cases held : disk.tree.find? location with
      | none =>
          simp only [FileTree.body?, held, Option.map_none] at wrote
          have step := (made_of_make wrote).tick
          exact ⟨location, rfl, by simp [FileTree.body?, held], step.workingDirectory, step.bodies⟩
      | some node =>
          simp only [FileTree.body?, held, Option.map_some] at wrote
          by_cases directory : node.body = .directory
          · simp only [directory] at wrote
            cases wrote
          · have same : changed = { disk with
                tree := disk.tree.setContent location content disk.now } := by
              cases body : node.body <;> simp_all [pure, Except.pure]
            subst same
            refine ⟨location, rfl, by simpa [FileTree.body?, held] using directory, rfl, ?_⟩
            intro key
            rw [tick, FileTree.body?, find?_setContent, FileTree.body?]
            split
            · next same =>
                have noDirectory : ¬ node.body.isDirectory = true := by
                  rwa [NodeBody.isDirectory_iff]
                simp [same, held, Node.withContent, noDirectory]
            · rfl

theorem locate_later_of_writeFile (done : Operation.writeFile path content disk = .ok () later)
    {location : Location} (located : disk.locate .place path = .ok location) {goal : Goal}
    (follows : goal ≠ .entry) : later.locate goal path = .ok location := by
  obtain ⟨found, again, noDirectory, workingDirectory, bodies⟩ := written_of_writeFile done
  cases located.symm.trans again
  have sound := sound_of_locate located
  have written : later.tree.body? location = some (.file content) := by rw [bodies, if_pos rfl]
  have start := startOf_congr workingDirectory path
  rw [locate_of_sound _ sound, walk] at located ⊢
  rw [start]
  cases steps : path.steps with
  | nil =>
      rw [steps, walk_nil] at located
      rwa [walk_nil]
  | cons name rest =>
      rw [steps] at located
      have directory := directory_of_walk_cons _ _ _ _ located
      have noLink := not_link_of_walk (by simp) (by simp [directory]) located
      -- A place to write to is found by following links, so whoever follows them gets there.
      refine walk_of_walk_place follows ?_ written ?_ located
      · intro body found
        cases body with
        | directory => exact absurd found noDirectory
        | file held => rfl
        | link target => exact absurd found (noLink target)
      · intro key other
        rw [bodies, if_neg other]

theorem locate_of_writeFile (done : Operation.writeFile path content disk = .ok () later) :
    ∃ location, later.locate .target path = .ok location ∧
      later.tree.body? location = some (.file content) := by
  obtain ⟨location, located, -, -, bodies⟩ := written_of_writeFile done
  exact ⟨location, locate_later_of_writeFile done located (by simp), by rw [bodies, if_pos rfl]⟩

theorem exists_writeFile {location : Location} {old : Content}
    (located : disk.locate .place path = .ok location)
    (held : disk.tree.body? location = some (.file old)) (content : Content) :
    ∃ later, Operation.writeFile path content disk = .ok () later := by
  refine ⟨_, (Operation.change_eq_ok_iff _).2
    ⟨{ disk with tree := disk.tree.setContent location content disk.now }, ?_, rfl⟩⟩
  rw [writeFile, located]
  simp only [bind, Except.bind, held]
  rfl

theorem node_of_writeFile (done : Operation.writeFile path content disk = .ok () later) :
    ∃ node, later.node .target path = .ok node ∧ node.body = .file content := by
  obtain ⟨location, located, written⟩ := locate_of_writeFile done
  obtain ⟨node, held, body⟩ := Option.map_eq_some_iff.1 written
  exact ⟨node, (node_eq_ok_iff _ _).2 ⟨location, located, held⟩, body⟩

theorem read_of_writeFile (done : Operation.writeFile path content disk = .ok () later) :
    later.read path = .ok content := by
  obtain ⟨node, found, body⟩ := node_of_writeFile done
  rw [read, found]
  simp only [bind, Except.bind, body]
  rfl

end Disk

end PackageAssay

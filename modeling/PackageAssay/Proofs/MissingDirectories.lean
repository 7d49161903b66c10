import PackageAssay.Proofs.WriteFrames

set_option autoImplicit false

namespace PackageAssay

theorem walk_of_absent {tree : FileTree} (goal : Goal) (links : Nat) (name : String)
    (rest : List String) {place : Location} (absent : tree.body? place = none) :
    walk tree goal links (name :: rest) place = .error .notFound := by
  cases links <;> simp [walk, walkNames, absent]

theorem walk_of_file {tree : FileTree} (goal : Goal) (links : Nat) (name : String)
    (rest : List String) {place : Location} {content : Content}
    (held : tree.body? place = some (.file content)) :
    walk tree goal links (name :: rest) place = .error .notDirectory := by
  cases links <;> simp [walk, walkNames, held]

theorem missing_of_walk_entry {tree : FileTree} (linkless : tree.Linkless) {links : Nat}
    {names : List String} {name : String} {place : Location}
    (walked : walk tree .entry links (names ++ [name]) place = .error .notFound)
    (unled : ¬∃ left last, Leads tree links names place left last) (marks : List String) :
    walk tree .target links (names ++ marks) place = .error .notFound ∨
      ∃ last, walk tree .target links (names ++ marks) place = .ok last ∧
        tree.body? last = none := by
  -- A walk to an entry and one to a target part only at the end of the names, and there the first
  -- one would have been led to a directory.
  induction names generalizing place with
  | nil =>
      cases held : tree.body? place with
      | none =>
          cases marks with
          | nil => exact .inr ⟨place, walk_nil _ _ _ _, held⟩
          | cons mark marks => exact .inl (walk_of_absent _ _ _ _ held)
      | some body =>
          cases body with
          | directory => exact absurd ⟨links, place, .here held⟩ unled
          | link target => exact absurd held (linkless _ _)
          | file content =>
              rw [List.nil_append, walk_of_file _ _ _ _ held] at walked
              cases walked
  | cons first rest ih =>
      cases held : tree.body? place with
      | none => exact .inl (walk_of_absent _ _ _ _ held)
      | some body =>
          cases body with
          | link target => exact absurd held (linkless _ _)
          | file content =>
              rw [List.cons_append, walk_of_file _ _ _ _ held] at walked
              cases walked
          | directory =>
              rw [List.cons_append] at walked ⊢
              by_cases mark : first = Path.dotMark ∨ first = Path.slashMark
              · rw [walk_mark _ _ _ _ held mark] at walked ⊢
                exact ih walked fun ⟨left, last, leads⟩ => unled ⟨left, last, .mark held mark leads⟩
              by_cases dots : first = ".."
              · subst dots
                rw [walk_up _ _ _ _ held] at walked ⊢
                exact ih walked fun ⟨left, last, leads⟩ => unled ⟨left, last, .up held leads⟩
              by_cases long : Path.maxNameLength < first.utf8ByteSize
              · rw [walk_longName _ _ _ _ held mark dots (by simp) long] at walked
                cases walked
              have descends : Descends first := ⟨mark, dots, Nat.not_lt.1 long⟩
              rw [walk_descend _ _ _ _ held descends (by simp)] at walked ⊢
              cases next : tree.body? (first :: place) with
              | none =>
                  by_cases only : rest ++ marks = []
                  · simp only [if_pos only]
                    exact .inr ⟨_, rfl, next⟩
                  · rw [if_neg only]
                    exact .inl rfl
              | some body =>
                  rw [next] at walked
                  have further
                      (leads : ∃ left last, Leads tree links rest (first :: place) left last) :
                      ∃ left last, Leads tree links (first :: rest) place left last := by
                    obtain ⟨left, last, leads⟩ := leads
                    exact ⟨left, last, .down held descends leads.start leads⟩
                  cases body with
                  | link target => exact absurd next (linkless _ _)
                  | directory => exact ih walked fun leads => unled (further leads)
                  | file content => exact ih walked fun leads => unled (further leads)

namespace Disk

variable {disk later : Disk} {base : Path} {name : String}

theorem walk_of_makeDirectoryAt {names : List String} {start : Location}
    (missing : disk.makeDirectoryAt names start = .error .notFound) :
    disk.walk .entry names start = .error .notFound := by
  cases walked : disk.walk .entry names start with
  | error fault =>
      rw [makeDirectoryAt_of_error walked] at missing
      cases missing
      rfl
  | ok location =>
      rw [makeDirectoryAt_of_walk walked] at missing
      split at missing
      · cases missing
      · rw [make] at missing
        split at missing <;> cases missing

theorem unled_of_makeDirectoryAt (plain : IsName name)
    (missing : disk.makeDirectoryAt (base.names ++ [name]) (disk.startOf base) = .error .notFound) :
    ¬∃ shelf, disk.Reaches base shelf := by
  rintro ⟨shelf, left, leads⟩
  exact makeDirectoryAt_ne_notFound plain leads missing

theorem node_of_makeDirectoryAt (linkless : disk.tree.Linkless) (plain : IsName name)
    (sound : base.Sound)
    (missing : disk.makeDirectoryAt (base.names ++ [name]) (disk.startOf base) = .error .notFound) :
    disk.node .target base = .error .notFound := by
  obtain ⟨marks, steps, -⟩ := base.exists_marks
  have walked := missing_of_walk_entry linkless (walk_of_makeDirectoryAt missing)
    (fun ⟨left, last, leads⟩ => unled_of_makeDirectoryAt plain missing ⟨last, left, leads⟩) marks
  have located : disk.locate .target base = _ := locate_of_sound .target sound
  rw [steps, walk] at located
  rw [← located] at walked
  rcases walked with missing | ⟨last, found, absent⟩
  · rw [node, missing]
    rfl
  · rw [FileTree.body?, Option.map_eq_none_iff] at absent
    rw [node_of_locate found, absent]

theorem empty_of_makeDirectoriesAt {middle : Disk} {start : Location} {parent : String}
    {before : List String} (plain : ∀ name ∈ parent :: before, IsName name)
    (unled : ¬∃ left place, Leads disk.tree maxLinks (before.reverse ++ [parent]) start left place)
    (done : Operation.makeDirectoriesAt start [] (parent :: before) disk = .ok () middle) :
    ∃ left shelf, Leads middle.tree maxLinks (before.reverse ++ [parent]) start left shelf ∧
      ∀ child, middle.tree.body? (child :: shelf) = none := by
  have later : ∀ name ∈ before, IsName name := fun name member => plain name (by simp [member])
  obtain ⟨prior, left, place, -, leads, descends, step, -⟩ :=
    madeBelow_of_makeDirectoriesAt (plain parent (by simp)) (.inr later) unled done
  have found : middle.tree.body? (parent :: place) = some .directory := by
    rw [step.bodies, if_pos rfl]
  have above := leads.mono step.keeps.bodies
  exact ⟨left, parent :: place, above.append (.down above.finish descends found (.here found)),
    step.empty⟩

theorem ensureDirectory_ne_error {middle : Disk} {error : Error} {names : List String}
    {start shelf : Location} {left : Nat} (plain : IsName name)
    (short : name.utf8ByteSize ≤ Path.maxNameLength)
    (leads : Leads disk.tree maxLinks names start left shelf)
    (vacant : disk.tree.body? (name :: shelf) = none) :
    Operation.ensureDirectory (names ++ [name]) start disk ≠ .error error middle := by
  obtain ⟨made, done⟩ := exists_make .directory vacant leads.finish
  have ensured := makeDirectoryAt_of_leads plain leads
  rw [if_neg (Nat.not_lt.2 short), vacant, done] at ensured
  simp [Operation.ensureDirectory, ensured]

theorem ensureDirectory_of_longName {names : List String} {start shelf : Location} {left : Nat}
    (plain : IsName name) (tooLong : Path.maxNameLength < name.utf8ByteSize)
    (leads : Leads disk.tree maxLinks names start left shelf) :
    Operation.ensureDirectory (names ++ [name]) start disk =
      .error (.file .nameTooLong) disk := by
  have missing : disk.isDirectoryAt (names ++ [name]) start = false := by
    rw [Bool.eq_false_iff]
    intro directory
    obtain ⟨_, _, further⟩ := isDirectoryAt_iff.1 directory
    obtain ⟨_, _, -, descends, -⟩ := further.exists_parent plain
    exact absurd descends.short (Nat.not_le.2 tooLong)
  have step := makeDirectoryAt_of_leads plain leads
  rw [if_pos tooLong] at step
  simp only [Operation.ensureDirectory, step, missing]
  rfl

/-- Unless a name leads back or is too long, missing directories are all made or none is. -/
theorem makeDirectoriesAt_error {start : Location} {parents : List String} {error : Error}
    (plain : ∀ name ∈ parents, IsName name)
    (short : ∀ name ∈ parents, name.utf8ByteSize ≤ Path.maxNameLength)
    (failed : Operation.makeDirectoriesAt start [] parents disk = .error error later) :
    later = disk := by
  -- From the last name to the first: those before a directory are made only where it is missing,
  -- and nothing is in the way of what is made in a new directory.
  induction parents generalizing error later with
  | nil => cases failed
  | cons name parents ih =>
      by_cases missing : disk.makeDirectoryAt (parents.reverse ++ [name]) start = .error .notFound
      · rw [makeDirectoriesAt_of_notFound missing] at failed
        simp only [bind, EStateM.bind] at failed
        cases before : Operation.makeDirectoriesAt start [] parents disk with
        | error fault middle =>
            rw [before] at failed
            cases failed
            exact ih (fun other member => plain other (by simp [member]))
              (fun other member => short other (by simp [member])) before
        | ok value middle =>
            rw [before] at failed
            cases parents with
            | nil =>
                cases before
                exact ensureDirectory_error failed
            | cons parent rest =>
                -- The directory before has just been made, so that nothing is in the way.
                rw [List.reverse_cons] at missing failed
                obtain ⟨left, shelf, leads, empty⟩ := empty_of_makeDirectoriesAt
                  (fun other member => plain other (List.mem_cons_of_mem name member))
                  (fun ⟨_, _, leads⟩ =>
                    makeDirectoryAt_ne_notFound (plain name (by simp)) leads missing) before
                exact absurd failed (ensureDirectory_ne_error (plain name (by simp))
                  (short name (by simp)) leads (empty name))
      · rw [makeDirectoriesAt_of_other missing] at failed
        exact ensureDirectory_error failed

theorem Prepared.same_or_empty {middle : Disk} (prepared : disk.Prepared base name middle)
    (linkless : disk.tree.Linkless) (plain : IsName name) (sound : base.Sound)
    (placed : disk.node .target base = .error .notFound →
      ∀ part ∈ base.names, part ≠ ".." ∧ part.utf8ByteSize ≤ Path.maxNameLength) :
    middle = disk ∨ disk.node .target base = .error .notFound ∧
      ∃ shelf, middle.Reaches base shelf ∧ ∀ child, middle.tree.body? (child :: shelf) = none := by
  have start := (prepared.grows linkless).keeps.startOf base
  rcases prepared with same | ⟨missing, prepared⟩
  · exact .inl same
  have absent := node_of_makeDirectoryAt linkless plain sound missing
  have unled := unled_of_makeDirectoryAt plain missing
  have parts := placed absent
  have forward : base.Forward := ⟨sound.2.1, fun dots => (parts ".." dots).1 rfl⟩
  have plainParts : ∀ part ∈ base.names.reverse, IsName part :=
    fun part member => forward.isName part (List.mem_reverse.1 member)
  -- A failure has made nothing, and otherwise the last directory is new.
  cases made : Operation.makeDirectoriesAt (disk.startOf base) [] base.names.reverse disk with
  | error error left =>
      rw [Operation.leaves, made] at prepared
      rw [prepared]
      exact .inl (makeDirectoriesAt_error plainParts
        (fun part member => (parts part (List.mem_reverse.1 member)).2) made)
  | ok value left =>
      rw [Operation.leaves, made] at prepared
      cases prepared
      cases names : base.names.reverse with
      | nil =>
          rw [names] at made
          cases made
          exact .inl rfl
      | cons parent before =>
          rw [names] at made plainParts
          have whole : base.names = before.reverse ++ [parent] := by
            rw [← List.reverse_reverse base.names, names, List.reverse_cons]
          simp only [Reaches, whole] at unled
          obtain ⟨links, shelf, leads, empty⟩ := empty_of_makeDirectoriesAt plainParts
            (by rintro ⟨links, place, leads⟩; exact unled ⟨place, links, leads⟩) made
          refine .inr ⟨absent, shelf, ⟨links, ?_⟩, empty⟩
          rwa [whole, start]

end Disk

end PackageAssay

import PackageAssay.Files.Walk
import PackageAssay.Proofs.Paths

/-!
# Where walks lead

Names lead from one location to another when every one of them is found. The relation counts the
links on the way, so that a walk can be cut in two where a directory is met.
-/

set_option autoImplicit false

namespace PackageAssay

structure Descends (name : String) : Prop where
  notMark : ¬ (name = Path.dotMark ∨ name = Path.slashMark)
  notDots : name ≠ ".."
  short : name.utf8ByteSize ≤ Path.maxNameLength

theorem IsName.descends {name : String} (plain : IsName name)
    (short : name.utf8ByteSize ≤ Path.maxNameLength) : Descends name :=
  ⟨plain.notMark, plain.notDots, short⟩

def linkStart (target : String) (place : Location) : Location :=
  if (Path.mk target).isAbsolute then [] else place

/-- The names lead from a directory to a directory. The numbers are the links that may be followed
before and after the way. -/
inductive Leads (tree : FileTree) : Nat → List String → Location → Nat → Location → Prop where
  | here {links : Nat} {place : Location} (directory : tree.body? place = some .directory) :
      Leads tree links [] place links place
  | mark {links left : Nat} {name : String} {rest : List String} {place last : Location}
      (directory : tree.body? place = some .directory)
      (mark : name = Path.dotMark ∨ name = Path.slashMark)
      (later : Leads tree links rest place left last) :
      Leads tree links (name :: rest) place left last
  | up {links left : Nat} {rest : List String} {place last : Location}
      (directory : tree.body? place = some .directory)
      (later : Leads tree links rest place.tail left last) :
      Leads tree links (".." :: rest) place left last
  | down {links left : Nat} {name : String} {rest : List String} {place last : Location}
      (directory : tree.body? place = some .directory) (descends : Descends name)
      (found : tree.body? (name :: place) = some .directory)
      (later : Leads tree links rest (name :: place) left last) :
      Leads tree links (name :: rest) place left last
  | link {links left : Nat} {name target : String} {rest : List String} {place last : Location}
      (directory : tree.body? place = some .directory) (descends : Descends name)
      (found : tree.body? (name :: place) = some (.link target))
      (later : Leads tree links ((Path.mk target).steps ++ rest) (linkStart target place)
        left last) :
      Leads tree (links + 1) (name :: rest) place left last

section Steps

variable (tree : FileTree) (goal : Goal) (links : Nat) (rest : List String) {place : Location}
  {name : String} (directory : tree.body? place = some .directory)

theorem walk_nil (place : Location) : walk tree goal links [] place = .ok place := by
  cases links <;> rfl

include directory

theorem walk_mark (mark : name = Path.dotMark ∨ name = Path.slashMark) :
    walk tree goal links (name :: rest) place = walk tree goal links rest place := by
  cases links <;> simp [walk, walkNames, directory, mark]

theorem walk_up :
    walk tree goal links (".." :: rest) place = walk tree goal links rest place.tail := by
  have notMark : ¬ (".." = Path.dotMark ∨ ".." = Path.slashMark) := by decide
  cases links <;> simp [walk, walkNames, directory, notMark]

theorem walk_descend (descends : Descends name)
    (allowed : ¬ (goal = .place ∧ rest = [Path.slashMark])) :
    walk tree goal links (name :: rest) place =
      match tree.body? (name :: place) with
      | none => if rest = [] then .ok (name :: place) else .error .notFound
      | some (.link target) =>
          if rest = [] ∧ goal = .entry then .ok (name :: place)
          else match links with
            | 0 => .error .tooManyLinks
            | fewer + 1 =>
                walk tree goal fewer ((Path.mk target).steps ++ rest) (linkStart target place)
      | some _ => walk tree goal links rest (name :: place) := by
  have fits : ¬ Path.maxNameLength < name.utf8ByteSize := Nat.not_lt.2 descends.short
  cases found : tree.body? (name :: place) with
  | none =>
      cases links <;> simp [walk, walkNames, directory, descends.notMark, descends.notDots,
        allowed, fits, found]
  | some body =>
      cases body <;> cases links <;> simp [walk, walkNames, directory, descends.notMark,
        descends.notDots, allowed, fits, found, linkStart]

theorem walk_longName (notMark : ¬ (name = Path.dotMark ∨ name = Path.slashMark))
    (notDots : name ≠ "..") (allowed : ¬ (goal = .place ∧ rest = [Path.slashMark]))
    (long : Path.maxNameLength < name.utf8ByteSize) :
    walk tree goal links (name :: rest) place = .error .nameTooLong := by
  cases links <;> simp [walk, walkNames, directory, notMark, notDots, allowed, long]

theorem descends_of_walk_cons {last : Location}
    (notMark : ¬ (name = Path.dotMark ∨ name = Path.slashMark)) (notDots : name ≠ "..")
    (done : walk tree goal links (name :: rest) place = .ok last) :
    Descends name ∧ ¬ (goal = .place ∧ rest = [Path.slashMark]) := by
  have allowed : ¬ (goal = .place ∧ rest = [Path.slashMark]) := by
    intro refused
    cases links <;> simp [walk, walkNames, directory, notMark, notDots, refused] at done
  refine ⟨⟨notMark, notDots, Nat.le_of_not_lt fun long => ?_⟩, allowed⟩
  rw [walk_longName tree goal links rest directory notMark notDots allowed long] at done
  cases done

omit directory in
theorem directory_of_walk_cons {last : Location}
    (done : walk tree goal links (name :: rest) place = .ok last) :
    tree.body? place = some .directory := by
  cases links with
  | zero =>
      simp only [walk, walkNames] at done
      split at done
      · cases done
      · assumption
      · cases done
  | succ fewer =>
      simp only [walk, walkNames] at done
      split at done
      · cases done
      · assumption
      · cases done

inductive FirstStep (tree : FileTree) (goal : Goal) (links : Nat) (name : String)
    (rest : List String) (place last : Location) : Prop where
  | mark (mark : name = Path.dotMark ∨ name = Path.slashMark)
      (later : walk tree goal links rest place = .ok last)
  | up (dots : name = "..") (later : walk tree goal links rest place.tail = .ok last)
  | absent (missing : tree.body? (name :: place) = none) (only : rest = [])
      (ends : last = name :: place)
  | stay (only : rest = []) (entry : goal = .entry)
  | enter (body : NodeBody) (descends : Descends name)
      (found : tree.body? (name :: place) = some body) (noLink : body.isLink = false)
      (later : walk tree goal links rest (name :: place) = .ok last)
  | follow (target : String) (fewer : Nat) (descends : Descends name)
      (found : tree.body? (name :: place) = some (.link target)) (one : links = fewer + 1)
      (later : walk tree goal fewer ((Path.mk target).steps ++ rest) (linkStart target place) =
        .ok last)

omit directory in
theorem firstStep_of_walk_cons {last : Location}
    (done : walk tree goal links (name :: rest) place = .ok last) :
    FirstStep tree goal links name rest place last := by
  have directory := directory_of_walk_cons _ _ _ _ done
  -- Marks and `..` are recognized before anything is looked up.
  by_cases mark : name = Path.dotMark ∨ name = Path.slashMark
  · rw [walk_mark _ _ _ _ directory mark] at done
    exact .mark mark done
  by_cases dots : name = ".."
  · subst dots
    rw [walk_up _ _ _ _ directory] at done
    exact .up rfl done
  obtain ⟨descends, allowed⟩ := descends_of_walk_cons _ _ _ _ directory mark dots done
  rw [walk_descend _ _ _ _ directory descends allowed] at done
  cases found : tree.body? (name :: place) with
  | none =>
      simp only [found] at done
      split at done
      · next only =>
          cases done
          exact .absent found only rfl
      · cases done
  | some body =>
      cases body with
      | directory => exact .enter .directory descends found rfl (by simpa only [found] using done)
      | file content =>
          exact .enter (.file content) descends found rfl (by simpa only [found] using done)
      | link target =>
          simp only [found] at done
          split at done
          · next stopped => exact .stay stopped.1 stopped.2
          · cases links with
            | zero => cases done
            | succ fewer => exact .follow target fewer descends found rfl done

end Steps

/-- The names behind a way let a walk get to the end of the way: it does not stop at a link there,
nor refuse a directory. -/
def Goal.Onward (goal : Goal) (more : List String) : Prop :=
  goal = .target ∨ more ≠ [] ∧ more ≠ [Path.slashMark]

theorem IsName.onward {name : String} (plain : IsName name) (goal : Goal) :
    goal.Onward [name] := by
  refine .inr ⟨by simp, ?_⟩
  intro same
  exact plain.notMark (.inr (List.singleton_inj.1 same))

theorem Goal.Onward.not_place {goal : Goal} {more : List String} (onward : goal.Onward more)
    (rest : List String) : ¬ (goal = .place ∧ rest ++ more = [Path.slashMark]) := by
  rintro ⟨rfl, mark⟩
  rcases onward with other | ⟨some, other⟩
  · contradiction
  · rcases List.append_eq_singleton_iff.1 mark with ⟨-, same⟩ | ⟨-, none⟩
    · exact other same
    · exact some none

theorem Goal.Onward.not_entry {goal : Goal} {more : List String} (onward : goal.Onward more)
    (rest : List String) : ¬ (rest ++ more = [] ∧ goal = .entry) := by
  rintro ⟨none, rfl⟩
  rcases onward with other | ⟨some, -⟩
  · contradiction
  · exact some (List.append_eq_nil_iff.1 none).2

namespace Leads

variable {tree : FileTree} {links left : Nat} {names : List String} {place last : Location}

theorem start (leads : Leads tree links names place left last) :
    tree.body? place = some .directory := by
  cases leads <;> assumption

theorem finish (leads : Leads tree links names place left last) :
    tree.body? last = some .directory := by
  induction leads with
  | here directory => exact directory
  | mark _ _ _ ih => exact ih
  | up _ _ ih => exact ih
  | down _ _ _ _ ih => exact ih
  | link _ _ _ _ ih => exact ih

theorem append {names' : List String} {left' : Nat} {last' : Location}
    (leads : Leads tree links names place left last)
    (more : Leads tree left names' last left' last') :
    Leads tree links (names ++ names') place left' last' := by
  induction leads with
  | here _ => exact more
  | mark directory mark _ ih => exact .mark directory mark (ih more)
  | up directory _ ih => exact .up directory (ih more)
  | down directory descends found _ ih => exact .down directory descends found (ih more)
  | link directory descends found _ ih =>
      -- The target of the link stands before the names that are left.
      have further := ih more
      rw [List.append_assoc] at further
      exact .link directory descends found further

theorem mono {later : FileTree}
    (keeps : ∀ (location : Location) (body : NodeBody), tree.body? location = some body →
      body.isFile = false → later.body? location = some body)
    (leads : Leads tree links names place left last) :
    Leads later links names place left last := by
  induction leads with
  | here directory => exact .here (keeps _ _ directory rfl)
  | mark directory mark _ ih => exact .mark (keeps _ _ directory rfl) mark ih
  | up directory _ ih => exact .up (keeps _ _ directory rfl) ih
  | down directory descends found _ ih =>
      exact .down (keeps _ _ directory rfl) descends (keeps _ _ found rfl) ih
  | link directory descends found _ ih =>
      exact .link (keeps _ _ directory rfl) descends (keeps _ _ found rfl) ih

theorem walk_append (leads : Leads tree links names place left last) {goal : Goal}
    {more : List String} (onward : goal.Onward more) :
    walk tree goal links (names ++ more) place = walk tree goal left more last := by
  induction leads with
  | here _ => rfl
  | mark directory mark _ ih => rw [List.cons_append, walk_mark _ _ _ _ directory mark, ih]
  | up directory _ ih => rw [List.cons_append, walk_up _ _ _ _ directory, ih]
  | down directory descends found _ ih =>
      rw [List.cons_append, walk_descend _ _ _ _ directory descends (onward.not_place _), found]
      exact ih
  | @link _ _ _ _ rest _ _ directory descends found _ ih =>
      rw [List.cons_append, walk_descend _ _ _ _ directory descends (onward.not_place _), found]
      simp only [onward.not_entry rest, if_false]
      rw [← List.append_assoc]
      exact ih

theorem walk_target (leads : Leads tree links names place left last) :
    walk tree .target links names place = .ok last := by
  have onward : Goal.target.Onward [] := .inl rfl
  have whole := leads.walk_append onward
  rwa [List.append_nil, walk_nil] at whole

theorem last_unique {left' : Nat} {last' : Location}
    (leads : Leads tree links names place left last)
    (other : Leads tree links names place left' last') : last = last' := by
  have same := leads.walk_target.symm.trans other.walk_target
  exact Except.ok.inj same

end Leads

theorem leads_of_walk_append {tree : FileTree} {goal : Goal} {links : Nat}
    {names more : List String} {place last : Location}
    (done : walk tree goal links (names ++ more) place = .ok last)
    (passed : more ≠ [] ∨ goal = .target ∧ tree.body? last = some .directory) :
    ∃ left middle, Leads tree links names place left middle := by
  -- A link costs one of the links, every other name leaves fewer names.
  induction links using Nat.strongRecOn generalizing names place with
  | _ links fewerLinks =>
    induction names generalizing place with
    | nil =>
        refine ⟨links, place, .here ?_⟩
        cases more with
        | nil =>
            rw [List.append_nil, walk_nil] at done
            cases done
            exact (passed.resolve_left (by simp)).2
        | cons name rest => exact directory_of_walk_cons _ _ _ _ done
    | cons name rest ih =>
        have directory := directory_of_walk_cons _ _ _ _ done
        cases firstStep_of_walk_cons _ _ _ _ done with
        | mark mark later =>
            obtain ⟨left, middle, leads⟩ := ih later
            exact ⟨left, middle, .mark directory mark leads⟩
        | up dots later =>
            obtain ⟨left, middle, leads⟩ := ih later
            subst dots
            exact ⟨left, middle, .up directory leads⟩
        -- A walk that stops at the first name has no directory behind it.
        | absent missing only ends =>
            have bare := (List.append_eq_nil_iff.1 only).2
            simp [bare, ends, missing] at passed
        | stay only entry =>
            have bare := (List.append_eq_nil_iff.1 only).2
            simp [bare, entry] at passed
        | enter body descends found noLink later =>
            obtain ⟨left, middle, leads⟩ := ih later
            -- What the walk goes on from is a directory, whatever body was found.
            have inside := leads.start
            exact ⟨left, middle, .down directory descends inside leads⟩
        | follow target fewer descends found one later =>
            have regrouped := later
            rw [List.append_eq, ← List.append_assoc] at regrouped
            obtain ⟨left, middle, leads⟩ := fewerLinks fewer (by omega) regrouped
            subst one
            exact ⟨left, middle, .link directory descends found leads⟩

theorem Leads.exists_parent {tree : FileTree} {links left : Nat} {names : List String}
    {name : String} {place last : Location} (plain : IsName name)
    (leads : Leads tree links (names ++ [name]) place left last) :
    ∃ left' parent, Leads tree links names place left' parent ∧ Descends name ∧
      tree.body? (name :: parent) ≠ none := by
  have walked := leads.walk_target
  -- The walk is cut before the last name, and nothing but that name is left of it.
  obtain ⟨left', parent, before⟩ := leads_of_walk_append walked (.inl (by simp))
  refine ⟨left', parent, before, ?_⟩
  rw [before.walk_append (plain.onward .target)] at walked
  obtain ⟨descends, -⟩ :=
    descends_of_walk_cons _ _ _ _ before.finish plain.notMark plain.notDots walked
  refine ⟨descends, ?_⟩
  intro missing
  rw [walk_descend _ _ _ _ before.finish descends (by simp), missing] at walked
  cases walked
  exact absurd leads.finish (by simp [missing])

end PackageAssay

/-!
# Maps keyed by names

The entries of a map stand in strictly increasing byte order of their names, so two maps with the
same contents are equal.
-/

set_option autoImplicit false

namespace PackageAssay

universe u

def insertEntry {α : Type u} (name : String) (value : α) :
    List (String × α) → List (String × α)
  | [] => [(name, value)]
  | (key, held) :: rest =>
      if name < key then (name, value) :: (key, held) :: rest
      else if name = key then (name, value) :: rest
      else (key, held) :: insertEntry name value rest

theorem fst_mem_insertEntry {α : Type u} (name : String) (value : α)
    (entries : List (String × α)) (key : String) :
    key ∈ (insertEntry name value entries).map Prod.fst ↔
      key = name ∨ key ∈ entries.map Prod.fst := by
  induction entries with
  | nil => simp [insertEntry]
  | cons entry rest ih =>
      obtain ⟨held, value'⟩ := entry
      simp only [insertEntry]
      split
      · simp
      · split
        · next same => subst same; simp
        · rw [List.map_cons, List.mem_cons, ih]
          simp only [List.map_cons, List.mem_cons]
          exact or_left_comm

theorem pairwise_insertEntry {α : Type u} (name : String) (value : α)
    (entries : List (String × α)) (ordered : (entries.map Prod.fst).Pairwise (· < ·)) :
    ((insertEntry name value entries).map Prod.fst).Pairwise (· < ·) := by
  induction entries with
  | nil => simp [insertEntry]
  | cons entry rest ih =>
      obtain ⟨held, value'⟩ := entry
      rw [List.map_cons, List.pairwise_cons] at ordered
      simp only [insertEntry]
      split
      · next below =>
          refine List.pairwise_cons.2 ⟨?_, List.pairwise_cons.2 ordered⟩
          intro key member
          rcases List.mem_cons.1 member with rfl | later
          · exact below
          · exact String.lt_trans below (ordered.1 key later)
      · next notBelow =>
          split
          · next same => subst same; exact List.pairwise_cons.2 ordered
          · next different =>
              refine List.pairwise_cons.2 ⟨?_, ih ordered.2⟩
              intro key member
              rcases (fst_mem_insertEntry name value rest key).1 member with rfl | later
              · exact Std.lt_of_le_of_ne (Std.not_lt.1 notBelow) (Ne.symm different)
              · exact ordered.1 key later

structure NameMap (α : Type u) where
  entries : List (String × α)
  ordered : (entries.map Prod.fst).Pairwise (· < ·)

namespace NameMap

variable {α : Type u}

instance [DecidableEq α] : DecidableEq (NameMap α) := fun left right =>
  match decEq left.entries right.entries with
  | .isTrue same => .isTrue (by cases left; cases right; cases same; rfl)
  | .isFalse different => .isFalse fun same => different (congrArg entries same)

def empty : NameMap α := ⟨[], .nil⟩

instance : Inhabited (NameMap α) := ⟨empty⟩

def names (map : NameMap α) : List String :=
  map.entries.map Prod.fst

def find? (map : NameMap α) (name : String) : Option α :=
  map.entries.lookup name

def insert (map : NameMap α) (name : String) (value : α) : NameMap α :=
  ⟨insertEntry name value map.entries, pairwise_insertEntry name value map.entries map.ordered⟩

def ofList (bindings : List (String × α)) : NameMap α :=
  bindings.foldl (fun map binding => map.insert binding.1 binding.2) empty

end NameMap

def sortedByName {α : Type u} (bindings : List (String × α)) : List (String × α) :=
  (NameMap.ofList bindings).entries

def sortedNames (names : List String) : List String :=
  (sortedByName (names.map fun name => (name, ()))).map Prod.fst

end PackageAssay

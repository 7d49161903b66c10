import Mathlib.Data.List.Sort
import PackageAssay.NameMap

set_option autoImplicit false

namespace PackageAssay

universe u

theorem lookup_entry {κ : Type} {α : Type u} [DecidableEq κ] (name key : κ) (value : α)
    (rest : List (κ × α)) :
    ((name, value) :: rest).lookup key = if key = name then some value else rest.lookup key := by
  by_cases same : key = name
  · simp [same]
  · simp [List.lookup_cons, same, beq_false_of_ne same]

theorem mem_of_lookup_eq_some {κ α : Type} [BEq κ] [LawfulBEq κ] {entries : List (κ × α)}
    {key : κ} {value : α} (found : entries.lookup key = some value) : (key, value) ∈ entries := by
  obtain ⟨before, after, rfl, -⟩ := List.lookup_eq_some_iff.1 found
  simp

theorem lookup_eq_none_iff_notMem {κ : Type} {α : Type u} [BEq κ] [LawfulBEq κ]
    {entries : List (κ × α)} {key : κ} :
    entries.lookup key = none ↔ key ∉ entries.map Prod.fst := by
  rw [List.lookup_eq_none_iff, List.mem_map]
  constructor
  · rintro absent ⟨entry, held, rfl⟩
    exact absurd (absent entry held) (by simp)
  · intro absent entry held
    rw [bne_iff_ne]
    rintro rfl
    exact absent ⟨entry, held, rfl⟩

theorem lookup_insertEntry {α : Type u} (name key : String) (value : α)
    (entries : List (String × α)) :
    (insertEntry name value entries).lookup key =
      if key = name then some value else entries.lookup key := by
  induction entries with
  | nil => simp only [insertEntry, lookup_entry]
  | cons entry rest ih =>
      obtain ⟨held, old⟩ := entry
      simp only [insertEntry]
      -- The entry goes before a greater name, in the place of the same name, or farther back.
      split
      · simp only [lookup_entry]
      · split
        · next same =>
            subst same
            by_cases here : key = name <;> simp only [lookup_entry, here, if_true, if_false]
        · next different =>
            simp only [lookup_entry, ih]
            by_cases here : key = held
            · simp only [here, if_true, if_neg (Ne.symm different)]
            · simp only [here, if_false]

theorem insertEntry_of_greater {α : Type u} (name : String) (value : α)
    (entries : List (String × α)) (below : ∀ key ∈ entries.map Prod.fst, key < name) :
    insertEntry name value entries = entries ++ [(name, value)] := by
  induction entries with
  | nil => rfl
  | cons entry rest ih =>
      obtain ⟨key, held⟩ := entry
      have less : key < name := below key List.mem_cons_self
      have notAbove : ¬name < key := fun above =>
        Std.lt_irrefl (String.lt_trans less above)
      have different : name ≠ key := fun same => Std.lt_irrefl (same ▸ less)
      rw [insertEntry, if_neg notAbove, if_neg different,
        ih fun other member => below other (List.mem_cons_of_mem _ member)]
      rfl

namespace NameMap

variable {α : Type u}

theorem find?_insert (map : NameMap α) (name key : String) (value : α) :
    (map.insert name value).find? key = if key = name then some value else map.find? key :=
  lookup_insertEntry name key value map.entries

theorem mem_names_insert (map : NameMap α) (name key : String) (value : α) :
    key ∈ (map.insert name value).names ↔ key = name ∨ key ∈ map.names :=
  fst_mem_insertEntry name value map.entries key

theorem mem_names_foldl_insert (bindings : List (String × α)) (map : NameMap α) (key : String) :
    key ∈ (bindings.foldl (fun map binding => map.insert binding.1 binding.2) map).names ↔
      key ∈ map.names ∨ key ∈ bindings.map Prod.fst := by
  induction bindings generalizing map with
  | nil => simp
  | cons binding rest ih =>
      rw [List.foldl_cons, ih, mem_names_insert, List.map_cons, List.mem_cons]
      tauto

theorem mem_names_ofList (bindings : List (String × α)) (key : String) :
    key ∈ (ofList bindings).names ↔ key ∈ bindings.map Prod.fst := by
  rw [ofList, mem_names_foldl_insert]
  simp [names, empty]

theorem mem_of_find?_foldl_insert (bindings : List (String × α)) (map : NameMap α)
    {name : String} {value : α}
    (found : (bindings.foldl (fun map binding => map.insert binding.1 binding.2) map).find? name =
      some value) : (name, value) ∈ bindings ∨ map.find? name = some value := by
  induction bindings generalizing map with
  | nil => exact .inr found
  | cons binding rest ih =>
      rcases ih _ found with later | earlier
      · exact .inl (List.mem_cons_of_mem _ later)
      · rw [find?_insert] at earlier
        split at earlier
        · next same =>
            cases earlier
            exact .inl (by simp [same])
        · exact .inr earlier

theorem mem_of_find?_ofList {bindings : List (String × α)} {name : String} {value : α}
    (found : (ofList bindings).find? name = some value) : (name, value) ∈ bindings := by
  rcases mem_of_find?_foldl_insert bindings empty found with member | absent
  · exact member
  · cases absent

theorem find?_of_mem_entries {map : NameMap α} {name : String} {value : α}
    (member : (name, value) ∈ map.entries) : map.find? name = some value := by
  obtain ⟨entries, ordered⟩ := map
  rw [find?]
  induction entries with
  | nil => cases member
  | cons entry rest ih =>
      rw [List.map_cons, List.pairwise_cons] at ordered
      rw [lookup_entry]
      rcases List.mem_cons.1 member with rfl | later
      · simp
      · have before := ordered.1 name (List.mem_map_of_mem later)
        rw [if_neg fun same => Std.lt_irrefl (same ▸ before)]
        exact ih ordered.2 later

theorem mem_names_iff (map : NameMap α) (name : String) :
    name ∈ map.names ↔ ∃ value, map.find? name = some value := by
  rw [← Option.ne_none_iff_exists', find?, Ne, lookup_eq_none_iff_notMem, not_not]
  rfl

theorem exists_find?_ofList {bindings : List (String × α)} {name : String}
    (member : name ∈ bindings.map Prod.fst) :
    ∃ value, (ofList bindings).find? name = some value :=
  (mem_names_iff _ name).1 ((mem_names_ofList bindings name).2 member)

theorem entries_foldl_insert (bindings : List (String × α)) (map : NameMap α)
    (ordered : ((map.entries ++ bindings).map Prod.fst).Pairwise (· < ·)) :
    (bindings.foldl (fun map binding => map.insert binding.1 binding.2) map).entries =
      map.entries ++ bindings := by
  induction bindings generalizing map with
  | nil => simp
  | cons binding rest ih =>
      have below : ∀ key ∈ map.entries.map Prod.fst, key < binding.1 := by
        intro key member
        rw [List.map_append, List.pairwise_append] at ordered
        exact ordered.2.2 key member binding.1 List.mem_cons_self
      have added : (map.insert binding.1 binding.2).entries = map.entries ++ [binding] :=
        insertEntry_of_greater binding.1 binding.2 map.entries below
      rw [List.foldl_cons, ih _ (by rwa [added, List.append_assoc]), added, List.append_assoc]
      rfl

theorem ofList_entries (map : NameMap α) : ofList map.entries = map := by
  have same : (ofList map.entries).entries = map.entries :=
    entries_foldl_insert map.entries empty map.ordered
  obtain ⟨entries, ordered⟩ := map
  cases built : ofList entries with
  | mk others othersOrdered =>
      rw [built] at same
      cases same
      rfl

end NameMap

section Sorting

variable {α : Type u} (bindings : List (String × α))

theorem mem_names_sortedByName (name : String) :
    name ∈ (sortedByName bindings).map Prod.fst ↔ name ∈ bindings.map Prod.fst :=
  NameMap.mem_names_ofList bindings name

theorem pairwise_names_sortedByName :
    ((sortedByName bindings).map Prod.fst).Pairwise (· < ·) :=
  (NameMap.ofList bindings).ordered

theorem pairwise_sortedByName :
    (sortedByName bindings).Pairwise fun binding next => binding.1 < next.1 :=
  List.pairwise_map.1 (pairwise_names_sortedByName bindings)

variable {bindings}

theorem mem_of_mem_sortedByName {binding : String × α} (member : binding ∈ sortedByName bindings) :
    binding ∈ bindings :=
  NameMap.mem_of_find?_ofList (NameMap.find?_of_mem_entries member)

theorem mem_sortedByName (single : ∀ name value other, (name, value) ∈ bindings →
      (name, other) ∈ bindings → value = other) (binding : String × α) :
    binding ∈ sortedByName bindings ↔ binding ∈ bindings := by
  refine ⟨mem_of_mem_sortedByName, fun member => ?_⟩
  obtain ⟨⟨name, other⟩, held, same⟩ := List.mem_map.1
    ((mem_names_sortedByName bindings binding.1).2 (List.mem_map_of_mem member))
  cases same
  cases single _ _ _ (mem_of_mem_sortedByName held) member
  exact held

theorem sortedByName_congr {others : List (String × α)}
    (single : ∀ name value other, (name, value) ∈ bindings → (name, other) ∈ bindings →
      value = other)
    (same : ∀ binding, binding ∈ others ↔ binding ∈ bindings) :
    sortedByName others = sortedByName bindings := by
  have singleOthers : ∀ name value other, (name, value) ∈ others → (name, other) ∈ others →
      value = other := fun name value other here there =>
    single name value other ((same _).1 here) ((same _).1 there)
  have strict : Std.Antisymm fun binding next : String × α => binding.1 < next.1 :=
    ⟨fun _ _ before after => absurd (String.lt_trans before after) Std.lt_irrefl⟩
  have irreflexive : Std.Irrefl fun binding next : String × α => binding.1 < next.1 :=
    ⟨fun _ => Std.lt_irrefl⟩
  refine (pairwise_sortedByName others).eq_of_mem_iff (pairwise_sortedByName bindings) ?_
  intro binding
  rw [mem_sortedByName single, mem_sortedByName singleOthers, same]

end Sorting

theorem mem_sortedNames (names : List String) (name : String) :
    name ∈ sortedNames names ↔ name ∈ names := by
  rw [sortedNames, mem_names_sortedByName]
  simp

theorem pairwise_sortedNames (names : List String) : (sortedNames names).Pairwise (· < ·) :=
  pairwise_names_sortedByName _

theorem sortedNames_congr {names others : List String}
    (same : ∀ name, name ∈ names ↔ name ∈ others) : sortedNames names = sortedNames others :=
  (pairwise_sortedNames names).eq_of_mem_iff (pairwise_sortedNames others) fun name => by
    rw [mem_sortedNames, mem_sortedNames, same]

end PackageAssay

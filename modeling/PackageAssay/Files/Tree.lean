import PackageAssay.Files.Content
import PackageAssay.Files.Times

/-!
# File trees

A file tree maps locations to nodes. The root and the parent of every node are directories, and
no location holds two nodes; the three ways to change a tree keep it so.
-/

set_option autoImplicit false

namespace PackageAssay

/-- The names on the way from the root to a file, the innermost first. -/
abbrev Location := List String

inductive NodeBody where
  | directory
  | file (content : Content)
  | link (target : String)
deriving DecidableEq

namespace NodeBody

def isDirectory : NodeBody → Bool
  | .directory => true
  | _ => false

def isFile : NodeBody → Bool
  | .file _ => true
  | _ => false

def isLink : NodeBody → Bool
  | .link _ => true
  | _ => false

end NodeBody

structure Node where
  body : NodeBody
  times : FileTimes
deriving DecidableEq

def holdsDirectory (nodes : List (Location × Node)) (location : Location) : Bool :=
  (nodes.lookup location).any fun node => node.body.isDirectory

structure FileTree where
  nodes : List (Location × Node)
  rooted : holdsDirectory nodes [] = true
  distinct : (nodes.map Prod.fst).Nodup
  nested : ∀ location ∈ nodes.map Prod.fst, holdsDirectory nodes location.tail = true

def changeNode (location : Location) (change : Node → Node) (nodes : List (Location × Node)) :
    List (Location × Node) :=
  nodes.map fun entry => if entry.1 = location then (entry.1, change entry.2) else entry

theorem map_fst_changeNode (location : Location) (change : Node → Node)
    (nodes : List (Location × Node)) :
    (changeNode location change nodes).map Prod.fst = nodes.map Prod.fst := by
  simp only [changeNode, List.map_map]
  congr 1
  funext entry
  simp only [Function.comp_apply]
  split <;> rfl

theorem lookup_changeNode (location : Location) (change : Node → Node)
    (nodes : List (Location × Node)) (key : Location) :
    (changeNode location change nodes).lookup key =
      if key = location then (nodes.lookup key).map change else nodes.lookup key := by
  induction nodes with
  | nil => simp [changeNode]
  | cons entry rest ih =>
      obtain ⟨held, node⟩ := entry
      simp only [changeNode, List.map_cons] at ih ⊢
      by_cases same : key = held
      · subst same
        by_cases here : key = location <;> simp [here]
      · have different : (key == held) = false := beq_false_of_ne same
        by_cases here : held = location
        · subst here
          simp [List.lookup_cons, different, same, ih]
        · simp [List.lookup_cons, here, different, ih]

theorem holdsDirectory_changeNode (location : Location) (change : Node → Node)
    (keeps : ∀ node, (change node).body.isDirectory = node.body.isDirectory)
    (nodes : List (Location × Node)) (key : Location) :
    holdsDirectory (changeNode location change nodes) key = holdsDirectory nodes key := by
  rw [holdsDirectory, holdsDirectory, lookup_changeNode]
  split
  · cases nodes.lookup key with
    | none => rfl
    | some node => simp [keeps]
  · rfl

theorem holdsDirectory_cons {nodes : List (Location × Node)} {location key : Location}
    {node : Node} (absent : location ∉ nodes.map Prod.fst)
    (directory : holdsDirectory nodes key = true) :
    holdsDirectory ((location, node) :: nodes) key = true := by
  have other : key ≠ location := by
    intro same
    subst same
    have missing : nodes.lookup key = none := by
      rw [List.lookup_eq_none_iff]
      intro entry member
      have other : key ≠ entry.1 := by
        intro same
        refine absent ?_
        rw [same]
        exact List.mem_map_of_mem member
      exact bne_iff_ne.2 other
    simp [holdsDirectory, missing] at directory
  simpa [holdsDirectory, List.lookup_cons, beq_false_of_ne other] using directory

def Location.within (location : Location) (top : Location) : Bool :=
  top.isSuffixOf location

def nodesOutside (top : Location) (nodes : List (Location × Node)) : List (Location × Node) :=
  nodes.filter fun entry => !Location.within entry.1 top

theorem lookup_nodesOutside (top : Location) (nodes : List (Location × Node)) (key : Location) :
    (nodesOutside top nodes).lookup key =
      if Location.within key top then none else nodes.lookup key := by
  induction nodes with
  | nil => simp [nodesOutside]
  | cons entry rest ih =>
      obtain ⟨held, node⟩ := entry
      simp only [nodesOutside] at ih ⊢
      by_cases same : key = held
      · subst same
        by_cases below : Location.within key top = true
        · simpa [below] using ih
        · simp [below]
      · have different : (key == held) = false := beq_false_of_ne same
        by_cases below : Location.within held top = true <;>
          simp [below, List.lookup_cons, different, ih]

theorem not_within_tail {location top : Location} (outside : ¬ Location.within location top = true) :
    ¬ Location.within location.tail top = true := by
  intro below
  refine outside ?_
  simp only [Location.within, List.isSuffixOf_iff_suffix] at below ⊢
  exact below.trans (List.tail_suffix location)

namespace FileTree

def bare (times : FileTimes) : FileTree where
  nodes := [([], ⟨.directory, times⟩)]
  rooted := rfl
  distinct := by simp
  nested := by simp [holdsDirectory, NodeBody.isDirectory]

instance : Inhabited FileTree := ⟨bare {}⟩

def find? (tree : FileTree) (location : Location) : Option Node :=
  tree.nodes.lookup location

def body? (tree : FileTree) (location : Location) : Option NodeBody :=
  (tree.find? location).map Node.body

/-- The tree with the node at a location changed; a directory stays one, and nothing else becomes
one. -/
def change (tree : FileTree) (location : Location) (change : Node → Node)
    (keeps : ∀ node, (change node).body.isDirectory = node.body.isDirectory) : FileTree where
  nodes := changeNode location change tree.nodes
  rooted := by rw [holdsDirectory_changeNode location change keeps]; exact tree.rooted
  distinct := by rw [map_fst_changeNode]; exact tree.distinct
  nested := by
    rw [map_fst_changeNode]
    intro key member
    rw [holdsDirectory_changeNode location change keeps]
    exact tree.nested key member

theorem find?_change (tree : FileTree) (location : Location) (change : Node → Node)
    (keeps : ∀ node, (change node).body.isDirectory = node.body.isDirectory) (key : Location) :
    (tree.change location change keeps).find? key =
      if key = location then (tree.find? key).map change else tree.find? key :=
  lookup_changeNode location change tree.nodes key

def add (tree : FileTree) (location : Location) (node : Node) : Option FileTree :=
  if free : location ∉ tree.nodes.map Prod.fst ∧ holdsDirectory tree.nodes location.tail = true then
    some {
      nodes := (location, node) :: tree.nodes
      rooted := holdsDirectory_cons free.1 tree.rooted
      distinct := by
        rw [List.map_cons, List.nodup_cons]
        exact ⟨free.1, tree.distinct⟩
      nested := by
        intro key member
        rw [List.map_cons, List.mem_cons] at member
        rcases member with same | member
        · exact same ▸ holdsDirectory_cons free.1 free.2
        · exact holdsDirectory_cons free.1 (tree.nested key member) }
  else none

theorem find?_add {tree added : FileTree} {location : Location} {node : Node}
    (done : tree.add location node = some added) (key : Location) :
    added.find? key = if key = location then some node else tree.find? key := by
  unfold add at done
  split at done
  · cases done
    by_cases same : key = location <;> simp [find?, List.lookup_cons, same, beq_false_of_ne]
  · cases done

def remove (tree : FileTree) (top : Location) : FileTree :=
  if proper : top ≠ [] then
    { nodes := nodesOutside top tree.nodes
      rooted := by
        have outside : Location.within [] top = false := by
          cases top with
          | nil => exact absurd rfl proper
          | cons name parent => simp [Location.within, List.isSuffixOf]
        rw [holdsDirectory, lookup_nodesOutside, outside]
        exact tree.rooted
      distinct := (tree.distinct).sublist (List.filter_sublist.map Prod.fst)
      nested := by
        intro key member
        obtain ⟨entry, held, rfl⟩ := List.mem_map.1 member
        obtain ⟨held, outside⟩ := List.mem_filter.1 held
        rw [holdsDirectory, lookup_nodesOutside,
          if_neg (not_within_tail (by simpa using outside))]
        exact tree.nested entry.1 (List.mem_map_of_mem held) }
  else tree

theorem find?_remove (tree : FileTree) {top : Location} (proper : top ≠ []) (key : Location) :
    (tree.remove top).find? key = if Location.within key top then none else tree.find? key := by
  unfold remove
  rw [dif_pos proper]
  exact lookup_nodesOutside top tree.nodes key

def childNames (tree : FileTree) (location : Location) : List String :=
  tree.nodes.filterMap fun entry =>
    match entry.1 with
    | [] => none
    | name :: parent => if parent = location then some name else none

end FileTree

end PackageAssay

import PackageAssay.Proofs.EntryStates

/-!
# Disks that differ in their times alone

Two file trees are alike if they have the same files, links and directories; the times may differ.
What a path leads to and what is read there is the same on both.
-/

set_option autoImplicit false

namespace PackageAssay

inductive SameOutcome {ε α : Type} (related : α → α → Prop) : Except ε α → Except ε α → Prop
  | error (failure : ε) : SameOutcome related (.error failure) (.error failure)
  | ok {left right : α} (alike : related left right) : SameOutcome related (.ok left) (.ok right)

theorem SameOutcome.bind {ε α β : Type} {related : α → α → Prop} {thenRelated : β → β → Prop}
    {left right : Except ε α} {onLeft onRight : α → Except ε β}
    (same : SameOutcome related left right)
    (next : ∀ first second, related first second →
      SameOutcome thenRelated (onLeft first) (onRight second)) :
    SameOutcome thenRelated (left >>= onLeft) (right >>= onRight) := by
  cases same with
  | error failure => exact .error failure
  | ok alike => exact next _ _ alike

inductive NodeBody.Alike : NodeBody → NodeBody → Prop
  | directory : Alike .directory .directory
  | file {left right : Content} (same : left.toBytes = right.toBytes) :
      Alike (.file left) (.file right)
  | link (target : String) : Alike (.link target) (.link target)

namespace NodeBody.Alike

theorem refl : ∀ body : NodeBody, body.Alike body
  | .directory => .directory
  | .file _ => .file rfl
  | .link target => .link target

variable {left right : NodeBody}

theorem isFile_eq (alike : left.Alike right) : left.isFile = right.isFile := by
  cases alike <;> rfl

theorem isLink_eq (alike : left.Alike right) : left.isLink = right.isLink := by
  cases alike <;> rfl

theorem isDirectory_eq (alike : left.Alike right) : left.isDirectory = right.isDirectory := by
  cases alike <;> rfl

end NodeBody.Alike

def FileTree.Alike (left right : FileTree) : Prop :=
  ∀ location, Option.Rel NodeBody.Alike (left.body? location) (right.body? location)

structure Disk.Alike (left right : Disk) : Prop where
  tree : left.tree.Alike right.tree
  workingDirectory : left.workingDirectory = right.workingDirectory

theorem FileTree.alike_of_body?_eq {left right : FileTree}
    (same : ∀ location, right.body? location = left.body? location) : left.Alike right := by
  intro location
  rw [same]
  cases left.body? location with
  | none => exact .none
  | some body => exact .some (.refl body)

namespace FileTree.Alike

variable {left right : FileTree}

theorem walkNames_eq (alike : left.Alike right) {goal : Goal}
    {onLeft onRight : Location → List String → Except Fault Location}
    (same : ∀ here names, onLeft here names = onRight here names) (names : List String)
    (here : Location) :
    walkNames left goal onLeft names here = walkNames right goal onRight names here := by
  induction names generalizing here with
  | nil => rfl
  | cons name rest ih =>
      have stands := alike here
      have next := alike (name :: here)
      rw [walkNames, walkNames]
      generalize left.body? here = leftBody, right.body? here = rightBody at stands
      generalize left.body? (name :: here) = leftNext, right.body? (name :: here) = rightNext
        at next
      cases stands with
      | none => rfl
      | some stands =>
          cases stands with
          | file => rfl
          | link => rfl
          | directory =>
              cases next with
              | none => simp only [ih]
              | some next => cases next <;> simp only [ih, same]

theorem walk_eq (alike : left.Alike right) (goal : Goal) (links : Nat) (names : List String)
    (start : Location) : walk left goal links names start = walk right goal links names start := by
  induction links generalizing names start with
  | zero => exact alike.walkNames_eq (fun _ _ => rfl) names start
  | succ links ih => exact alike.walkNames_eq (fun here names => ih names here) names start

theorem directory_iff (alike : left.Alike right) (location : Location) :
    left.body? location = some .directory ↔ right.body? location = some .directory := by
  have stands := alike location
  generalize left.body? location = leftBody, right.body? location = rightBody at stands
  cases stands with
  | none => simp
  | some bodies => cases bodies <;> simp

end FileTree.Alike

namespace Disk

namespace Alike

variable {left right : Disk}

theorem locate_eq (alike : left.Alike right) (goal : Goal) (path : Path) :
    left.locate goal path = right.locate goal path := by
  simp only [locate, walk, startOf_congr alike.workingDirectory path, alike.tree.walk_eq]

theorem sameNode (alike : left.Alike right) (goal : Goal) (path : Path) :
    SameOutcome (fun leftNode rightNode => leftNode.body.Alike rightNode.body)
      (left.node goal path) (right.node goal path) := by
  have same := alike.locate_eq goal path
  cases located : left.locate goal path with
  | error fault =>
      rw [node, node, ← same, located]
      exact .error fault
  | ok place =>
      rw [node_of_locate located, node_of_locate (same.symm.trans located)]
      -- The walk ends in the same place, so it is enough to compare what stands there.
      have stands := alike.tree place
      rw [FileTree.body?, FileTree.body?] at stands
      cases leftNode : left.tree.find? place <;> cases rightNode : right.tree.find? place <;>
        rw [leftNode, rightNode] at stands <;> cases stands
      case none.none => exact .error Fault.notFound
      case some.some bodies => exact .ok bodies

theorem isFile_eq (alike : left.Alike right) (path : Path) :
    left.isFile path = right.isFile path := by
  have nodes := alike.sameNode .target path
  rw [isFile, isFile]
  generalize left.node .target path = leftNode, right.node .target path = rightNode at nodes
  cases nodes with
  | error => rfl
  | ok bodies => simp only [Except.toOption, Option.map_some, bodies.isFile_eq]

theorem isLink_eq (alike : left.Alike right) (path : Path) :
    left.isLink path = right.isLink path := by
  have nodes := alike.sameNode .entry path
  rw [isLink, isLink]
  generalize left.node .entry path = leftNode, right.node .entry path = rightNode at nodes
  cases nodes with
  | error => rfl
  | ok bodies => simp only [Except.toOption, Option.map_some, bodies.isLink_eq]

theorem isDirectory_eq (alike : left.Alike right) (path : Path) :
    left.isDirectory path = right.isDirectory path := by
  have nodes := alike.sameNode .target path
  rw [isDirectory, isDirectory]
  generalize left.node .target path = leftNode, right.node .target path = rightNode at nodes
  cases nodes with
  | error => rfl
  | ok bodies => simp only [Except.toOption, Option.map_some, bodies.isDirectory_eq]

theorem sameBytes_read (alike : left.Alike right) (path : Path) :
    SameOutcome (fun content other => content.toBytes = other.toBytes)
      (left.read path) (right.read path) := by
  refine (alike.sameNode .target path).bind ?_
  rintro ⟨body, _⟩ ⟨other, _⟩ bodies
  cases bodies with
  | directory => exact .error Fault.isDirectory
  | file same => exact .ok same
  | link => exact .error Fault.tooManyLinks

theorem readText_eq (alike : left.Alike right) (path : Path) :
    left.readText path = right.readText path := by
  have read := alike.sameBytes_read path
  rw [readText, readText]
  generalize left.read path = leftRead, right.read path = rightRead at read
  cases read with
  | error fault => rfl
  | ok bytes => simp only [bind, Except.bind, Content.text?, bytes]

theorem sameDirectories (alike : left.Alike right) (repository : Repository) :
    SameOutcome (fun listed others => ∀ directory, directory ∈ listed ↔ directory ∈ others)
      (repository.entryDirectories left) (repository.entryDirectories right) := by
  have same := alike.locate_eq .target repository.directory
  cases located : left.locate .target repository.directory with
  | error fault =>
      simp only [Repository.entryDirectories, children, ← same, located, bind, Except.bind]
      cases fault with
      | notFound => exact .ok fun _ => .rfl
      | _ => exact .error _
  | ok place =>
      have rightLocated := same.symm.trans located
      have stands := alike.tree place
      cases leftBody : left.tree.body? place <;> cases rightBody : right.tree.body? place <;>
        rw [leftBody, rightBody] at stands <;> cases stands
      case none.none =>
        simp only [Repository.entryDirectories, children, ← same, located, bind, Except.bind,
          leftBody, rightBody]
        exact .ok fun _ => .rfl
      case some.some bodies =>
        cases bodies with
        | file | link =>
          simp only [Repository.entryDirectories, children, ← same, located, bind, Except.bind,
            leftBody, rightBody]
          exact .error _
        | directory =>
          have sound := sound_of_locate located
          obtain ⟨listed, leftListed, leftHolds⟩ :=
            Repository.exists_entryDirectories sound (reaches_of_locate located leftBody)
          obtain ⟨others, rightListed, rightHolds⟩ :=
            Repository.exists_entryDirectories sound (reaches_of_locate rightLocated rightBody)
          rw [leftListed, rightListed]
          exact .ok fun directory => by rw [leftHolds, rightHolds, alike.tree.directory_iff]

theorem findEntry_eq (alike : left.Alike right) (repository : Repository) (name : String) :
    repository.findEntry left name = repository.findEntry right name := by
  have same := alike.sameDirectories repository
  rw [Repository.findEntry, Repository.findEntry]
  generalize repository.entryDirectories left = listed,
    repository.entryDirectories right = others at same
  cases same with
  | error failure => rfl
  | ok members => simp only [bind, Except.bind, sortedNames_congr members]

end Alike

end Disk

def SameRecord : Except Error DatabaseEntry → Except Error DatabaseEntry → Prop :=
  SameOutcome fun left right => left.record = right.record

namespace Disk.Alike

variable {left right : Disk}

theorem sameRecord_readSection (alike : left.Alike right) (directory : Path) (key : SectionKey)
    (decode : String → PackageRecord → Decoded) {first second : DatabaseEntry}
    (same : first.record = second.record) :
    SameRecord (Repository.readSection left directory key decode first)
      (Repository.readSection right directory key decode second) := by
  rw [Repository.readSection, Repository.readSection, alike.readText_eq, same]
  cases right.readText (directory.join key.fileName) with
  | error fault => exact .error _
  | ok text =>
      simp only [Except.mapError, Except.bind, bind]
      cases (decode text second.record).result with
      | error failure => exact .error _
      | ok record => exact .ok rfl

theorem sameRecord_readOptional (alike : left.Alike right) (directory : Path) (key : SectionKey)
    (decode : String → PackageRecord → Decoded) {first second : DatabaseEntry}
    (same : first.record = second.record) :
    SameRecord (Repository.readOptional left directory key decode first)
      (Repository.readOptional right directory key decode second) := by
  have text := alike.readText_eq (directory.join key.fileName)
  unfold Repository.readOptional
  rw [text]
  split
  · exact .ok same
  · exact alike.sameRecord_readSection directory key decode same

/-- A package has the same record on both disks, whatever is known of its times. -/
theorem sameOutcome_read (alike : left.Alike right) (repository : Repository) (name : String) :
    SameOutcome (Option.Rel fun first second => first.record = second.record)
      (repository.read left name) (repository.read right name) := by
  rw [Repository.read, Repository.read, alike.findEntry_eq]
  cases repository.findEntry right name with
  | error failure => exact .error failure
  | ok entry =>
      rcases entry with _ | ⟨directory, parts⟩
      · exact .ok .none
      · refine (alike.sameRecord_readSection directory .desc decodeDesc rfl).bind ?_
        intro first second same
        refine (alike.sameRecord_readOptional directory .files decodeFiles same).bind ?_
        intro first second same
        refine (alike.sameRecord_readOptional directory .depends decodeDepends same).bind ?_
        intro first second same
        refine (alike.sameRecord_readOptional directory .install _ same).bind ?_
        intro first second same
        exact .ok (.some same)

end Disk.Alike

end PackageAssay

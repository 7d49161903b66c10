import PackageAssay.Proofs.FileHistory

set_option autoImplicit false

namespace PackageAssay

inductive Deed where
  | write (location : Location)
  | makeDirectory (location : Location)
  | remove (top : Location)
  | read (location : Location)
deriving DecidableEq

namespace Deed

def written? : Deed → Option Location
  | .write location => some location
  | _ => none

/-- Whether the file at a location is written, or removed with what it stands in. The root cannot
be removed. -/
def touches (location : Location) : Deed → Bool
  | .write place => place == location
  | .remove top => top != [] && Location.within location top
  | .makeDirectory _ => false
  | .read _ => false

theorem touches_of_written {deed : Deed} {location : Location}
    (written : deed.written? = some location) : deed.touches location = true := by
  cases deed with
  | write place => exact beq_iff_eq.2 (Option.some.inj written)
  | makeDirectory place => cases written
  | remove top => cases written
  | read place => cases written

end Deed

namespace Disk

inductive Does (disk : Disk) : Deed → Disk → Prop where
  | create {location : Location} {content : Content} {later : Disk}
      (done : disk.make location (.file content) = .ok later) : Does disk (.write location) later
  | rewrite {location : Location} {old : Content} (content : Content)
      (held : disk.tree.body? location = some (.file old)) :
      Does disk (.write location)
        { disk with tree := disk.tree.setContent location content disk.now }
  | makeDirectory {location : Location} {later : Disk}
      (done : disk.make location .directory = .ok later) :
      Does disk (.makeDirectory location) later
  | remove {top : Location} {body : NodeBody} (held : disk.tree.body? top = some body) :
      Does disk (.remove top)
        { disk with tree := (disk.tree.remove top).touch top.tail disk.now }
  | read (location : Location) :
      Does disk (.read location) { disk with tree := disk.tree.readAt location disk.now }

theorem step_iff_exists_does {disk later : Disk} {written : Option Location} :
    disk.Step written later ↔ ∃ deed : Deed, deed.written? = written ∧ disk.Does deed later := by
  constructor
  · intro step
    cases step with
    | create done => exact ⟨_, rfl, .create done⟩
    | rewrite content held => exact ⟨_, rfl, .rewrite content held⟩
    | makeDirectory done => exact ⟨_, rfl, .makeDirectory done⟩
    | remove held => exact ⟨_, rfl, .remove held⟩
    | read location => exact ⟨_, rfl, .read location⟩
  · rintro ⟨deed, rfl, does⟩
    cases does with
    | create done => exact .create done
    | rewrite content held => exact .rewrite content held
    | makeDirectory done => exact .makeDirectory done
    | remove held => exact .remove held
    | read location => exact .read location

section Does

variable {disk later : Disk} {deed : Deed} {location : Location} {node : Node}

theorem Does.advances (does : disk.Does deed later) : disk.Advances deed.written? later :=
  (step_iff_exists_does.2 ⟨deed, rfl, does⟩).advances

theorem Made.keeps_file {place : Location} {body : NodeBody} (step : disk.Made place body later)
    (found : disk.tree.find? location = some node) (file : node.body.isFile = true) :
    later.tree.find? location = some node := by
  have other : location ≠ place := by
    rintro rfl
    have absent := step.absent
    rw [FileTree.body?, found] at absent
    cases absent
  have notParent : location ≠ place.tail := by
    rintro rfl
    exact FileTree.ne_directory_of_file found file step.inside
  rw [step.nodes location notParent, if_neg other, found]

theorem Does.keeps_file (does : disk.Does deed later) (apart : deed.touches location = false)
    (found : disk.tree.find? location = some node) (file : node.body.isFile = true) :
    ∃ after, later.tree.find? location = some after ∧ after.body = node.body ∧
      after.times.content = node.times.content := by
  cases does with
  | create done => exact ⟨node, (made_of_make done).keeps_file found file, rfl, rfl⟩
  | makeDirectory done => exact ⟨node, (made_of_make done).keeps_file found file, rfl, rfl⟩
  | @rewrite place old content held =>
      have other : location ≠ place := fun same => beq_eq_false_iff_ne.1 apart same.symm
      exact ⟨node, by rw [find?_setContent, if_neg other, found], rfl, rfl⟩
  | @remove top body held =>
      have notParent : location ≠ top.tail := by
        rintro rfl
        exact FileTree.ne_directory_of_file found file (FileTree.directory_tail held)
      refine ⟨node, ?_, rfl, rfl⟩
      rw [FileTree.find?_touch, if_neg notParent]
      by_cases root : top = []
      · rwa [FileTree.remove, dif_neg (not_not_intro root)]
      · have outside : Location.within location top = false := by
          simpa [Deed.touches, root] using apart
        rw [FileTree.find?_remove _ root, outside]
        exact found
  | read place =>
      have nodes : (disk.tree.readAt place disk.now).find? location =
          if location = place then (disk.tree.find? location).map (Node.readAt disk.now)
          else disk.tree.find? location :=
        FileTree.find?_change disk.tree place _ _ location
      rw [nodes, found]
      split
      · exact ⟨_, rfl, rfl, rfl⟩
      · exact ⟨node, rfl, rfl, rfl⟩

theorem Does.changed_of_touches (does : disk.Does deed later)
    (touches : deed.touches location = true)
    (found : later.tree.find? location = some node) (file : node.body.isFile = true) :
    deed.written? = some location ∧ node.times.changed = disk.now := by
  have times := does.advances.files location node found file
  have written (same : deed.written? = some location) :
      deed.written? = some location ∧ node.times.changed = disk.now := by
    rw [if_pos same] at times
    exact ⟨same, congrArg Prod.snd times⟩
  cases does with
  | create done => exact written (congrArg some (eq_of_beq touches))
  | rewrite content held => exact written (congrArg some (eq_of_beq touches))
  | @remove top body held =>
      obtain ⟨proper, inside⟩ : top ≠ [] ∧ Location.within location top = true := by
        simpa [Deed.touches] using touches
      rw [FileTree.find?_touch, FileTree.find?_remove _ proper, if_pos inside] at found
      split at found <;> cases found
  | makeDirectory done => cases touches
  | read place => cases touches

end Does

/-- Deeds that are done one after the other, the first one first. The clock does not go back, and
it has gone on whenever a file is written. -/
inductive History (disk : Disk) : List Deed → Disk → Prop where
  | start : History disk [] disk
  | next {deeds : List Deed} {deed : Deed} {middle later : Disk} {time : Int64}
      (before : History disk deeds middle) (onward : middle.now ≤ time)
      (newer : deed.written? ≠ none → middle.now < time)
      (does : Does { middle with now := time } deed later) :
      History disk (deeds ++ [deed]) later

namespace History

variable {disk later : Disk} {deeds : List Deed} {location : Location} {node : Node}

theorem now_le (history : disk.History deeds later) : disk.now ≤ later.now := by
  induction history with
  | start => exact Int64.le_refl _
  | next _ onward _ does ih =>
      rw [does.advances.now]
      exact Int64.le_trans ih onward

theorem workingDirectory (history : disk.History deeds later) :
    later.workingDirectory = disk.workingDirectory := by
  induction history with
  | start => rfl
  | next _ _ _ does ih => exact does.advances.workingDirectory.trans ih

theorem linkless (history : disk.History deeds later) (linkless : disk.tree.Linkless) :
    later.tree.Linkless := by
  induction history with
  | start => exact linkless
  | next _ _ _ does ih => exact does.advances.linkless ih

theorem keeps_file (history : disk.History deeds later)
    (apart : ∀ deed ∈ deeds, deed.touches location = false)
    (found : disk.tree.find? location = some node) (file : node.body.isFile = true) :
    ∃ after, later.tree.find? location = some after ∧ after.body = node.body ∧
      after.times.content = node.times.content := by
  induction history with
  | start => exact ⟨node, found, rfl, rfl⟩
  | @next deeds deed middle later time _ _ _ does ih =>
      obtain ⟨held, there, body, times⟩ :=
        ih fun other member => apart other (List.mem_append_left _ member)
      have last : deed.touches location = false := apart deed (by simp)
      obtain ⟨after, stands, body', times'⟩ := does.keeps_file last there (by rwa [body])
      exact ⟨after, stands, body'.trans body, times'.trans times⟩

theorem now_lt_of_touched (history : disk.History deeds later)
    (touched : ∃ deed ∈ deeds, deed.touches location = true)
    (found : later.tree.find? location = some node) (file : node.body.isFile = true) :
    disk.now < node.times.changed := by
  induction history generalizing node with
  | start =>
      obtain ⟨deed, absent, -⟩ := touched
      cases absent
  | @next deeds deed middle later time before _ newer does ih =>
      by_cases last : deed.touches location = true
      · obtain ⟨written, changed⟩ := does.changed_of_touches last found file
        rw [changed]
        exact Int64.lt_of_le_of_lt before.now_le (newer (by simp [written]))
      -- The file was there before, and it is as old as it was.
      have earlier : ∃ deed ∈ deeds, deed.touches location = true := by
        obtain ⟨other, member, touches⟩ := touched
        rcases List.mem_append.1 member with first | same
        · exact ⟨other, first, touches⟩
        · rw [List.mem_singleton.1 same] at touches
          exact absurd touches last
      have files := does.advances.files location node found file
      rw [if_neg fun written => last (Deed.touches_of_written written)] at files
      obtain ⟨old, there, isFile, times⟩ := files
      have same : old.times.changed = node.times.changed := congrArg Prod.snd times
      rw [← same]
      exact ih earlier there isFile

end History

end Disk

end PackageAssay

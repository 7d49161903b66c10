import PackageAssay.Proofs.WrittenFiles

/-!
# What happens to files over time

Files and directories are made, written, read and removed one after the other, each at a later
time. The modify and change times of a file then tell whether it was written on the way.
-/

set_option autoImplicit false

namespace PackageAssay

def FileTree.Linkless (tree : FileTree) : Prop :=
  ∀ location target, tree.body? location ≠ some (.link target)

/-- Every name in the tree names something in a directory, as in any file system. -/
def FileTree.Named (tree : FileTree) : Prop :=
  ∀ name place, tree.body? (name :: place) ≠ none → IsName name

theorem FileTree.fits_of_nodes {tree : FileTree} (fits : Node → Prop)
    (each : ∀ entry ∈ tree.nodes, fits entry.2) {location : Location} {node : Node}
    (found : tree.find? location = some node) : fits node :=
  each _ (mem_of_lookup_eq_some found)

theorem FileTree.linkless_of_nodes {tree : FileTree}
    (each : ∀ entry ∈ tree.nodes, entry.2.body.isLink = false) : tree.Linkless := by
  intro location target found
  obtain ⟨node, there, link⟩ := Option.map_eq_some_iff.1 found
  have none : node.body.isLink = false :=
    fits_of_nodes (fun node => node.body.isLink = false) each there
  rw [link] at none
  cases none

theorem FileTree.named_of_nodes {tree : FileTree}
    (each : ∀ entry ∈ tree.nodes, ∀ name ∈ entry.1.head?,
      name ≠ "" ∧ '/' ∉ name.toList ∧ name ≠ "." ∧ name ≠ "..") : tree.Named := by
  intro name place found
  obtain ⟨node, there⟩ := Option.ne_none_iff_exists'.1 (Option.map_eq_none_iff.not.1 found)
  obtain ⟨some, whole, notDot, notDots⟩ := each _ (mem_of_lookup_eq_some there) name (by simp)
  exact ⟨some, whole, notDot, notDots⟩

def wayFrom : List String → Location → Location
  | [], place => place
  | name :: rest, place =>
      if name = Path.dotMark ∨ name = Path.slashMark then wayFrom rest place
      else if name = ".." then wayFrom rest place.tail
      else wayFrom rest (name :: place)

theorem Leads.last_eq {tree : FileTree} {links left : Nat} {names : List String}
    {place last : Location} (linkless : tree.Linkless)
    (leads : Leads tree links names place left last) : last = wayFrom names place := by
  induction leads with
  | here _ => rfl
  | mark _ mark _ ih => rw [wayFrom, if_pos mark, ih]
  | up _ _ ih =>
      have notMark : ¬ (".." = Path.dotMark ∨ ".." = Path.slashMark) := by decide
      rw [wayFrom, if_neg notMark, if_pos rfl, ih]
  | down _ descends _ _ ih => rw [wayFrom, if_neg descends.notMark, if_neg descends.notDots, ih]
  | link _ _ found _ _ => exact absurd found (linkless _ _)

namespace Disk

theorem Reaches.same_place {disk later : Disk} {path : Path} {place other : Location}
    (linkless : disk.tree.Linkless) (laterLinkless : later.tree.Linkless)
    (start : later.workingDirectory = disk.workingDirectory)
    (reaches : disk.Reaches path place) (laterReaches : later.Reaches path other) :
    other = place := by
  obtain ⟨_, leads⟩ := reaches
  obtain ⟨_, laterLeads⟩ := laterReaches
  rw [laterLeads.last_eq laterLinkless, leads.last_eq linkless, startOf_congr start]

end Disk

def Node.readAt (now : Int64) (node : Node) : Node :=
  { node with times := { node.times with accessed := now } }

def FileTree.readAt (tree : FileTree) (location : Location) (now : Int64) : FileTree :=
  tree.change location (Node.readAt now) fun _ => rfl

theorem FileTree.ne_directory_of_file {tree : FileTree} {location : Location} {node : Node}
    (found : tree.find? location = some node) (file : node.body.isFile = true) :
    tree.body? location ≠ some .directory := by
  intro directory
  rw [body?, found, Option.map_some, Option.some.injEq] at directory
  rw [directory] at file
  cases file

namespace Disk

/-- One change at the time of the clock, and the file that it writes. A file that is read is not
written. -/
inductive Step (disk : Disk) : Option Location → Disk → Prop where
  | create {location : Location} {content : Content} {later : Disk}
      (done : disk.make location (.file content) = .ok later) : Step disk (some location) later
  | rewrite {location : Location} {old : Content} (content : Content)
      (held : disk.tree.body? location = some (.file old)) :
      Step disk (some location)
        { disk with tree := disk.tree.setContent location content disk.now }
  | makeDirectory {location : Location} {later : Disk}
      (done : disk.make location .directory = .ok later) : Step disk none later
  | remove {location : Location} {body : NodeBody} (held : disk.tree.body? location = some body) :
      Step disk none
        { disk with tree := (disk.tree.remove location).touch location.tail disk.now }
  | read (location : Location) :
      Step disk none { disk with tree := disk.tree.readAt location disk.now }

/-- What a step does to the files: the one that it writes gets the time of the clock, and the
others keep their times. -/
structure Advances (disk : Disk) (written : Option Location) (later : Disk) : Prop where
  now : later.now = disk.now
  workingDirectory : later.workingDirectory = disk.workingDirectory
  linkless : disk.tree.Linkless → later.tree.Linkless
  files : ∀ location node, later.tree.find? location = some node → node.body.isFile = true →
    if written = some location then node.times.content = (disk.now, disk.now)
    else ∃ old, disk.tree.find? location = some old ∧ old.body.isFile = true ∧
      old.times.content = node.times.content

section Advances

variable {disk later : Disk} {location : Location}

theorem Made.files {body : NodeBody} (step : disk.Made location body later) {key : Location}
    {node : Node} (found : later.tree.find? key = some node) (file : node.body.isFile = true)
    (other : key ≠ location) : disk.tree.find? key = some node := by
  have notParent : key ≠ location.tail := by
    rintro rfl
    have directory := ((step.bodies location.tail).trans (if_neg other)).trans step.inside
    exact FileTree.ne_directory_of_file found file directory
  rwa [step.nodes key notParent, if_neg other] at found

theorem Made.linkless {body : NodeBody} (step : disk.Made location body later)
    (noLink : body.isLink = false) (linkless : disk.tree.Linkless) : later.tree.Linkless := by
  intro key target found
  rw [step.bodies] at found
  split at found
  · cases found
    cases noLink
  · exact linkless key target found

theorem advances_create {content : Content}
    (done : disk.make location (.file content) = .ok later) :
    disk.Advances (some location) later := by
  have step := made_of_make done
  have now : later.now = disk.now := congrFun (moment_of_make done) 0
  refine ⟨now, step.workingDirectory, step.linkless rfl, ?_⟩
  intro key node found file
  split
  · next here =>
      cases here
      have notParent : location ≠ location.tail := by
        intro same
        have inside := step.inside
        rw [← same, step.absent] at inside
        cases inside
      rw [step.nodes _ notParent, if_pos rfl] at found
      cases found
      rfl
  · next other =>
      exact ⟨node, step.files found file fun same => other (by rw [same]), file, rfl⟩

theorem advances_makeDirectory (done : disk.make location .directory = .ok later) :
    disk.Advances none later := by
  have step := made_of_make done
  have now : later.now = disk.now := congrFun (moment_of_make done) 0
  refine ⟨now, step.workingDirectory, step.linkless rfl, ?_⟩
  intro key node found file
  have other : key ≠ location := by
    rintro rfl
    exact FileTree.ne_directory_of_file found file ((step.bodies key).trans (if_pos rfl))
  rw [if_neg (by simp)]
  exact ⟨node, step.files found file other, file, rfl⟩

theorem advances_rewrite {old : Content} (content : Content)
    (held : disk.tree.body? location = some (.file old)) :
    disk.Advances (some location)
      { disk with tree := disk.tree.setContent location content disk.now } := by
  obtain ⟨node, found, body⟩ := Option.map_eq_some_iff.1 held
  have written : node.withContent content disk.now =
      ⟨.file content, node.times.changedAt disk.now⟩ := by
    simp [Node.withContent, body, NodeBody.isDirectory]
  refine ⟨rfl, rfl, ?_, ?_⟩
  · intro linkless key target wrong
    rw [FileTree.body?, find?_setContent] at wrong
    split at wrong
    · next here =>
        rw [here, found, Option.map_some, written] at wrong
        cases wrong
    · exact linkless key target wrong
  · intro key other there file
    rw [find?_setContent] at there
    split at there
    · next here =>
        rw [here, found, Option.map_some, written] at there
        cases there
        rw [here, if_pos rfl]
        rfl
    · next apart =>
        rw [if_neg fun same => apart (Option.some.inj same).symm]
        exact ⟨other, there, file, rfl⟩

theorem advances_of_before (now : later.now = disk.now)
    (workingDirectory : later.workingDirectory = disk.workingDirectory)
    (before : ∀ key node, later.tree.find? key = some node →
      ∃ old, disk.tree.find? key = some old ∧ old.body = node.body ∧
        (node.body.isFile = true → old.times.content = node.times.content)) :
    disk.Advances none later := by
  refine ⟨now, workingDirectory, ?_, ?_⟩
  · intro linkless key target wrong
    obtain ⟨node, found, link⟩ := Option.map_eq_some_iff.1 wrong
    obtain ⟨old, there, body, -⟩ := before key node found
    exact linkless key target (by rw [FileTree.body?, there, Option.map_some, body, link])
  · intro key node found file
    obtain ⟨old, there, body, times⟩ := before key node found
    rw [if_neg (by simp)]
    exact ⟨old, there, by rwa [body], times file⟩

theorem advances_remove {body : NodeBody} (held : disk.tree.body? location = some body) :
    disk.Advances none
      { disk with tree := (disk.tree.remove location).touch location.tail disk.now } := by
  have left : ∀ key node, (disk.tree.remove location).find? key = some node →
      disk.tree.find? key = some node := by
    intro key node found
    by_cases proper : location = []
    · rwa [proper, FileTree.remove, dif_neg (by simp)] at found
    · rw [FileTree.find?_remove _ proper] at found
      split at found
      · cases found
      · exact found
  apply advances_of_before
  case now | workingDirectory => rfl
  intro key node found
  rw [FileTree.find?_touch] at found
  split at found
  · next parent =>
      obtain ⟨old, there, rfl⟩ := Option.map_eq_some_iff.1 found
      refine ⟨old, left key old there, rfl, fun file => ?_⟩
      -- The directory above what is removed is no file.
      have directory := FileTree.directory_tail held
      rw [← parent] at directory
      exact absurd directory (FileTree.ne_directory_of_file (left key old there) file)
  · exact ⟨node, left key node found, rfl, fun _ => rfl⟩

theorem advances_read (disk : Disk) (location : Location) :
    disk.Advances none { disk with tree := disk.tree.readAt location disk.now } := by
  have nodes : ∀ key, (disk.tree.readAt location disk.now).find? key =
      if key = location then (disk.tree.find? key).map (Node.readAt disk.now)
      else disk.tree.find? key :=
    fun key => FileTree.find?_change disk.tree location _ _ key
  apply advances_of_before
  case now | workingDirectory => rfl
  intro key node found
  rw [nodes] at found
  split at found
  · obtain ⟨old, there, rfl⟩ := Option.map_eq_some_iff.1 found
    exact ⟨old, there, rfl, fun _ => rfl⟩
  · exact ⟨node, found, rfl, fun _ => rfl⟩

theorem Step.advances {written : Option Location} (step : disk.Step written later) :
    disk.Advances written later := by
  cases step with
  | create done => exact advances_create done
  | rewrite content held => exact advances_rewrite content held
  | makeDirectory done => exact advances_makeDirectory done
  | remove held => exact advances_remove held
  | read location => exact advances_read disk location

end Advances

section Changes

variable {disk later : Disk} {path : Path}

theorem step_of_writeFile (linkless : disk.tree.Linkless) {content : Content}
    (done : disk.writeFile path content = .ok later) :
    ∃ location, disk.locate .place path = .ok location ∧ disk.Step (some location) later := by
  cases located : disk.locate .place path with
  | error fault =>
      rw [writeFile, located] at done
      cases done
  | ok location =>
      refine ⟨location, rfl, ?_⟩
      rw [writeFile, located] at done
      simp only [bind, Except.bind] at done
      cases held : disk.tree.body? location with
      | none =>
          rw [held] at done
          exact .create done
      | some body =>
          rw [held] at done
          cases body with
          | directory => cases done
          | file old =>
              cases done
              exact .rewrite content held
          | link target => exact absurd held (linkless location target)

theorem step_of_makeDirectoryAt {names : List String} {start : Location}
    (done : disk.makeDirectoryAt names start = .ok later) : disk.Step none later := by
  cases walked : disk.walk .entry names start with
  | error fault =>
      rw [makeDirectoryAt_of_error walked] at done
      cases done
  | ok location =>
      rw [makeDirectoryAt_of_walk walked] at done
      split at done
      · cases done
      · exact .makeDirectory done

theorem step_of_remove (done : disk.remove path = .ok later) : disk.Step none later := by
  cases located : disk.locate .entry path with
  | error fault =>
      rw [Disk.remove, located] at done
      cases done
  | ok location =>
      rw [Disk.remove, located] at done
      simp only [bind, Except.bind] at done
      cases held : disk.tree.body? location with
      | none =>
          rw [held] at done
          cases done
      | some body =>
          rw [held] at done
          cases done
          exact .remove held

end Changes

/-- A run of steps, each at a later time than the one before, and the files that were written. -/
inductive Runs (disk : Disk) : List Location → Disk → Prop where
  | start : Runs disk [] disk
  | step {written : List Location} {place : Option Location} {middle later : Disk} {time : Int64}
      (before : Runs disk written middle) (newer : middle.now < time)
      (next : Step { middle with now := time } place later) :
      Runs disk (place.toList ++ written) later

theorem Runs.now_le {disk later : Disk} {written : List Location}
    (runs : disk.Runs written later) : disk.now ≤ later.now := by
  induction runs with
  | start => exact Int64.le_refl _
  | step _ newer next ih =>
      rw [next.advances.now]
      exact Int64.le_trans ih (Int64.le_of_lt newer)

/-- The times of the files tell which of them were written after the clock of the first disk. -/
structure Records (disk : Disk) (written : List Location) (later : Disk) : Prop where
  workingDirectory : later.workingDirectory = disk.workingDirectory
  linkless : disk.tree.Linkless → later.tree.Linkless
  newer : ∀ location node, later.tree.find? location = some node → node.body.isFile = true →
    location ∈ written → disk.now < node.times.changed
  others : ∀ location node, later.tree.find? location = some node → node.body.isFile = true →
    location ∉ written → ∃ old, disk.tree.find? location = some old ∧ old.body.isFile = true ∧
      old.times.content = node.times.content

theorem Records.refl (disk : Disk) : disk.Records [] disk where
  workingDirectory := rfl
  linkless := fun linkless => linkless
  newer := by
    intro location node _ _ member
    cases member
  others := fun location node found file _ => ⟨node, found, file, rfl⟩

theorem Records.advance {disk middle later : Disk} {written : List Location}
    {place : Option Location} {time : Int64} (records : disk.Records written middle)
    (newer : disk.now < time) (step : Advances { middle with now := time } place later) :
    disk.Records (place.toList ++ written) later where
  workingDirectory := step.workingDirectory.trans records.workingDirectory
  linkless := fun linkless => step.linkless (records.linkless linkless)
  newer := by
    intro location node found file member
    -- Either this step wrote the file, or the file is as an earlier step left it.
    have here := step.files location node found file
    split at here
    · have changed : node.times.changed = time := congrArg Prod.snd here
      rwa [changed]
    · next other =>
        obtain ⟨old, there, isFile, times⟩ := here
        have before : location ∈ written := by
          rcases List.mem_append.1 member with now | before
          · exact absurd (Option.mem_toList.1 now) other
          · exact before
        have changed : old.times.changed = node.times.changed := congrArg Prod.snd times
        rw [← changed]
        exact records.newer location old there isFile before
  others := by
    intro location node found file absent
    have apart := not_or.1 (fun either => absent (List.mem_append.2 either))
    have here := step.files location node found file
    rw [if_neg fun same => apart.1 (Option.mem_toList.2 same)] at here
    obtain ⟨old, there, isFile, times⟩ := here
    obtain ⟨first, start, isFile', times'⟩ := records.others location old there isFile apart.2
    exact ⟨first, start, isFile', times'.trans times⟩

theorem Runs.records {disk later : Disk} {written : List Location}
    (runs : disk.Runs written later) : disk.Records written later := by
  induction runs with
  | start => exact .refl disk
  | step before newer next ih =>
      exact ih.advance (Int64.lt_of_le_of_lt before.now_le newer) next.advances

theorem Records.of_same {disk later other : Disk} {written : List Location}
    (records : disk.Records written later) (tree : other.tree = later.tree)
    (workingDirectory : other.workingDirectory = later.workingDirectory) :
    disk.Records written other where
  workingDirectory := workingDirectory.trans records.workingDirectory
  linkless := tree ▸ records.linkless
  newer := tree ▸ records.newer
  others := tree ▸ records.others

end Disk

end PackageAssay

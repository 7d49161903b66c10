import PackageAssay.Tracking
import PackageAssay.Proofs.Deeds
import PackageAssay.Proofs.Results
import PackageAssay.Proofs.WriteFrames

set_option autoImplicit false

namespace PackageAssay

theorem walkNames_entry {tree : FileTree} (linkless : tree.Linkless)
    (onLink onTarget : Location → List String → Except Fault Location) (names : List String)
    (here : Location) :
    walkNames tree .entry onLink names here = walkNames tree .target onTarget names here := by
  induction names generalizing here with
  | nil => rfl
  | cons name rest ih =>
      rw [walkNames, walkNames]
      cases found : tree.body? (name :: here) with
      | none => simp [ih]
      | some body =>
          cases body with
          | directory => simp [ih]
          | file content => simp [ih]
          | link target => exact absurd found (linkless _ _)

theorem walk_entry_eq {tree : FileTree} (linkless : tree.Linkless) (links : Nat)
    (names : List String) (place : Location) :
    walk tree .entry links names place = walk tree .target links names place := by
  cases links <;> exact walkNames_entry linkless _ _ names place

theorem suffix_wayFrom {names : List String} (forward : ".." ∉ names) (place : Location) :
    place <:+ wayFrom names place := by
  induction names generalizing place with
  | nil => exact List.suffix_rfl
  | cons name rest ih =>
      have first := List.ne_of_not_mem_cons forward
      have others := List.not_mem_of_not_mem_cons forward
      rw [wayFrom]
      split
      · exact ih others place
      · rw [if_neg first.symm]
        exact (List.suffix_cons name place).trans (ih others (name :: place))

/-- A way without `..` leads to what stands at its end, whatever happened elsewhere. -/
theorem walk_of_standing {tree later : FileTree} (linkless : tree.Linkless)
    (laterLinkless : later.Linkless) {links : Nat} {names : List String} {place last : Location}
    {body : NodeBody} (forward : ".." ∉ names)
    (held : tree.body? last = some body) (stands : later.body? last = some body)
    (walked : walk tree .target links names place = .ok last) :
    walk later .target links names place = .ok last := by
  induction names generalizing place with
  | nil =>
      rw [walk_nil] at walked ⊢
      exact walked
  | cons name rest ih =>
      have others := List.not_mem_of_not_mem_cons forward
      have before := directory_of_walk_cons _ _ _ _ walked
      have ends := last_eq_of_walk linkless walked
      -- What the walk passes stands above its end, which is still there.
      have directory : later.body? place = some .directory := by
        have above := suffix_wayFrom forward place
        rw [← ends] at above
        rcases FileTree.stands_above above stands with here | directory
        · rw [here, held] at before
          rw [here, stands, before]
        · exact directory
      cases firstStep_of_walk_cons _ _ _ _ walked with
      | mark mark on =>
          rw [walk_mark _ _ _ _ directory mark]
          exact ih others on
      | up dots on =>
          rw [dots] at forward
          exact absurd List.mem_cons_self forward
      | absent missing only here =>
          rw [here, missing] at held
          cases held
      | stay only entry => cases entry
      | follow target fewer descends found => exact absurd found (linkless _ _)
      | enter body' descends found noLink on =>
          have below := suffix_wayFrom others (name :: place)
          rw [← last_eq_of_walk linkless on] at below
          have next : ∃ there, later.body? (name :: place) = some there := by
            rcases FileTree.stands_above below stands with here | there
            · exact ⟨body, by rw [here, stands]⟩
            · exact ⟨_, there⟩
          obtain ⟨there, found'⟩ := next
          rw [walk_descend _ _ _ _ directory descends (by simp), found']
          cases there with
          | directory => exact ih others on
          | file content => exact ih others on
          | link target => exact absurd found' (laterLinkless _ _)

namespace Disk

variable {disk later : Disk} {path : Path} {node : Node}

theorem node_entry_eq (linkless : disk.tree.Linkless) (path : Path) :
    disk.node .entry path = disk.node .target path := by
  have located : disk.locate .entry path = disk.locate .target path := by
    simp only [locate, walk, walk_entry_eq linkless]
  rw [node, node, located]

theorem timesOrZero_of_node (linkless : disk.tree.Linkless)
    (found : disk.node .target path = .ok node) : disk.timesOrZero path = node.times := by
  rw [timesOrZero, times, node_entry_eq linkless, found]
  rfl

theorem fingerprint_of_file {content : Content} (found : disk.node .target path = .ok node)
    (body : node.body = .file content) :
    disk.fingerprint path = Sha1.hex content.toBytes := by
  apply fingerprint_of_read
  rw [read, found]
  simp only [bind, Except.bind, body]
  rfl

theorem fingerprint_ne_empty_iff :
    disk.fingerprint path ≠ "" ↔
      ∃ node, disk.node .target path = .ok node ∧ node.body.isFile = true := by
  constructor
  · intro some
    cases found : disk.node .target path with
    | error fault =>
        refine absurd ?_ some
        rw [fingerprint, read, found]
        rfl
    | ok node =>
        refine ⟨node, rfl, ?_⟩
        by_contra other
        refine absurd ?_ some
        rw [fingerprint, read, found]
        cases body : node.body with
        | file content => simp [body, NodeBody.isFile] at other
        | directory | link =>
            simp only [bind, Except.bind, body]
            rfl
  · rintro ⟨node, found, file⟩ empty
    cases body : node.body with
    | file content =>
        have long := Sha1.length_hex content.toBytes
        rw [← fingerprint_of_file found body, empty] at long
        cases long
    | directory => simp [body, NodeBody.isFile] at file
    | link target => simp [body, NodeBody.isFile] at file

theorem locate_of_standing {location : Location} {body : NodeBody}
    (linkless : disk.tree.Linkless) (laterLinkless : later.tree.Linkless)
    (workingDirectory : later.workingDirectory = disk.workingDirectory)
    (forward : ".." ∉ path.names) (located : disk.locate .target path = .ok location)
    (held : disk.tree.body? location = some body)
    (stands : later.tree.body? location = some body) :
    later.locate .target path = .ok location := by
  have sound := sound_of_locate located
  have marks : ".." ∉ path.steps := by
    obtain ⟨marks, steps, each⟩ := path.exists_marks
    rw [steps, List.mem_append]
    rintro (member | mark)
    · exact forward member
    · exact absurd (each ".." mark) (by decide)
  rw [locate_of_sound _ sound] at located ⊢
  rw [startOf_congr workingDirectory]
  exact walk_of_standing linkless laterLinkless marks held stands located

end Disk

namespace TrackedFile

variable {disk later : Disk} {root : Path} {entry : String} {deeds : List Deed}

theorem isModified_eq_false_iff :
    (ofEntry disk root entry).isModified later = false ↔
      later.fingerprint (root.join (filenameOf entry)) =
          disk.fingerprint (root.join (filenameOf entry)) ∧
        (later.timesOrZero (root.join (filenameOf entry))).content =
          (disk.timesOrZero (root.join (filenameOf entry))).content := by
  simp [isModified, ofEntry]

section File

variable {location : Location} {node : Node} (linkless : disk.tree.Linkless)
  (history : disk.History deeds later)
  (located : disk.locate .target (root.join (filenameOf entry)) = .ok location)
  (found : disk.tree.find? location = some node) (file : node.body.isFile = true)

include linkless history located found file

theorem stands_of_unmodified (unmodified : (ofEntry disk root entry).isModified later = false) :
    later.locate .target (root.join (filenameOf entry)) = .ok location ∧
      ∃ after, later.tree.find? location = some after ∧ after.body.isFile = true ∧
        after.times.content = node.times.content := by
  obtain ⟨same, times⟩ := isModified_eq_false_iff.1 unmodified
  have here : disk.node .target (root.join (filenameOf entry)) = .ok node := by
    rw [Disk.node_of_locate located, found]
  have some := Disk.fingerprint_ne_empty_iff.2 ⟨node, here, file⟩
  rw [← same] at some
  obtain ⟨after, there, isFile⟩ := Disk.fingerprint_ne_empty_iff.1 some
  rw [Disk.timesOrZero_of_node linkless here,
    Disk.timesOrZero_of_node (history.linkless linkless) there] at times
  obtain ⟨place, leads, stands⟩ := (Disk.node_eq_ok_iff _ _).1 there
  -- Without links the path leads nowhere else.
  have ends := Disk.placeOf_of_locate (history.linkless linkless) leads
  rw [Disk.placeOf, Disk.startOf_congr history.workingDirectory, ← Disk.placeOf,
    Disk.placeOf_of_locate linkless located] at ends
  subst ends
  exact ⟨leads, after, stands, isFile, times⟩

theorem isModified_of_touched (upToDate : node.times.changed ≤ disk.now)
    (touched : ∃ deed ∈ deeds, deed.touches location = true) :
    (ofEntry disk root entry).isModified later = true := by
  by_contra unmodified
  obtain ⟨-, after, stands, isFile, times⟩ :=
    stands_of_unmodified linkless history located found file (Bool.eq_false_iff.2 unmodified)
  have newer := history.now_lt_of_touched touched stands isFile
  have same : after.times.changed = node.times.changed := congrArg Prod.snd times
  rw [same] at newer
  exact Int64.not_lt.2 upToDate newer

theorem isModified_of_apart (apart : ∀ deed ∈ deeds, deed.touches location = false) :
    (ofEntry disk root entry).isModified later = false ↔
      later.locate .target (root.join (filenameOf entry)) = .ok location := by
  constructor
  · intro unmodified
    exact (stands_of_unmodified linkless history located found file unmodified).1
  · intro leads
    obtain ⟨after, stands, same, times⟩ := history.keeps_file apart found file
    have here : disk.node .target (root.join (filenameOf entry)) = .ok node := by
      rw [Disk.node_of_locate located, found]
    have there : later.node .target (root.join (filenameOf entry)) = .ok after := by
      rw [Disk.node_of_locate leads, stands]
    rw [isModified_eq_false_iff, Disk.timesOrZero_of_node linkless here,
      Disk.timesOrZero_of_node (history.linkless linkless) there]
    refine ⟨?_, times⟩
    cases body : node.body with
    | file content =>
        rw [Disk.fingerprint_of_file here body, Disk.fingerprint_of_file there (same.trans body)]
    | directory => simp [body, NodeBody.isFile] at file
    | link target => simp [body, NodeBody.isFile] at file

theorem locate_of_apart (apart : ∀ deed ∈ deeds, deed.touches location = false)
    (forward : ".." ∉ (root.join (filenameOf entry)).names) :
    later.locate .target (root.join (filenameOf entry)) = .ok location := by
  obtain ⟨after, stands, same, -⟩ := history.keeps_file apart found file
  have before : disk.tree.body? location = some node.body := by
    rw [FileTree.body?, found, Option.map_some]
  have here : later.tree.body? location = some node.body := by
    rw [FileTree.body?, stands, Option.map_some, same]
  exact Disk.locate_of_standing linkless (history.linkless linkless) history.workingDirectory
    forward located before here

end File

theorem isModified_of_absent (linkless : disk.tree.Linkless)
    (laterLinkless : later.tree.Linkless)
    (absent : ∀ node, disk.node .entry (root.join (filenameOf entry)) ≠ .ok node) :
    (ofEntry disk root entry).isModified later = true ↔
      ∃ node, later.node .entry (root.join (filenameOf entry)) = .ok node ∧
        (node.body.isFile = true ∨ node.times.content ≠ FileTimes.content {}) := by
  have nothing : disk.fingerprint (root.join (filenameOf entry)) = "" := by
    by_contra some
    obtain ⟨node, found, -⟩ := Disk.fingerprint_ne_empty_iff.1 some
    rw [← Disk.node_entry_eq linkless] at found
    exact absent node found
  have zero : disk.timesOrZero (root.join (filenameOf entry)) = {} := by
    rw [Disk.timesOrZero, Disk.times]
    cases found : disk.node .entry (root.join (filenameOf entry)) with
    | error fault => rfl
    | ok node => exact absurd found (absent node)
  -- So a file gives itself away by its fingerprint, and anything else by its times.
  rw [← Bool.not_eq_false, isModified_eq_false_iff, nothing, zero,
    Disk.node_entry_eq laterLinkless]
  constructor
  · intro differs
    by_cases some : later.fingerprint (root.join (filenameOf entry)) = ""
    · have times := fun same => differs ⟨some, same⟩
      cases found : later.node .target (root.join (filenameOf entry)) with
      | error fault =>
          rw [Disk.timesOrZero, Disk.times, Disk.node_entry_eq laterLinkless, found] at times
          exact absurd rfl times
      | ok node =>
          rw [Disk.timesOrZero_of_node laterLinkless found] at times
          exact ⟨node, rfl, .inr times⟩
    · obtain ⟨node, found, file⟩ := Disk.fingerprint_ne_empty_iff.1 some
      exact ⟨node, found, .inl file⟩
  · rintro ⟨node, found, file | times⟩ ⟨empty, same⟩
    · exact Disk.fingerprint_ne_empty_iff.2 ⟨node, found, file⟩ empty
    · rw [Disk.timesOrZero_of_node laterLinkless found] at same
      exact times same

end TrackedFile

/-- A file that is tracked is modified from the first deed on that touches it. Before that it is
not modified while the path leads to it, which a path without `..` does all the time. Where nothing
was, all that is there later is noticed, but for a directory with the times of a missing file. -/
theorem tracked_files_tell_of_deeds (disk later : Disk) (root : Path) (entry : String)
    (deeds : List Deed) (linkless : disk.tree.Linkless) (history : disk.History deeds later) :
    let path := root.join (filenameOf entry)
    let tracked := TrackedFile.ofEntry disk root entry
    (∀ location node, disk.locate .target path = .ok location →
      disk.tree.find? location = some node → node.body.isFile = true →
      node.times.changed ≤ disk.now →
      ((∃ deed ∈ deeds, deed.touches location = true) → tracked.isModified later = true) ∧
      ((∀ deed ∈ deeds, deed.touches location = false) →
        (tracked.isModified later = false ↔ later.locate .target path = .ok location) ∧
        (".." ∉ path.names → tracked.isModified later = false))) ∧
    ((∀ node, disk.node .entry path ≠ .ok node) →
      (tracked.isModified later = true ↔
        ∃ node, later.node .entry path = .ok node ∧
          (node.body.isFile = true ∨ node.times.content ≠ FileTimes.content {}))) := by
  intro path tracked
  refine ⟨fun location node located found file upToDate => ⟨fun touched => ?_, fun apart => ?_⟩,
    fun absent => ?_⟩
  · exact TrackedFile.isModified_of_touched linkless history located found file upToDate touched
  · have same := TrackedFile.isModified_of_apart linkless history located found file apart
    refine ⟨same, fun forward => same.2 ?_⟩
    exact TrackedFile.locate_of_apart linkless history located found file apart forward
  · exact TrackedFile.isModified_of_absent linkless (history.linkless linkless) absent

namespace Disk

def makeAt (disk : Disk) (time : Int64) (location : Location) (body : NodeBody) : Disk :=
  (Disk.make { disk with now := time } location body).toOption.getD disk

def removeAt (disk : Disk) (time : Int64) (top : Location) : Disk :=
  { disk with now := time, tree := (disk.tree.remove top).touch top.tail time }

namespace History

variable {disk middle : Disk} {deeds : List Deed} (history : disk.History deeds middle)
  (time : Int64) (newer : middle.now < time)

include history newer

theorem writeAt (location : Location) (content : Content)
    (makes : (Disk.make { middle with now := time } location (.file content)).isOk = true) :
    disk.History (deeds ++ [.write location]) (middle.makeAt time location (.file content)) :=
  .next history (Int64.le_of_lt newer) (fun _ => newer) (.create (eq_ok_getD middle makes))

theorem makeDirectoryAt (location : Location)
    (makes : (Disk.make { middle with now := time } location .directory).isOk = true) :
    disk.History (deeds ++ [.makeDirectory location]) (middle.makeAt time location .directory) :=
  .next history (Int64.le_of_lt newer) (fun _ => newer) (.makeDirectory (eq_ok_getD middle makes))

theorem removeAt (top : Location) (held : (middle.tree.body? top).isSome = true) :
    disk.History (deeds ++ [.remove top]) (middle.removeAt time top) := by
  obtain ⟨body, there⟩ := Option.isSome_iff_exists.1 held
  have does : Does { middle with now := time } (.remove top) (middle.removeAt time top) :=
    .remove there
  exact .next history (Int64.le_of_lt newer) (fun _ => newer) does

end History

end Disk

def configuredDisk : Disk where
  tree := {
    nodes := [
      (["conf", "etc"], ⟨.file (.ofText "x"), .madeAt 1⟩), (["etc"], ⟨.directory, .madeAt 1⟩),
      ([], ⟨.directory, .madeAt 1⟩)]
    rooted := by decide
    distinct := by decide
    nested := by decide }
  now := 2

def busyDisk : Disk := configuredDisk.makeAt 3 ["log"] (.file (.ofText ""))

def reinstalledDisk : Disk :=
  ((busyDisk.removeAt 4 ["etc"]).makeAt 5 ["etc"] .directory).makeAt 6 ["conf", "etc"]
    (.file (.ofText "x"))

theorem history_busyDisk : configuredDisk.History [.write ["log"]] busyDisk :=
  Disk.History.start.writeAt 3 (by decide) ["log"] (.ofText "") (by decide)

theorem history_reinstalledDisk : configuredDisk.History
    [.write ["log"], .remove ["etc"], .makeDirectory ["etc"], .write ["conf", "etc"]]
    reinstalledDisk :=
  ((history_busyDisk.removeAt 4 (by decide) ["etc"] (by decide)).makeDirectoryAt 5 (by decide)
    ["etc"] (by decide)).writeAt 6 (by decide) ["conf", "etc"] (.ofText "x") (by decide)

theorem tracked_files_tell_of_deeds_reinstalledDisk :
    let tracked := TrackedFile.ofEntry configuredDisk ⟨""⟩ "etc/conf*"
    let missing := TrackedFile.ofEntry configuredDisk ⟨""⟩ "log"
    configuredDisk.tree.Linkless ∧
      tracked.isModified busyDisk = false ∧ missing.isModified busyDisk = true ∧
      reinstalledDisk.read tracked.path = configuredDisk.read tracked.path ∧
      tracked.isModified reinstalledDisk = true := by
  intro tracked missing
  have linkless : configuredDisk.tree.Linkless := FileTree.linkless_of_nodes (by decide)
  have located : configuredDisk.locate .target ⟨"etc/conf"⟩ = .ok ["conf", "etc"] := by decide
  have absent : ∀ node, configuredDisk.node .entry ⟨"log"⟩ ≠ .ok node := by
    have fails : configuredDisk.node .entry ⟨"log"⟩ = .error .notFound := by decide
    intro node found
    rw [fails] at found
    cases found
  have first := tracked_files_tell_of_deeds configuredDisk busyDisk ⟨""⟩ "etc/conf*" _ linkless
    history_busyDisk
  have last := tracked_files_tell_of_deeds configuredDisk reinstalledDisk ⟨""⟩ "etc/conf*" _
    linkless history_reinstalledDisk
  have log := tracked_files_tell_of_deeds configuredDisk busyDisk ⟨""⟩ "log" _ linkless
    history_busyDisk
  refine ⟨linkless, ?_, ?_, by decide, ?_⟩
  · exact ((first.1 _ _ located rfl rfl (by decide)).2 (by decide)).2 (by decide)
  · exact (log.2 absent).2 ⟨⟨.file (.ofText ""), .madeAt 3⟩, by decide, .inl rfl⟩
  · exact (last.1 _ _ located rfl rfl (by decide)).1 (by decide)

def turningDisk : Disk where
  tree := {
    nodes := [
      (["b"], ⟨.file (.ofText "x"), .madeAt 1⟩), (["a"], ⟨.directory, .madeAt 1⟩),
      ([], ⟨.directory, .madeAt 1⟩)]
    rooted := by decide
    distinct := by decide
    nested := by decide }
  now := 2

def turnedDisk : Disk := turningDisk.removeAt 3 ["a"]

def returnedDisk : Disk := turnedDisk.makeAt 4 ["a"] .directory

theorem history_turnedDisk : turningDisk.History [.remove ["a"]] turnedDisk :=
  Disk.History.start.removeAt 3 (by decide) ["a"] (by decide)

theorem history_returnedDisk :
    turningDisk.History [.remove ["a"], .makeDirectory ["a"]] returnedDisk :=
  history_turnedDisk.makeDirectoryAt 4 (by decide) ["a"] (by decide)

/-- The clock has not come to zero yet. -/
def earlyDisk : Disk := { tree := .bare (.madeAt (-1)), now := -1 }

/-- No choice of deeds tells when a file is modified, where its path turns in a directory: when the
directory is removed the file seems modified, and when it is made again the file does not. And a
directory that is made at zero is not noticed. -/
theorem tracked_files_forget_directories :
    let tracked := TrackedFile.ofEntry turningDisk ⟨""⟩ "a/../b"
    let missing := TrackedFile.ofEntry earlyDisk ⟨""⟩ "d"
    (turningDisk.tree.Linkless ∧ turningDisk.isFile tracked.path = true ∧
      ∀ counts : Deed → Prop, ¬ ∀ deeds later, turningDisk.History deeds later →
        (tracked.isModified later = true ↔ ∃ deed ∈ deeds, counts deed)) ∧
    ∃ later, earlyDisk.History [.makeDirectory ["d"]] later ∧
      (∀ node, earlyDisk.node .entry missing.path ≠ .ok node) ∧
      later.isDirectory missing.path = true ∧ missing.isModified later = false := by
  intro tracked missing
  have linkless : turningDisk.tree.Linkless := FileTree.linkless_of_nodes (by decide)
  have located : turningDisk.locate .target (Path.join ⟨""⟩ (filenameOf "a/../b")) = .ok ["b"] := by
    decide
  refine ⟨⟨linkless, by decide, ?_⟩, earlyDisk.makeAt 0 ["d"] .directory,
    Disk.History.start.makeDirectoryAt 0 (by decide) ["d"] (by decide), ?_, by decide, by decide⟩
  · intro counts told
    have lost : tracked.isModified turnedDisk = true := by
      by_contra unmodified
      have leads := (TrackedFile.stands_of_unmodified linkless history_turnedDisk located rfl rfl
        (Bool.eq_false_iff.2 unmodified)).1
      exact absurd leads (by decide)
    have found : tracked.isModified returnedDisk = false :=
      (TrackedFile.isModified_of_apart linkless history_returnedDisk located rfl rfl
        (by decide)).2 (by decide)
    obtain ⟨deed, member, counted⟩ := (told _ _ history_turnedDisk).1 lost
    have returned := (told _ _ history_returnedDisk).2
      ⟨deed, List.mem_cons.2 (.inl (List.mem_singleton.1 member)), counted⟩
    exact Bool.eq_false_iff.1 found returned
  · have fails : earlyDisk.node .entry missing.path = .error .notFound := by decide
    intro node found
    rw [fails] at found
    cases found

end PackageAssay

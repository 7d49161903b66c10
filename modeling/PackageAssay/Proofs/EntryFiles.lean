import PackageAssay.Database.Repository
import PackageAssay.Proofs.Digests
import PackageAssay.Proofs.Directories

/-!
# The files of an entry on a disk

A disk holds the files of an entry in the directory to which the repository's path leads. Writing
a file of the entry changes that file alone, and reading gives what was written.
-/

set_option autoImplicit false

namespace PackageAssay

namespace SectionKey

theorem isName_fileName (key : SectionKey) : IsName key.fileName := by
  cases key <;> constructor <;> decide

theorem short_fileName (key : SectionKey) : key.fileName.utf8ByteSize ≤ Path.maxNameLength := by
  cases key <;> decide

theorem fileName_inj {key other : SectionKey} : key.fileName = other.fileName ↔ key = other := by
  cases key <;> cases other <;> decide

end SectionKey

structure EntryFile where
  text : String
  times : FileTimes

namespace EntryFile

def node (file : EntryFile) : Node := ⟨.file (.ofText file.text), file.times⟩

def state (file : EntryFile) : SectionState := ⟨Sha1.hex file.text.toUTF8, file.times⟩

def written (old : Option EntryFile) (text : String) (now : Int64) : EntryFile :=
  match old with
  | none => ⟨text, .madeAt now⟩
  | some file => ⟨text, file.times.changedAt now⟩

end EntryFile

abbrev EntryFiles := SectionKey → Option EntryFile

namespace EntryFiles

def empty : EntryFiles := fun _ => none

def put (now : Int64) (files : EntryFiles) (key : SectionKey) (text : String) : EntryFiles :=
  fun other => if other = key then some (.written (files key) text now) else files other

/-- Each section is written at a moment of its own. -/
def fill (moments : Nat → Int64) (files : EntryFiles) : List (SectionKey × String) → EntryFiles
  | [] => files
  | entry :: rest =>
      fill (fun count => moments (count + 1)) (files.put (moments 0) entry.1 entry.2) rest

theorem fill_of_notMem (moments : Nat → Int64) (files : EntryFiles)
    (sections : List (SectionKey × String)) (key : SectionKey)
    (absent : key ∉ sections.map Prod.fst) : files.fill moments sections key = files key := by
  induction sections generalizing moments files with
  | nil => rfl
  | cons entry rest ih =>
      rw [List.map_cons, List.mem_cons, not_or] at absent
      have later := ih (fun count => moments (count + 1)) (files.put (moments 0) entry.1 entry.2)
        absent.2
      rw [fill, later, put, if_neg absent.1]

theorem fill_of_mem (moments : Nat → Int64) (files : EntryFiles)
    (sections : List (SectionKey × String)) {key : SectionKey} {text : String}
    (once : (sections.map Prod.fst).Nodup) (member : (key, text) ∈ sections) :
    files.fill moments sections key =
      some (.written (files key) text (moments ((sections.map Prod.fst).idxOf key))) := by
  induction sections generalizing moments files with
  | nil => cases member
  | cons entry rest ih =>
      rw [List.map_cons, List.nodup_cons] at once
      rw [fill, List.map_cons]
      rcases List.mem_cons.1 member with rfl | later
      · rw [fill_of_notMem _ _ _ _ once.1, put, if_pos rfl, List.idxOf_cons_self]
      · have other : key ≠ entry.1 := by
          rintro rfl
          exact once.1 (List.mem_map.2 ⟨_, later, rfl⟩)
        rw [ih _ _ once.2 later, put, if_neg other, List.idxOf_cons_ne _ other.symm]

end EntryFiles

theorem text?_ofText (text : String) : (Content.ofText text).text? = some text := by
  have valid : text.toUTF8.IsValidUTF8 := text.isValidUTF8
  rw [Content.text?, Content.ofText, Content.toBytes, String.fromUTF8?, dif_pos valid]
  rfl

theorem toBytes_of_text? {content : Content} {text : String} (whole : content.text? = some text) :
    content.toBytes = text.toUTF8 := by
  unfold Content.text? String.fromUTF8? at whole
  split at whole
  · cases whole
    rfl
  · cases whole

namespace Repository

def writeSections (directory : Path) (sections : List (SectionKey × String))
    (snapshot : Snapshot) : Operation Snapshot :=
  sections.foldlM (fun snapshot (key, content) => writeSection directory key content snapshot)
    snapshot

section Writing

variable {disk later : Disk} {directory : Path}

theorem writeSection_eq_ok_iff (key : SectionKey) (text : String) (snapshot captured : Snapshot) :
    writeSection directory key text snapshot disk = .ok captured later ↔
      Operation.writeFile (directory.join key.fileName) (.ofText text) disk = .ok () later ∧
        captured = snapshot.insert key (.ofFile later (directory.join key.fileName)) := by
  simp only [writeSection, Operation.writeText, Operation.bind_eq_ok_iff,
    Operation.get_eq_ok_iff, Operation.pure_eq_ok_iff]
  constructor
  · rintro ⟨_, middle, done, _, _, ⟨rfl, rfl⟩, rfl, rfl⟩
    exact ⟨done, rfl⟩
  · rintro ⟨done, rfl⟩
    exact ⟨(), later, done, later, later, ⟨rfl, rfl⟩, rfl, rfl⟩

theorem writeSections_cons (entry : SectionKey × String) (rest : List (SectionKey × String))
    (snapshot captured : Snapshot) :
    writeSections directory (entry :: rest) snapshot disk = .ok captured later ↔
      ∃ found middle, writeSection directory entry.1 entry.2 snapshot disk = .ok found middle ∧
        writeSections directory rest found middle = .ok captured later := by
  rw [writeSections, List.foldlM_cons, Operation.bind_eq_ok_iff]
  rfl

theorem sound_of_writeFile {path : Path} {content : Content}
    (done : Operation.writeFile path content disk = .ok () later) : path.Sound := by
  obtain ⟨changed, wrote, -⟩ := (Operation.change_eq_ok_iff _).1 done
  cases located : disk.locate .place path with
  | ok place => exact Disk.sound_of_locate located
  | error fault =>
      rw [Disk.writeFile, located] at wrote
      cases wrote

theorem sound_of_writeSections (sections : List (SectionKey × String))
    (snapshot captured : Snapshot)
    (done : writeSections directory sections snapshot disk = .ok captured later) :
    ∀ entry ∈ sections, (directory.join entry.1.fileName).Sound := by
  induction sections generalizing disk snapshot with
  | nil => simp
  | cons entry rest ih =>
      obtain ⟨found, middle, first, others⟩ := (writeSections_cons _ _ _ _).1 done
      intro other member
      rcases List.mem_cons.1 member with rfl | later
      · exact sound_of_writeFile ((writeSection_eq_ok_iff _ _ _ _).1 first).1
      · exact ih found others other later

end Writing

end Repository

namespace Disk

structure ChangesWithin (disk : Disk) (place : Location) (later : Disk) : Prop where
  keeps : disk.Keeps later
  others : ∀ location : Location, location.tail ≠ place →
    later.tree.body? location = disk.tree.body? location

theorem ChangesWithin.refl (disk : Disk) (place : Location) : disk.ChangesWithin place disk :=
  ⟨.refl disk, fun _ _ => rfl⟩

theorem ChangesWithin.trans {disk later last : Disk} {place : Location}
    (first : disk.ChangesWithin place later) (next : later.ChangesWithin place last) :
    disk.ChangesWithin place last :=
  ⟨first.keeps.trans next.keeps,
    fun location other => (next.others location other).trans (first.others location other)⟩

theorem ChangesWithin.tick {disk later : Disk} {place : Location}
    (within : disk.ChangesWithin place later) : disk.ChangesWithin place later.tick :=
  ⟨within.keeps.trans later.keeps_tick, within.others⟩

theorem Made.changesWithin {disk made : Disk} {name : String} {place : Location}
    {body : NodeBody} (step : disk.Made (name :: place) body made) :
    disk.ChangesWithin place made := by
  refine ⟨step.keeps, ?_⟩
  intro location other
  rw [step.bodies, if_neg]
  rintro rfl
  exact other rfl

theorem find?_setContent (tree : FileTree) (location key : Location) (content : Content)
    (now : Int64) :
    (tree.setContent location content now).find? key =
      if key = location then (tree.find? key).map (Node.withContent content now)
      else tree.find? key :=
  FileTree.find?_change tree location _ _ key

theorem changesWithin_setContent (disk : Disk) (name : String) (place : Location)
    (content new : Content) (held : disk.tree.body? (name :: place) = some (.file content)) :
    disk.ChangesWithin place
      { disk with tree := disk.tree.setContent (name :: place) new disk.now } := by
  have elsewhere : ∀ location : Location, location ≠ name :: place →
      (disk.tree.setContent (name :: place) new disk.now).body? location =
        disk.tree.body? location := by
    intro location other
    rw [FileTree.body?, find?_setContent, if_neg other, FileTree.body?]
  refine ⟨⟨onward_of_moment_eq (moment_congr rfl rfl), rfl, ?_⟩, ?_⟩
  · intro location body found notFile
    have other : location ≠ name :: place := by
      rintro rfl
      rw [held] at found
      cases found
      cases notFile
    exact (elsewhere location other).trans found
  · intro location outside
    refine elsewhere location ?_
    rintro rfl
    exact outside rfl

theorem moment_of_writeFile {disk later : Disk} {path : Path} {content : Content}
    (done : disk.writeFile path content = .ok later) : later.moment = disk.moment := by
  cases located : disk.locate .place path with
  | error fault =>
      rw [writeFile, located] at done
      cases done
  | ok location =>
      rw [writeFile, located] at done
      simp only [bind, Except.bind] at done
      split at done
      · exact moment_of_make done
      · cases done
      · cases done
        exact moment_congr rfl rfl

section WriteFile

variable {disk : Disk} {path : Path} {name : String} {place : Location}
  (located : disk.locate .place path = .ok (name :: place))
  (directory : disk.tree.body? place = some .directory) (old : Option EntryFile)
  (held : disk.tree.find? (name :: place) = old.map EntryFile.node) (text : String)

include located directory held

theorem exists_changed_of_locate :
    ∃ changed, disk.writeFile path (.ofText text) = .ok changed ∧
      disk.ChangesWithin place changed ∧
      ∀ key : Location, key ≠ place → changed.tree.find? key =
        if key = name :: place then some (EntryFile.written old text disk.now).node
        else disk.tree.find? key := by
  cases old with
  | none =>
      have absent : disk.tree.body? (name :: place) = none := by simp [FileTree.body?, held]
      obtain ⟨made, done⟩ := exists_make (.file (.ofText text)) absent directory
      have step := made_of_make done
      refine ⟨made, ?_, step.changesWithin, step.nodes⟩
      rw [writeFile, located]
      simp only [bind, Except.bind, absent]
      exact done
  | some file =>
      have body : disk.tree.body? (name :: place) = some (.file (.ofText file.text)) := by
        simp [FileTree.body?, held, EntryFile.node]
      refine ⟨{ disk with tree := disk.tree.setContent (name :: place) (.ofText text) disk.now },
        ?_, ?_, ?_⟩
      · rw [writeFile, located]
        simp only [bind, Except.bind, body]
        rfl
      · exact changesWithin_setContent disk name place _ _ body
      · intro key _
        rw [find?_setContent]
        split
        · next here =>
            rw [here, held]
            simp [EntryFile.node, EntryFile.written, Node.withContent, NodeBody.isDirectory]
        · rfl

theorem writeFile_of_locate :
    ∃ later, Operation.writeFile path (.ofText text) disk = .ok () later ∧
      disk.ChangesWithin place later ∧ later.moment = (fun count => disk.moment (count + 1)) ∧
      ∀ key : Location, key ≠ place → later.tree.find? key =
        if key = name :: place then some (EntryFile.written old text disk.now).node
        else disk.tree.find? key := by
  obtain ⟨changed, done, within, nodes⟩ := exists_changed_of_locate located directory old held text
  have clock : changed.tick.moment = fun count => disk.moment (count + 1) :=
    funext fun count => congrFun (moment_of_writeFile done) (count + 1)
  exact ⟨changed.tick, (Operation.change_eq_ok_iff _).2 ⟨changed, done, rfl⟩, within.tick, clock,
    nodes⟩

end WriteFile

/-- The path leads to a directory, and what it holds in the directory of the given name are the
files of an entry. -/
structure Holds (disk : Disk) (path : Path) (name : String) (shelf : Location)
    (files : EntryFiles) : Prop where
  plain : IsName name
  short : name.utf8ByteSize ≤ Path.maxNameLength
  reached : disk.Reaches path shelf
  entry : disk.tree.body? (name :: shelf) = some .directory
  files : ∀ key : SectionKey,
    disk.tree.find? (key.fileName :: name :: shelf) = (files key).map EntryFile.node

namespace Holds

variable {disk : Disk} {path : Path} {name : String} {shelf : Location} {files : EntryFiles}
  (holds : disk.Holds path name shelf files)

include holds

theorem reaches_entry : disk.Reaches (path.join name) (name :: shelf) :=
  holds.reached.join holds.plain holds.short holds.entry

theorem body?_file (key : SectionKey) :
    disk.tree.body? (key.fileName :: name :: shelf) =
      (files key).map fun file => .file (.ofText file.text) := by
  rw [FileTree.body?, holds.files]
  cases files key <;> rfl

theorem locate_file (goal : Goal) (key : SectionKey)
    (sound : ((path.join name).join key.fileName).Sound) :
    disk.locate goal ((path.join name).join key.fileName) =
      .ok (key.fileName :: name :: shelf) := by
  refine holds.reaches_entry.locate_join key.isName_fileName key.short_fileName sound goal ?_
  right
  intro target
  rw [holds.body?_file]
  cases files key <;> simp

theorem node_file (goal : Goal) (key : SectionKey)
    (sound : ((path.join name).join key.fileName).Sound) :
    disk.node goal ((path.join name).join key.fileName) =
      match files key with
      | some file => .ok file.node
      | none => .error .notFound := by
  rw [node_of_locate (holds.locate_file goal key sound), holds.files]
  cases files key <;> rfl

theorem read_file (key : SectionKey) (sound : ((path.join name).join key.fileName).Sound) :
    disk.read ((path.join name).join key.fileName) =
      match files key with
      | some file => .ok (.ofText file.text)
      | none => .error .notFound := by
  rw [Disk.read, holds.node_file _ key sound]
  cases files key <;> rfl

theorem readText_file (key : SectionKey) (sound : ((path.join name).join key.fileName).Sound) :
    disk.readText ((path.join name).join key.fileName) =
      match files key with
      | some file => .ok file.text
      | none => .error .notFound := by
  rw [Disk.readText, holds.read_file key sound]
  cases files key with
  | none => rfl
  | some file =>
      simp only [bind, Except.bind, text?_ofText]
      rfl

theorem state_file (key : SectionKey) (sound : ((path.join name).join key.fileName).Sound) :
    SectionState.ofFile disk ((path.join name).join key.fileName) =
      ((files key).map EntryFile.state).getD {} := by
  rw [SectionState.ofFile, fingerprint, timesOrZero, times, holds.read_file key sound,
    holds.node_file _ key sound]
  cases files key with
  | none => rfl
  | some file =>
      simp only [Content.ofText, Content.toBytes, Sha1.hexOfReads_blocks, Option.getD_some]
      rfl

theorem of_written {later : Disk} (within : disk.ChangesWithin (name :: shelf) later)
    (key : SectionKey) (text : String)
    (nodes : ∀ location : Location, location ≠ name :: shelf → later.tree.find? location =
      if location = key.fileName :: name :: shelf then
        some (EntryFile.written (files key) text disk.now).node
      else disk.tree.find? location) :
    later.Holds path name shelf (files.put disk.now key text) where
  plain := holds.plain
  short := holds.short
  reached := within.keeps.reaches holds.reached
  entry := within.keeps.bodies _ _ holds.entry rfl
  files := by
    intro other
    rw [nodes _ (by simp), EntryFiles.put]
    by_cases same : other = key
    · simp [same]
    · have apart : other.fileName ≠ key.fileName := fun equal =>
        same (SectionKey.fileName_inj.1 equal)
      simp [same, apart, holds.files]

theorem writeSection (key : SectionKey) (text : String) (snapshot : Snapshot)
    (sound : ((path.join name).join key.fileName).Sound) :
    ∃ later, Repository.writeSection (path.join name) key text snapshot disk =
        .ok (snapshot.insert key (EntryFile.written (files key) text disk.now).state) later ∧
      later.Holds path name shelf (files.put disk.now key text) ∧
      disk.ChangesWithin (name :: shelf) later ∧
      later.moment = fun count => disk.moment (count + 1) := by
  obtain ⟨later, done, within, clock, nodes⟩ :=
    writeFile_of_locate (holds.locate_file .place key sound) holds.entry (files key)
      (holds.files key) text
  have after := holds.of_written within key text nodes
  refine ⟨later, ?_, after, within, clock⟩
  have captured := after.state_file key sound
  rw [EntryFiles.put, if_pos rfl, Option.map_some, Option.getD_some] at captured
  rw [← captured]
  exact (Repository.writeSection_eq_ok_iff _ _ _ _).2 ⟨done, rfl⟩

theorem writeSections (sections : List (SectionKey × String)) (snapshot : Snapshot)
    (sound : ∀ entry ∈ sections, ((path.join name).join entry.1.fileName).Sound) :
    ∃ captured later,
      Repository.writeSections (path.join name) sections snapshot disk = .ok captured later ∧
      later.Holds path name shelf (files.fill disk.moment sections) ∧
      disk.ChangesWithin (name :: shelf) later ∧
      ∀ key, captured.find? key =
        if key ∈ sections.map Prod.fst then (files.fill disk.moment sections key).map EntryFile.state
        else snapshot.find? key := by
  -- One section at a time; the snapshot is compared with what the entry holds in the end, so a
  -- section that is written again later counts with its last text.
  induction sections generalizing disk files snapshot with
  | nil => exact ⟨snapshot, disk, rfl, holds, .refl disk _, by simp⟩
  | cons entry rest ih =>
      obtain ⟨key, text⟩ := entry
      obtain ⟨middle, first, between, step, clock⟩ :=
        holds.writeSection key text snapshot (sound (key, text) (by simp))
      obtain ⟨captured, later, others, after, steps, states⟩ :=
        ih between _ fun entry member => sound entry (by simp [member])
      rw [clock] at after states
      refine ⟨captured, later, (Repository.writeSections_cons _ _ _ _).2 ⟨_, _, first, others⟩,
        after, step.trans steps, ?_⟩
      intro other
      rw [states, Snapshot.find?_insert, EntryFiles.fill, moment_zero]
      by_cases again : other ∈ rest.map Prod.fst
      · simp [again]
      · by_cases same : other = key
        · subst same
          rw [if_neg again, if_pos rfl, if_pos (by simp), EntryFiles.fill_of_notMem _ _ _ _ again,
            EntryFiles.put, if_pos rfl, Option.map_some]
        · simp [again, same]

end Holds

end Disk

end PackageAssay

import Mathlib.Data.List.Sort
import PackageAssay.Proofs.EntryReading
import PackageAssay.Proofs.FileHistory
import PackageAssay.Proofs.Results

set_option autoImplicit false

namespace PackageAssay

namespace Repository

variable {repository : Repository} {disk : Disk} {name directory : String}

/-- The directory from which a package is read, which is the first in byte order of those that
belong to the package. -/
def IsEntry (repository : Repository) (disk : Disk) (name directory : String) : Prop :=
  ∃ directories, repository.entryDirectories disk = .ok directories ∧ directory ∈ directories ∧
    BelongsTo name directory ∧ ∀ other ∈ directories, BelongsTo name other → directory ≤ other

theorem findEntry_of_isEntry (entry : repository.IsEntry disk name directory) :
    ∃ found, EntryName.parse? directory = some found ∧
      repository.findEntry disk name =
        .ok (some (repository.directory.join directory, found)) := by
  obtain ⟨directories, listed, member, ⟨found, parsed, named⟩, least⟩ := entry
  obtain ⟨before, after, split⟩ :=
    List.append_of_mem ((mem_sortedNames directories directory).2 member)
  refine ⟨found, parsed, ?_⟩
  rw [findEntry, listed]
  apply congrArg Except.ok
  apply List.findSome?_eq_some_iff.2
  refine ⟨before, directory, after, split, by simp [parsed, named], ?_⟩
  -- A directory that stands before this one is smaller, so that it does not belong.
  intro other earlier
  have smaller : other < directory := by
    have sorted := pairwise_sortedNames directories
    rw [split] at sorted
    exact (List.pairwise_append.1 sorted).2.2 other earlier directory (by simp)
  cases other' : EntryName.parse? other with
  | none => rfl
  | some parts =>
      dsimp only
      rw [if_neg]
      intro same
      have there := (mem_sortedNames directories other).1 (by simp [split, earlier])
      have greater := least other there ⟨parts, other', same⟩
      exact absurd smaller (String.not_lt.2 greater)

end Repository

/-- What a snapshot holds for a path: the state of the file, or nothing if there is no file. -/
inductive Disk.Captured (disk : Disk) (path : Path) : Option SectionState → Prop where
  | missing (absent : disk.readText path = .error .notFound) : Captured disk path none
  | present {text : String} (read : disk.readText path = .ok text) :
      Captured disk path (some (.ofFile disk path))

namespace Repository

variable {repository : Repository} {disk : Disk} {directory : Path} {key : SectionKey}
  {decode : String → PackageRecord → Decoded} {before after : DatabaseEntry}

theorem of_readSection (done : readSection disk directory key decode before = .ok after) :
    ∃ text, disk.readText (directory.join key.fileName) = .ok text ∧
      (decode text before.record).result = .ok after.record ∧
      after.snapshot =
        before.snapshot.insert key (.ofFile disk (directory.join key.fileName)) := by
  cases read : disk.readText (directory.join key.fileName) with
  | error fault =>
      rw [readSection, read] at done
      cases done
  | ok text =>
      rw [readSection_of_readText read] at done
      cases decoded : (decode text before.record).result with
      | error failure =>
          rw [decoded] at done
          cases done
      | ok record =>
          rw [decoded] at done
          cases done
          exact ⟨text, rfl, decoded, rfl⟩

theorem states_of_readSection (done : readSection disk directory key decode before = .ok after) :
    (∃ text, disk.readText (directory.join key.fileName) = .ok text) ∧
      ∀ other, after.snapshot.find? other =
        if other = key then some (.ofFile disk (directory.join key.fileName))
        else before.snapshot.find? other := by
  obtain ⟨text, read, -, captured⟩ := of_readSection done
  rw [captured]
  exact ⟨⟨text, read⟩, fun other => Snapshot.find?_insert _ key other _⟩

structure Captures (disk : Disk) (directory : Path) (keys : List SectionKey)
    (snapshot : Snapshot) : Prop where
  seen : ∀ key ∈ keys, disk.Captured (directory.join key.fileName) (snapshot.find? key)
  unseen : ∀ key, key ∉ keys → snapshot.find? key = none

theorem Captures.readSection {keys : List SectionKey}
    (captures : Captures disk directory keys before.snapshot)
    (done : Repository.readSection disk directory key decode before = .ok after) :
    Captures disk directory (key :: keys) after.snapshot := by
  obtain ⟨⟨text, read⟩, states⟩ := states_of_readSection done
  constructor
  · intro other member
    rw [states]
    split
    · next same =>
        rw [same]
        exact .present read
    · next apart => exact captures.seen other ((List.mem_cons.1 member).resolve_left apart)
  · intro other absent
    obtain ⟨apart, absent⟩ := not_or.1 (fun either => absent (List.mem_cons.2 either))
    rw [states, if_neg apart, captures.unseen other absent]

theorem Captures.readOptional {keys : List SectionKey}
    (captures : Captures disk directory keys before.snapshot) (fresh : key ∉ keys)
    (done : Repository.readOptional disk directory key decode before = .ok after) :
    Captures disk directory (key :: keys) after.snapshot := by
  unfold Repository.readOptional at done
  split at done
  · next absent =>
      cases done
      constructor
      · intro other member
        rcases List.mem_cons.1 member with rfl | earlier
        · rw [captures.unseen other fresh]
          exact .missing absent
        · exact captures.seen other earlier
      · intro other outside
        exact captures.unseen other fun earlier => outside (List.mem_cons_of_mem key earlier)
  · exact captures.readSection done

theorem captures_of_read {name found : String} {entry : DatabaseEntry}
    (isEntry : repository.IsEntry disk name found)
    (read : repository.read disk name = .ok (some entry)) :
    (∃ text, disk.readText ((repository.directory.join found).join SectionKey.desc.fileName) =
      .ok text) ∧
    Captures disk (repository.directory.join found) [.install, .depends, .files, .desc]
      entry.snapshot := by
  obtain ⟨parts, -, here⟩ := findEntry_of_isEntry isEntry
  simp only [Repository.read, here, bind_eq_ok_iff, Except.ok.injEq, exists_eq_left'] at read
  obtain ⟨_, desc, _, files, _, depends, _, install, done⟩ := read
  cases done
  have none : Captures disk (repository.directory.join found) [] {} := by
    refine ⟨by simp, ?_⟩
    intro key _
    cases key <;> rfl
  have captures := none.readSection desc
  have captures := captures.readOptional (by decide) files
  have captures := captures.readOptional (by decide) depends
  exact ⟨(states_of_readSection desc).1, captures.readOptional (by decide) install⟩

end Repository

def FileTree.timesAt (tree : FileTree) (location : Location) : FileTimes :=
  ((tree.find? location).map Node.times).getD {}

namespace Disk

variable {disk : Disk} {path : Path}

theorem exists_file_of_readText {text : String} (read : disk.readText path = .ok text) :
    ∃ node, disk.node .target path = .ok node ∧ node.body.isFile = true := by
  cases found : disk.node .target path with
  | error fault =>
      rw [readText, Disk.read, found] at read
      cases read
  | ok node =>
      refine ⟨node, rfl, ?_⟩
      cases body : node.body with
      | file content => rfl
      | directory | link =>
          simp only [readText, Disk.read, found, bind, Except.bind, body] at read
          cases read

theorem node_of_readText_notFound (absent : disk.readText path = .error .notFound) :
    disk.node .target path = .error .notFound := by
  cases found : disk.node .target path with
  | error fault =>
      rw [readText, Disk.read, found] at absent
      cases absent
      rfl
  | ok node =>
      -- What is there can fail to be a text, but it is found.
      simp only [readText, Disk.read, found, bind, Except.bind] at absent
      cases body : node.body with
      | directory | link =>
          rw [body] at absent
          cases absent
      | file content =>
          simp only [body, pure, Except.pure] at absent
          split at absent <;> cases absent

theorem Captured.sound {state : Option SectionState} (captured : disk.Captured path state)
    (some : path.text ≠ "") : path.Sound := by
  rw [← Path.check_eq_ok_iff]
  cases checked : path.check with
  | ok _ => rfl
  | error fault =>
      have refused : disk.node .target path = .error fault := by
        rw [node, locate, checked]
        rfl
      cases captured with
      | missing absent =>
          rw [node_of_readText_notFound absent] at refused
          cases refused
          exact absurd checked (Path.check_ne_notFound some)
      | present read =>
          obtain ⟨node, found, -⟩ := exists_file_of_readText read
          rw [found] at refused
          cases refused

/-- The path leads to a location where a file stands, or nothing. -/
structure Spots (disk : Disk) (path : Path) (location : Location) : Prop where
  located : ∀ goal, disk.locate goal path = .ok location
  regular : ∀ node, disk.tree.find? location = some node → node.body.isFile = true

section Spots

variable {location : Location} (spots : disk.Spots path location)

include spots

theorem Spots.isFile : disk.isFile path = (disk.tree.find? location).isSome := by
  rw [Disk.isFile, node_of_locate (spots.located .target)]
  cases found : disk.tree.find? location with
  | none => rfl
  | some node => exact spots.regular node found

theorem Spots.timesOrZero : disk.timesOrZero path = disk.tree.timesAt location := by
  rw [Disk.timesOrZero, times, node_of_locate (spots.located .entry), FileTree.timesAt]
  cases disk.tree.find? location <;> rfl

theorem Spots.times_of_captured {state : Option SectionState}
    (captured : disk.Captured path state) :
    (state.getD {}).times = disk.tree.timesAt location := by
  cases captured with
  | present read => exact spots.timesOrZero
  | missing absent =>
      have missing := node_of_readText_notFound absent
      rw [node_of_locate (spots.located .target)] at missing
      rw [FileTree.timesAt]
      cases found : disk.tree.find? location with
      | none => rfl
      | some node =>
          rw [found] at missing
          cases missing

end Spots

theorem Captured.spots {key : SectionKey} {place : Location} {state : Option SectionState}
    (linkless : disk.tree.Linkless) (reaches : disk.Reaches path place)
    (captured : disk.Captured (path.join key.fileName) state) :
    disk.Spots (path.join key.fileName) (key.fileName :: place) := by
  have plain := key.isName_fileName
  have some : (path.join key.fileName).text ≠ "" := by
    simp [Path.join_name path plain, plain.some]
  have located : ∀ goal, disk.locate goal (path.join key.fileName) = .ok (key.fileName :: place) :=
    fun goal => reaches.locate_join plain key.short_fileName (captured.sound some) goal
      (.inr (linkless _))
  refine ⟨located, ?_⟩
  intro node held
  have found : disk.node .target (path.join key.fileName) = .ok node := by
    rw [node_of_locate (located .target), held]
  cases captured with
  | missing absent =>
      rw [node_of_readText_notFound absent] at found
      cases found
  | present read =>
      obtain ⟨file, there, isFile⟩ := exists_file_of_readText read
      rw [found] at there
      cases there
      exact isFile

end Disk

theorem Repository.spots_of_read {repository : Repository} {disk : Disk} {name found : String}
    {entry : DatabaseEntry} (linkless : disk.tree.Linkless)
    (isEntry : repository.IsEntry disk name found)
    (read : repository.read disk name = .ok (some entry)) :
    ∃ place, disk.Reaches (repository.directory.join found) place ∧
      ∀ key : SectionKey,
        disk.Spots ((repository.directory.join found).join key.fileName)
          (key.fileName :: place) ∧
        (entry.snapshot.get key).times = disk.tree.timesAt (key.fileName :: place) := by
  obtain ⟨⟨text, desc⟩, captures⟩ := captures_of_read isEntry read
  obtain ⟨node, there, -⟩ := Disk.exists_file_of_readText desc
  obtain ⟨location, located, -⟩ := (Disk.node_eq_ok_iff _ _).1 there
  obtain ⟨place, reaches⟩ :=
    Disk.reaches_of_locate_join SectionKey.desc.isName_fileName located
  refine ⟨place, reaches, fun key => ?_⟩
  have captured := captures.seen key (by cases key <;> decide)
  have spots := captured.spots linkless reaches
  exact ⟨spots, spots.times_of_captured captured⟩

end PackageAssay

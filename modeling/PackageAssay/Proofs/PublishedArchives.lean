import PackageAssay.Proofs.MirroredDirectories
import PackageAssay.Proofs.WrittenEntries

set_option autoImplicit false

namespace PackageAssay

namespace Disk

variable {disk later : Disk} {path : Path}

/-- A file that was written can be written again, and then it is as if that had been written in
the first place. -/
theorem exists_writeFile_again {next : Disk} {content : Content} (linkless : disk.tree.Linkless)
    (done : Operation.writeFile path content disk = .ok () later)
    (same : ∀ location, next.tree.body? location = later.tree.body? location)
    (workingDirectory : next.workingDirectory = later.workingDirectory) (newer : Content) :
    ∃ last, Operation.writeFile path newer next = .ok () last ∧
      last.workingDirectory = disk.workingDirectory ∧
      ∀ location, last.tree.body? location =
        if location = disk.placeOf path then some (.file newer)
        else disk.tree.body? location := by
  obtain ⟨place, located, -, kept, bodies⟩ := written_of_writeFile done
  have there : next.locate .place path = .ok place := by
    rw [← (alike_of_same same workingDirectory).locate_eq]
    exact locate_later_of_writeFile done located (by simp)
  have held : next.tree.body? place = some (.file content) := by rw [same, bodies, if_pos rfl]
  obtain ⟨last, again⟩ := exists_writeFile there held newer
  obtain ⟨_, found, -, stays, written⟩ := written_of_writeFile again
  cases there.symm.trans found
  refine ⟨last, again, stays.trans (workingDirectory.trans kept), fun location => ?_⟩
  rw [written, same, bodies, placeOf_of_locate linkless located]
  by_cases here : location = place <;> simp [here]

end Disk

namespace Repository

def packedFrom (repository : Repository) (disk : Disk) (archive : Path)
    (children : List (String × NodeBody)) : Packed :=
  let gathered := gatherChildren disk archive repository.directory children
  Archive.pack gathered.failure gathered.entries

structure Publishes (repository : Repository) (archive : Path)
    (children : List (String × NodeBody)) (disk above made opened later : Disk) : Prop where
  parents : Operation.makeParents archive disk = .ok () above
  directory : Operation.makeDirectories repository.directory above = .ok () made
  listed : made.Lists repository.directory children
  header : Operation.writeFile archive (.bytes Gzip.header) made = .ok () opened
  complete : (repository.packedFrom opened archive children).failure = none
  filled : Operation.writeFile archive
    (.archive (repository.packedFrom opened archive children).archive) opened = .ok () later

variable {repository : Repository} {archive : Path} {disk later : Disk}

theorem publish_eq_ok_iff (sync : repository.archive = some archive) :
    repository.publish disk = .ok () later ↔ ∃ children above made opened,
      repository.Publishes archive children disk above made opened later := by
  have seen {found : Except Fault (List (String × NodeBody))} {children} :
      found.mapError Error.file = .ok children ↔ found = .ok children := by
    cases found <;> simp [Except.mapError]
  rw [publish, sync]
  simp only [Operation.bind_eq_ok_iff, Operation.look_eq_ok_iff, Operation.get_eq_ok_iff,
    seen]
  constructor
  · rintro ⟨_, above, parents, _, _, directory, found, made, ⟨listed, rfl⟩, _, _,
      header, _, opened, ⟨rfl, rfl⟩, _, last, filled, ended⟩
    have complete : (repository.packedFrom opened archive (sortedByName found)).failure = none := by
      cases failed : (repository.packedFrom opened archive (sortedByName found)).failure with
      | none => rfl
      | some fault =>
          rw [packedFrom] at failed
          simp only [failed] at ended
          cases ended
    rw [packedFrom] at complete
    simp only [complete] at ended
    obtain ⟨-, rfl⟩ := (Operation.pure_eq_ok_iff _ _).1 ended
    exact ⟨sortedByName found, above, made, opened, parents, directory, ⟨found, listed, rfl⟩,
      header, complete, filled⟩
  · rintro ⟨_, above, made, opened, publishes⟩
    obtain ⟨found, listed, rfl⟩ := publishes.listed
    refine ⟨(), above, publishes.parents, (), made, publishes.directory, found, made,
      ⟨listed, rfl⟩, (), opened, publishes.header,
      opened, opened, ⟨rfl, rfl⟩, (), later, publishes.filled, ?_⟩
    have complete := publishes.complete
    rw [packedFrom] at complete
    simp only [complete]
    rfl

theorem publish_of_no_archive (none : repository.archive = none) (disk : Disk) :
    repository.publish disk = .ok () disk := by
  rw [publish, none]
  rfl

namespace Publishes

variable {children : List (String × NodeBody)} {above made opened : Disk}
  (publishes : repository.Publishes archive children disk above made opened later)
  (linkless : disk.tree.Linkless)

include publishes linkless

theorem grows_above : disk.Grows (disk.startOf archive) archive.names above := by
  have grows := Disk.grows_makeParents linkless archive
  rwa [Operation.leaves, publishes.parents] at grows

theorem grows_made : above.Grows (disk.startOf repository.directory) repository.directory.names
    made := by
  have before := publishes.grows_above linkless
  have grows := Disk.grows_makeDirectories (before.linkless linkless) repository.directory
  rwa [Operation.leaves, publishes.directory, before.keeps.startOf] at grows

theorem keeps_made : disk.Keeps made :=
  (publishes.grows_above linkless).keeps.trans (publishes.grows_made linkless).keeps

theorem linkless_made : made.tree.Linkless :=
  (publishes.grows_made linkless).linkless ((publishes.grows_above linkless).linkless linkless)

theorem linkless_opened : opened.tree.Linkless :=
  Disk.linkless_of_writeFile (publishes.linkless_made linkless) publishes.header

theorem linkless_later : later.tree.Linkless :=
  Disk.linkless_of_writeFile (publishes.linkless_opened linkless) publishes.filled

theorem keeps_opened : disk.Keeps opened :=
  (publishes.keeps_made linkless).trans
    (Disk.keeps_of_writeFile (publishes.linkless_made linkless) publishes.header)

theorem keeps_filled : made.Keeps later :=
  (Disk.keeps_of_writeFile (publishes.linkless_made linkless) publishes.header).trans
    (Disk.keeps_of_writeFile (publishes.linkless_opened linkless) publishes.filled)

theorem keeps_later : disk.Keeps later :=
  (publishes.keeps_made linkless).trans (publishes.keeps_filled linkless)

theorem named_opened (named : disk.tree.Named) : opened.tree.Named := by
  have above := (publishes.grows_above linkless).named (Disk.isName_of_descends archive) named
  have made := (publishes.grows_made linkless).named
    (Disk.isName_of_descends repository.directory) above
  exact Disk.named_of_writeFile (publishes.linkless_made linkless) made publishes.header

theorem bodies_opened (location : Location) : opened.tree.body? location =
    if location = disk.placeOf archive then some (.file (.bytes Gzip.header))
    else made.tree.body? location := by
  rw [Disk.bodies_of_writeFile (publishes.linkless_made linkless) publishes.header,
    (publishes.keeps_made linkless).placeOf]

theorem bodies_later (location : Location) : later.tree.body? location =
    if location = disk.placeOf archive then
      some (.file (.archive (repository.packedFrom opened archive children).archive))
    else made.tree.body? location := by
  rw [Disk.bodies_of_writeFile (publishes.linkless_opened linkless) publishes.filled,
    (publishes.keeps_opened linkless).placeOf]
  split
  · rfl
  · next other => rw [publishes.bodies_opened linkless, if_neg other]

theorem frame {location : Location} (other : location ≠ disk.placeOf archive) :
    later.tree.body? location = disk.tree.body? location ∨
      disk.tree.body? location = none ∧ later.tree.body? location = some .directory ∧
        ∃ path ∈ [archive, repository.directory], ∃ first, first <+: path.names ∧
          location = wayFrom first (disk.startOf path) := by
  rw [publishes.bodies_later linkless, if_neg other]
  rcases (publishes.grows_above linkless).bodies location with same | ⟨absent, there, way⟩
  · rcases (publishes.grows_made linkless).bodies location with kept | ⟨missing, made, way⟩
    · exact .inl (kept.trans same)
    · exact .inr ⟨same.symm.trans missing, made, repository.directory, by simp, way⟩
  · have stays := (publishes.grows_made linkless).keeps.bodies location .directory there rfl
    exact .inr ⟨absent, stays, archive, by simp, way⟩

theorem exists_top : made.locate .target repository.directory =
      .ok (disk.placeOf repository.directory) ∧
    made.tree.body? (disk.placeOf repository.directory) = some .directory ∧
    ∀ name body, (name, body) ∈ children ↔
      made.tree.body? (name :: disk.placeOf repository.directory) = some body := by
  obtain ⟨place, located, directory, held⟩ := publishes.listed.exists_place
  have here := Disk.placeOf_of_locate (publishes.linkless_made linkless) located
  rw [(publishes.keeps_made linkless).placeOf] at here
  subst here
  exact ⟨located, directory, held⟩

theorem reaches_later : later.Reaches repository.directory (disk.placeOf repository.directory) := by
  obtain ⟨located, directory, -⟩ := publishes.exists_top linkless
  exact (publishes.keeps_filled linkless).reaches (Disk.reaches_of_locate located directory)

theorem locate_later : later.locate .target repository.directory =
    .ok (disk.placeOf repository.directory) :=
  (publishes.reaches_later linkless).locate
    (Disk.sound_of_locate (publishes.exists_top linkless).1)

variable (outside : ¬Location.within (disk.placeOf archive)
  (disk.placeOf repository.directory) = true)

include outside

omit publishes linkless in
theorem below_ne_archive (names : List String) :
    names.reverse ++ disk.placeOf repository.directory ≠ disk.placeOf archive := by
  intro same
  apply outside
  rw [← same, Location.within, List.isSuffixOf_iff_suffix]
  exact List.suffix_append _ _

theorem mirrors (named : disk.tree.Named) :
    Mirrors later.tree (disk.placeOf repository.directory)
      (repository.packedFrom opened archive children).archive.entries := by
  obtain ⟨-, -, held⟩ := publishes.exists_top linkless
  have apart := below_ne_archive outside
  have keeps := publishes.keeps_opened linkless
  have openedNamed := publishes.named_opened linkless named
  have ended : (gatherChildren opened archive repository.directory children).failure = none :=
    Archive.ending_of_pack publishes.complete
  have heldOpened : ∀ name body, (name, body) ∈ children ↔
      opened.tree.body? (name :: disk.placeOf repository.directory) = some body := by
    intro name body
    rw [held, publishes.bodies_opened linkless, if_neg]
    exact apart [name]
  have covers := covers_gatherChildren (publishes.linkless_opened linkless) openedNamed
    (keeps.placeOf repository.directory) (by rwa [keeps.placeOf])
    publishes.listed.pairwise heldOpened ended
  have entries : (repository.packedFrom opened archive children).archive.entries =
      (gatherChildren opened archive repository.directory children).entries :=
    covers.entries_pack openedNamed publishes.complete
  rw [entries]
  -- The archive is no part of the directory, and nothing else is written.
  have same : ∀ names : List String,
      later.tree.body? (names.reverse ++ disk.placeOf repository.directory) =
        opened.tree.body? (names.reverse ++ disk.placeOf repository.directory) := by
    intro names
    rw [publishes.bodies_later linkless, publishes.bodies_opened linkless, if_neg (apart names),
      if_neg (apart names)]
  exact (covers.of_same same).mirrors
    (Disk.named_of_writeFile (publishes.linkless_opened linkless) openedNamed publishes.filled)

section Again

variable {next : Disk} (same : ∀ location, next.tree.body? location = later.tree.body? location)
  (workingDirectory : next.workingDirectory = later.workingDirectory)

include same

omit outside in
theorem linkless_next : next.tree.Linkless := by
  intro location target
  rw [same]
  exact publishes.linkless_later linkless location target

include workingDirectory

omit outside in
-- Where a path led while the directories were made, it leads from then on.
theorem leads_next {path : Path} {names : List String} {left : Nat} {place : Location}
    (leads : Leads made.tree maxLinks names (made.startOf path) left place) :
    Leads next.tree maxLinks names (next.startOf path) left place := by
  have keeps := publishes.keeps_filled linkless
  exact Disk.leads_of_later (workingDirectory.trans keeps.workingDirectory)
    (fun location body found other => (same location).trans (keeps.bodies location body found other))
    leads

omit outside in
theorem makeParents_next : Operation.makeParents archive next = .ok () next := by
  obtain ⟨place, located, -⟩ := Disk.written_of_writeFile publishes.header
  obtain ⟨left, parent, leads⟩ := Disk.leads_of_locate located
  exact Disk.makeParents_again publishes.parents (publishes.linkless_next linkless same)
    (publishes.leads_next linkless same workingDirectory leads)

omit outside in
theorem makeDirectories_next :
    Operation.makeDirectories repository.directory next = .ok () next := by
  obtain ⟨located, directory, -⟩ := publishes.exists_top linkless
  obtain ⟨left, leads⟩ := Disk.reaches_of_locate located directory
  exact Disk.makeDirectories_again publishes.directory (publishes.linkless_next linkless same)
    (publishes.leads_next linkless same workingDirectory leads)

theorem lists_next : next.Lists repository.directory children := by
  obtain ⟨located, directory, -⟩ := publishes.exists_top linkless
  obtain ⟨found, listed, sorted⟩ := publishes.listed
  rw [← sorted]
  refine Disk.sorted_children_congr listed located ?_ ?_ fun name => ?_
  · rw [← (alike_of_same same workingDirectory).locate_eq]
    exact publishes.locate_later linkless
  · exact (same _).trans ((publishes.keeps_filled linkless).bodies _ _ directory rfl)
  · rw [same, publishes.bodies_later linkless, if_neg]
    exact below_ne_archive outside [name]

theorem again : ∃ opened' last,
    repository.Publishes archive children next next next opened' last ∧
      repository.packedFrom opened' archive children =
        repository.packedFrom opened archive children ∧
      ∀ location, last.tree.body? location = later.tree.body? location := by
  obtain ⟨opened', header, kept, bodies⟩ := Disk.exists_writeFile_again
    (publishes.linkless_opened linkless) publishes.filled same workingDirectory
    (.bytes Gzip.header)
  -- With the archive open again, all is as it was when it was open first.
  have still : ∀ location, opened'.tree.body? location = opened.tree.body? location := by
    intro location
    rw [bodies, (publishes.keeps_opened linkless).placeOf, publishes.bodies_opened linkless]
    by_cases here : location = disk.placeOf archive <;> simp [here]
  have packed : repository.packedFrom opened' archive children =
      repository.packedFrom opened archive children := by
    rw [packedFrom, packedFrom, gatherChildren_of_same still kept]
  obtain ⟨last, filled, -, written⟩ := Disk.exists_writeFile_again
    (publishes.linkless_next linkless same) header (fun _ => rfl) rfl
    (.archive (repository.packedFrom opened' archive children).archive)
  refine ⟨opened', last, ?_, packed, ?_⟩
  · exact {
      parents := publishes.makeParents_next linkless same workingDirectory
      directory := publishes.makeDirectories_next linkless same workingDirectory
      listed := publishes.lists_next linkless outside same workingDirectory
      header := header
      complete := packed ▸ publishes.complete
      filled := filled }
  · intro location
    have place : next.placeOf archive = disk.placeOf archive := by
      rw [← (publishes.keeps_later linkless).placeOf, Disk.placeOf, Disk.placeOf,
        Disk.startOf_congr workingDirectory]
    rw [written, place, packed, same, publishes.bodies_later linkless]
    by_cases here : location = disk.placeOf archive <;> simp [here]

end Again

section Entries

variable {text : String} (inward : (Path.mk text).Inward) (key : SectionKey)

include inward

theorem holdsText_later (holds : disk.HoldsText (repository.directory.join text) key) :
    later.HoldsText (repository.directory.join text) key := by
  obtain ⟨sound, place, found, reaches, held⟩ := holds
  have keeps := publishes.keeps_later linkless
  refine ⟨sound, place, found, keeps.reaches reaches, ?_⟩
  obtain ⟨left, leads⟩ := reaches
  have here : place = disk.placeOf (repository.directory.join text) := leads.last_eq linkless
  rw [Disk.placeOf_join_inward inward] at here
  have apart : key.fileName :: place ≠ disk.placeOf archive := by
    have other := below_ne_archive outside ((Path.mk text).names ++ [key.fileName])
    simpa [here] using other
  rcases publishes.frame linkless apart with same | ⟨absent, -⟩
  · exact same.trans held
  · rw [held] at absent
    cases absent

theorem text?_of_readText (named : disk.tree.Named) {found : String}
    (read : later.readText ((repository.directory.join text).join key.fileName) = .ok found) :
    (repository.packedFrom opened archive children).archive.text?
      ((Path.mk text).names ++ [key.fileName]) = some found := by
  obtain ⟨place, content, located, body, readable⟩ := Disk.file_of_readText read
  have here := Disk.placeOf_of_locate (publishes.linkless_later linkless) located
  rw [Disk.placeOf_join key.isName_fileName, Disk.placeOf_join_inward inward,
    (publishes.keeps_later linkless).placeOf] at here
  subst here
  exact (publishes.mirrors linkless outside named).text?_eq (by simp) (by simpa using body) readable

omit key in
theorem legible_later (holds : ∀ key ∈ [SectionKey.desc, SectionKey.depends],
    disk.HoldsText (repository.directory.join text) key) :
    Legible later (repository.directory.join text) := fun key member =>
  (publishes.holdsText_later linkless outside inward key (holds key member)).exists_readText

omit key in
theorem record?_eq (named : disk.tree.Named)
    (legible : Legible later (repository.directory.join text)) (bare : PackageRecord) :
    (repository.packedFrom opened archive children).archive.record? ⟨text⟩ bare =
      some (recordIn later (repository.directory.join text) bare) := by
  obtain ⟨desc, first⟩ := legible .desc (by simp)
  obtain ⟨depends, second⟩ := legible .depends (by simp)
  rw [Archive.record?, recordIn_of_readText first second,
    publishes.text?_of_readText linkless outside inward .desc named first,
    publishes.text?_of_readText linkless outside inward .depends named second]
  rfl

end Entries

end Publishes

end Repository

/-- A publish that succeeds leaves an archive of what is below the directory of the repository.
Nothing else changes but for directories on the way, and as long as nothing changes another publish
writes the same archive. An entry inside the directory is read from the archive as from there, and
among such entries are those that the handle has written. The local repository is not published. -/
theorem published_archive_mirrors_directory (repository handle : Repository) (archive : Path)
    (records : List PackageRecord) (start disk later : Disk)
    (sync : repository.archive = some archive)
    (linkless : start.tree.Linkless) (named : start.tree.Named)
    (wrote : repository.Wrote start records handle disk)
    (outside : ¬Location.within (disk.placeOf archive)
      (disk.placeOf repository.directory) = true)
    (published : handle.publish disk = .ok () later) :
    (∃ top packed,
      later.locate .target repository.directory = .ok top ∧
      later.read archive = .ok (.archive packed) ∧
      Mirrors later.tree top packed.entries ∧
      (∀ location, location ≠ disk.placeOf archive →
        later.tree.body? location = disk.tree.body? location ∨
        disk.tree.body? location = none ∧ later.tree.body? location = some .directory ∧
          ∃ path ∈ [archive, repository.directory], ∃ first, first <+: path.names ∧
            location = wayFrom first (disk.startOf path)) ∧
      (∀ next : Disk, next.workingDirectory = later.workingDirectory →
        (∀ location, next.tree.body? location = later.tree.body? location) →
          ∃ last, handle.publish next = .ok () last ∧
            last.read archive = .ok (.archive packed) ∧
            ∀ location, last.tree.body? location = later.tree.body? location) ∧
      (∀ entry, (Path.mk entry).Inward →
        Repository.Legible later (repository.directory.join entry) → ∀ bare,
          packed.record? ⟨entry⟩ bare =
            some (Repository.recordIn later (repository.directory.join entry) bare)) ∧
      ∀ record ∈ records, (Path.mk record.dbname).Inward →
        Repository.Legible later (repository.directory.join record.dbname)) ∧
    ∀ (root : Path) (layout : Layout) (references : NameMap Snapshot) (other : Disk),
      { Repository.ofName Repository.localName root layout with references }.publish other =
        .ok () other := by
  constructor
  · obtain ⟨goesOn, texts⟩ := wrote.holdsTexts linkless named
    obtain ⟨-, directory, unchanged⟩ := wrote.same
    rw [← unchanged] at sync
    rw [← directory] at outside texts ⊢
    obtain ⟨children, above, made, opened, publishes⟩ :=
      (Repository.publish_eq_ok_iff sync).1 published
    refine ⟨_, _, publishes.locate_later goesOn.linkless,
      Disk.read_of_writeFile publishes.filled,
      publishes.mirrors goesOn.linkless outside goesOn.named,
      fun location other => publishes.frame goesOn.linkless other, ?_, ?_, ?_⟩
    · intro next workingDirectory same
      obtain ⟨opened', last, again, packed, bodies⟩ :=
        publishes.again goesOn.linkless outside same workingDirectory
      refine ⟨last, (Repository.publish_eq_ok_iff sync).2 ⟨_, _, _, _, again⟩, ?_, bodies⟩
      rw [← packed]
      exact Disk.read_of_writeFile again.filled
    · intro entry inward legible bare
      exact publishes.record?_eq goesOn.linkless outside inward goesOn.named legible bare
    · intro record member inward
      refine publishes.legible_later goesOn.linkless outside inward ?_
      simpa using texts record member
  · intro root layout references other
    exact Repository.publish_of_no_archive rfl other

def coreRepository : Repository := .ofName "core" ⟨""⟩ { dbpath := "db" }

def coreArchive : Path := ⟨"db/core.fdb"⟩

theorem outside_coreArchive {disk : Disk} (atRoot : disk.workingDirectory = []) :
    ¬Location.within (disk.placeOf coreArchive) (disk.placeOf coreRepository.directory) = true := by
  rw [Disk.placeOf, Disk.placeOf, Disk.startOf, Disk.startOf, atRoot]
  decide

def stockedDisk : Disk where
  tree := {
    nodes := [
      (["notes", "inner", "outer", "core", "db"], ⟨.file (.ofText "seen"), .madeAt 1⟩),
      (["inner", "outer", "core", "db"], ⟨.directory, .madeAt 1⟩),
      (["outer", "core", "db"], ⟨.directory, .madeAt 1⟩),
      (["core", "db"], ⟨.directory, .madeAt 1⟩), (["db"], ⟨.directory, .madeAt 1⟩),
      ([], ⟨.directory, .madeAt 1⟩)]
    rooted := by decide
    distinct := by decide
    nested := by decide }
  now := 2

theorem published_archive_mirrors_directory_stockedDisk :
    stockedDisk.tree.Linkless ∧ stockedDisk.tree.Named ∧
    coreRepository.archive = some coreArchive ∧
    ∃ handle disk later packed,
      coreRepository.Wrote stockedDisk [.bare "foo" "1.0-1"] handle disk ∧
      (¬Location.within (disk.placeOf coreArchive)
        (disk.placeOf coreRepository.directory) = true) ∧
      handle.publish disk = .ok () later ∧
      later.read coreArchive = .ok (.archive packed) ∧
      (∃ entry ∈ packed.entries, entry.names = ["outer", "inner", "notes"] ∧
        entry.body = .file "seen".toUTF8) ∧
      ∀ bare, packed.record? ⟨"foo-1.0-1"⟩ bare =
        some (Repository.recordIn later (coreRepository.directory.join "foo-1.0-1") bare) := by
  have linkless : stockedDisk.tree.Linkless := FileTree.linkless_of_nodes (by decide)
  have named : stockedDisk.tree.Named := FileTree.named_of_nodes (by decide)
  have sync : coreRepository.archive = some coreArchive := by decide
  have run : Operation.succeedsWith (fun _ later =>
      later.locate .target coreRepository.directory == .ok ["core", "db"] &&
        later.tree.body? ["notes", "inner", "outer", "core", "db"] ==
          some (.file (.ofText "seen")))
      (coreRepository.write (.bare "foo" "1.0-1") >>= fun written => written.1.publish)
      stockedDisk = true := by
    decide +kernel
  obtain ⟨_, later, done, there⟩ := (Operation.succeedsWith_iff _ _).1 run
  simp only [Bool.and_eq_true, beq_iff_eq] at there
  obtain ⟨⟨handle, snapshot⟩, disk, written, published⟩ :=
    (Operation.bind_eq_ok_iff _ _ _).1 done
  have wrote : coreRepository.Wrote stockedDisk [.bare "foo" "1.0-1"] handle disk :=
    .write stockedDisk.now stockedDisk.ahead .nothing written
  have outside := outside_coreArchive (wrote.holdsTexts linkless named).1.workingDirectory
  obtain ⟨top, packed, located, read, mirrors, -, -, told, legible⟩ :=
    (published_archive_mirrors_directory coreRepository handle coreArchive _ stockedDisk disk later
      sync linkless named wrote outside published).1
  refine ⟨linkless, named, sync, handle, disk, later, packed, wrote, outside, published, read, ?_,
    told _ (by decide) (legible (.bare "foo" "1.0-1") (by simp) (by decide))⟩
  cases located.symm.trans there.1
  exact (mirrors.files ["outer", "inner", "notes"] _).2 ⟨by simp, _, there.2, rfl⟩

/-- The name of a package may lead out of the directory. Its entry is written and read there, and
the archive knows nothing of it. -/
theorem entry_outside_is_not_published :
    newDisk.tree.Linkless ∧ newDisk.tree.Named ∧
    coreRepository.archive = some coreArchive ∧
    ∃ handle disk later packed,
      coreRepository.Wrote newDisk [.bare "../x" "1-1"] handle disk ∧
      (¬Location.within (disk.placeOf coreArchive)
        (disk.placeOf coreRepository.directory) = true) ∧
      handle.publish disk = .ok () later ∧
      later.read coreArchive = .ok (.archive packed) ∧
      (∀ bare, packed.record? ⟨"../x-1-1"⟩ bare = none) ∧
      Repository.recordIn later (coreRepository.directory.join "../x-1-1") (.bare "../x" "1-1") =
        .ok (.bare "../x" "1-1") := by
  have linkless : newDisk.tree.Linkless := FileTree.linkless_of_nodes (by decide)
  have named : newDisk.tree.Named := FileTree.named_of_nodes (by decide)
  have run : Operation.succeedsWith (fun _ later =>
      later.read coreArchive == .ok (.archive ⟨[]⟩) &&
      Repository.recordIn later (coreRepository.directory.join "../x-1-1") (.bare "../x" "1-1") ==
        .ok (.bare "../x" "1-1"))
      (coreRepository.write (.bare "../x" "1-1") >>= fun written => written.1.publish)
      newDisk = true := by
    decide +kernel
  obtain ⟨_, later, done, seen⟩ := (Operation.succeedsWith_iff _ _).1 run
  simp only [Bool.and_eq_true, beq_iff_eq] at seen
  obtain ⟨⟨handle, snapshot⟩, disk, written, published⟩ :=
    (Operation.bind_eq_ok_iff _ _ _).1 done
  have wrote : coreRepository.Wrote newDisk [.bare "../x" "1-1"] handle disk :=
    .write newDisk.now newDisk.ahead .nothing written
  exact ⟨linkless, named, by decide, handle, disk, later, ⟨[]⟩, wrote,
    outside_coreArchive (wrote.holdsTexts linkless named).1.workingDirectory, published, seen.1,
    fun _ => rfl, seen.2⟩

end PackageAssay

import PackageAssay.Proofs.MadeDirectories

/-!
# Entries that a handle has written

Later writes of the same handle may change what an entry says, but its files stay where they are
and hold texts.
-/

set_option autoImplicit false

namespace PackageAssay

namespace Disk

variable {disk middle later : Disk} {path : Path}

theorem isName_of_descends (path : Path) :
    ∀ name ∈ path.names, Descends name → IsName name :=
  fun _ member descends => Path.isName_of_mem_names member descends.notDots

theorem keeps_of_writeFile {content : Content} (linkless : disk.tree.Linkless)
    (done : Operation.writeFile path content disk = .ok () later) : disk.Keeps later :=
  (confined_writeFile linkless (Location.within_self _) done).keeps

theorem linkless_of_writeFile {content : Content} (linkless : disk.tree.Linkless)
    (done : Operation.writeFile path content disk = .ok () later) : later.tree.Linkless :=
  (confined_writeFile linkless (Location.within_self _) done).linkless linkless

theorem bodies_of_writeFile {content : Content} (linkless : disk.tree.Linkless)
    (done : Operation.writeFile path content disk = .ok () later) (location : Location) :
    later.tree.body? location =
      if location = disk.placeOf path then some (.file content) else disk.tree.body? location := by
  obtain ⟨place, located, -, -, bodies⟩ := written_of_writeFile done
  rw [bodies, placeOf_of_locate linkless located]

theorem named_of_writeFile {content : Content} (linkless : disk.tree.Linkless)
    (named : disk.tree.Named) (done : Operation.writeFile path content disk = .ok () later) :
    later.tree.Named := by
  obtain ⟨location, located, noDirectory, -, bodies⟩ := written_of_writeFile done
  intro name place found
  rw [bodies] at found
  split at found
  · next here =>
      subst here
      by_cases absent : disk.tree.body? (name :: place) = none
      · have sound := sound_of_locate located
        rw [locate_of_sound _ sound] at located
        obtain ⟨last, parent, ends, member, descends⟩ :=
          exists_name_of_walk linkless (Path.steps_ne_nil sound.2.1) located absent
        cases ends
        obtain ⟨marks, steps, each⟩ := path.exists_marks
        rw [steps] at member
        have inside := (List.mem_append.1 member).resolve_right
          fun mark => descends.notMark (each name mark)
        exact isName_of_descends path name inside descends
      · exact named name place absent
  · exact named name place found

/-- Directories stay, and so do files that hold texts, though what they say may change. -/
structure GoesOn (disk later : Disk) : Prop where
  workingDirectory : later.workingDirectory = disk.workingDirectory
  linkless : later.tree.Linkless
  named : later.tree.Named
  others : ∀ (location : Location) (body : NodeBody), disk.tree.body? location = some body →
    body.isFile = false → later.tree.body? location = some body
  texts : ∀ location text, disk.tree.body? location = some (.file (.ofText text)) →
    ∃ other, later.tree.body? location = some (.file (.ofText other))

theorem GoesOn.refl (linkless : disk.tree.Linkless) (named : disk.tree.Named) :
    disk.GoesOn disk :=
  ⟨rfl, linkless, named, fun _ _ held _ => held, fun _ text held => ⟨text, held⟩⟩

theorem GoesOn.trans (first : disk.GoesOn middle) (next : middle.GoesOn later) :
    disk.GoesOn later where
  workingDirectory := next.workingDirectory.trans first.workingDirectory
  linkless := next.linkless
  named := next.named
  others := fun location body held other =>
    next.others location body (first.others location body held other) other
  texts := by
    intro location text held
    obtain ⟨other, there⟩ := first.texts location text held
    exact next.texts location other there

theorem GoesOn.reaches (goesOn : disk.GoesOn later) {place : Location}
    (reaches : disk.Reaches path place) : later.Reaches path place := by
  obtain ⟨left, leads⟩ := reaches
  exact ⟨left, leads_of_later goesOn.workingDirectory goesOn.others leads⟩

theorem goesOn_makeDirectories (linkless : disk.tree.Linkless) (named : disk.tree.Named)
    (done : Operation.makeDirectories path disk = .ok () later) : disk.GoesOn later := by
  have grows := grows_makeDirectories linkless path
  rw [Operation.leaves, done] at grows
  refine ⟨grows.keeps.workingDirectory, grows.linkless linkless,
    grows.named (isName_of_descends path) named, grows.keeps.bodies, ?_⟩
  intro location text held
  rcases grows.bodies location with same | ⟨absent, -⟩
  · exact ⟨text, same.trans held⟩
  · rw [held] at absent
    cases absent

theorem goesOn_writeFile {text : String} (linkless : disk.tree.Linkless)
    (named : disk.tree.Named) (done : Operation.writeFile path (.ofText text) disk = .ok () later) :
    disk.GoesOn later := by
  have keeps := keeps_of_writeFile linkless done
  refine ⟨keeps.workingDirectory, linkless_of_writeFile linkless done,
    named_of_writeFile linkless named done, keeps.bodies, ?_⟩
  obtain ⟨place, -, -, -, bodies⟩ := written_of_writeFile done
  intro location other held
  rw [bodies]
  split
  · exact ⟨text, rfl⟩
  · exact ⟨other, held⟩

def HoldsText (disk : Disk) (directory : Path) (key : SectionKey) : Prop :=
  (directory.join key.fileName).Sound ∧ ∃ place text, disk.Reaches directory place ∧
    disk.tree.body? (key.fileName :: place) = some (.file (.ofText text))

theorem HoldsText.goesOn {directory : Path} {key : SectionKey} (holds : disk.HoldsText directory key)
    (goesOn : disk.GoesOn later) : later.HoldsText directory key := by
  obtain ⟨sound, place, text, reaches, held⟩ := holds
  obtain ⟨other, there⟩ := goesOn.texts _ text held
  exact ⟨sound, place, other, goesOn.reaches reaches, there⟩

theorem HoldsText.exists_readText {directory : Path} {key : SectionKey}
    (holds : disk.HoldsText directory key) :
    ∃ text, disk.readText (directory.join key.fileName) = .ok text := by
  obtain ⟨sound, place, text, reaches, held⟩ := holds
  have located := reaches.locate_join key.isName_fileName key.short_fileName sound .target
    (.inr fun target => by simp [held])
  obtain ⟨node, found, body⟩ := Option.map_eq_some_iff.1 held
  have reached := (node_eq_ok_iff .target node).2 ⟨_, located, found⟩
  refine ⟨text, ?_⟩
  rw [readText, read, reached]
  simp only [bind, Except.bind, body, pure, Except.pure, text?_ofText]

theorem holdsText_of_writeFile {directory : Path} {key : SectionKey} {text : String}
    (linkless : disk.tree.Linkless)
    (done : Operation.writeFile (directory.join key.fileName) (.ofText text) disk =
      .ok () later) :
    later.HoldsText directory key := by
  obtain ⟨location, located, -, -, bodies⟩ := written_of_writeFile done
  have sound := sound_of_locate located
  obtain ⟨place, reaches⟩ := reaches_of_locate_join key.isName_fileName located
  have here := reaches.locate_join key.isName_fileName key.short_fileName sound .place
    (.inr fun target => linkless _ _)
  cases located.symm.trans here
  refine ⟨sound, place, text, (keeps_of_writeFile linkless done).reaches reaches, ?_⟩
  rw [bodies, if_pos rfl]

end Disk

namespace Repository

variable {repository handle next : Repository} {disk later : Disk} {directory : Path}

theorem goesOn_writeSections (linkless : disk.tree.Linkless) (named : disk.tree.Named)
    (sections : List (SectionKey × String)) {snapshot captured : Snapshot}
    (done : writeSections directory sections snapshot disk = .ok captured later) :
    disk.GoesOn later ∧ ∀ entry ∈ sections, later.HoldsText directory entry.1 := by
  induction sections generalizing disk snapshot with
  | nil =>
      cases done
      exact ⟨.refl linkless named, by simp⟩
  | cons entry rest ih =>
      obtain ⟨found, middle, first, others⟩ := (writeSections_cons _ _ _ _).1 done
      have written := ((writeSection_eq_ok_iff _ _ _ _).1 first).1
      have here := Disk.goesOn_writeFile linkless named written
      obtain ⟨on, held⟩ := ih here.linkless here.named others
      refine ⟨here.trans on, ?_⟩
      intro other member
      rcases List.mem_cons.1 member with rfl | further
      · exact (Disk.holdsText_of_writeFile linkless written).goesOn on
      · exact held other further

theorem goesOn_write {record : PackageRecord} {snapshot : Snapshot}
    (linkless : disk.tree.Linkless) (named : disk.tree.Named)
    (written : repository.write record disk = .ok (next, snapshot) later) :
    disk.GoesOn later ∧
      later.HoldsText (repository.directory.join record.dbname) .desc ∧
      later.HoldsText (repository.directory.join record.dbname) .depends := by
  obtain ⟨middle, made, filled, -⟩ := (write_eq_ok_iff _ _ _).1 written
  have first := Disk.goesOn_makeDirectories linkless named made
  obtain ⟨on, held⟩ := goesOn_writeSections first.linkless first.named _ filled
  exact ⟨first.trans on, held (.desc, _) (desc_mem_sectionsOf repository record),
    held (.depends, _) (depends_mem_sectionsOf repository record)⟩

/-- The handle has written the records one after the other, the last one first, at any times. -/
inductive Wrote (repository : Repository) (start : Disk) :
    List PackageRecord → Repository → Disk → Prop
  | nothing : Wrote repository start [] repository start
  | write {records : List PackageRecord} {record : PackageRecord} {handle next : Repository}
      {disk later : Disk} {snapshot : Snapshot} (now : Int64) (ahead : List Int64)
      (before : Wrote repository start records handle disk)
      (done : handle.write record { disk with now := now, ahead := ahead } =
        .ok (next, snapshot) later) :
      Wrote repository start (record :: records) next later

theorem Wrote.same {start : Disk} {records : List PackageRecord}
    (wrote : repository.Wrote start records handle disk) :
    handle.name = repository.name ∧ handle.directory = repository.directory ∧
      handle.archive = repository.archive := by
  induction wrote with
  | nothing => exact ⟨rfl, rfl, rfl⟩
  | write now ahead before done ih =>
      obtain ⟨-, -, -, rfl⟩ := (write_eq_ok_iff _ _ _).1 done
      exact ih

theorem Wrote.holdsTexts {start : Disk} {records : List PackageRecord}
    (linkless : start.tree.Linkless) (named : start.tree.Named)
    (wrote : repository.Wrote start records handle disk) :
    start.GoesOn disk ∧ ∀ record ∈ records,
      disk.HoldsText (repository.directory.join record.dbname) .desc ∧
      disk.HoldsText (repository.directory.join record.dbname) .depends := by
  induction wrote with
  | nothing => exact ⟨.refl linkless named, by simp⟩
  | @write records record handle next disk later snapshot now ahead before done ih =>
      obtain ⟨goesOn, held⟩ := ih
      -- Only the clock goes on between two writes.
      have waited : disk.GoesOn { disk with now := now, ahead := ahead } :=
        ⟨rfl, goesOn.linkless, goesOn.named, fun _ _ there _ => there,
          fun _ text there => ⟨text, there⟩⟩
      obtain ⟨on, desc, depends⟩ := goesOn_write waited.linkless waited.named done
      rw [before.same.2.1] at desc depends
      refine ⟨goesOn.trans (waited.trans on), ?_⟩
      intro other member
      rcases List.mem_cons.1 member with rfl | earlier
      · exact ⟨desc, depends⟩
      · obtain ⟨firstText, secondText⟩ := held other earlier
        exact ⟨firstText.goesOn (waited.trans on), secondText.goesOn (waited.trans on)⟩

end Repository

end PackageAssay

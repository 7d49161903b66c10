import PackageAssay.Proofs.StoreRefinement

set_option autoImplicit false

namespace PackageAssay

/-- The scriptlets of the first record are left under the second one. -/
def LeavesScriptlets (repository : Repository) (first second : PackageRecord) : Prop :=
  repository.isLocal = true ∧ first.scriptlets.isEmpty = false ∧
    second.scriptlets.isEmpty = true

instance (repository : Repository) (first second : PackageRecord) :
    Decidable (LeavesScriptlets repository first second) := inferInstanceAs (Decidable (_ ∧ _))

theorem decodeTexts_with_install (texts : SectionKey → Option String)
    (silent : texts .install = none) (text : String) (record : PackageRecord) :
    decodeTexts (fun key => if key = .install then some text else texts key) record =
      (decodeTexts texts record).map (decodeInstall text) := by
  -- Scriptlets are decoded last, and into what the other sections gave.
  simp only [decodeTexts, silent, reduceCtorEq, if_false, if_true, bind, Except.bind]
  cases decodeText (texts .desc) decodeDesc record with
  | error failure => rfl
  | ok record =>
  dsimp only
  cases decodeText (texts .files) decodeFiles record with
  | error failure => rfl
  | ok record =>
  dsimp only
  cases decodeText (texts .depends) decodeDepends record with
  | error failure => rfl
  | ok record => rfl

section Files

variable (repository : Repository) (first second : PackageRecord)

theorem lookup_or_of_leaves (leaves : LeavesScriptlets repository first second)
    (key : SectionKey) :
    ((repository.sectionsOf second).lookup key).or ((repository.sectionsOf first).lookup key) =
      if key = .install then some (encodeInstall first.scriptlets)
      else (repository.sectionsOf second).lookup key := by
  obtain ⟨installed, some, none⟩ := leaves
  cases key <;> simp [lookup_sectionsOf, installed, some, none]

theorem lookup_or_of_not_leaves (clean : ¬ LeavesScriptlets repository first second)
    (key : SectionKey) :
    ((repository.sectionsOf second).lookup key).or ((repository.sectionsOf first).lookup key) =
      (repository.sectionsOf second).lookup key := by
  by_cases installed : repository.isLocal = true
  · by_cases silent : second.scriptlets.isEmpty = true
    · have none : first.scriptlets.isEmpty ≠ false := fun some => clean ⟨installed, some, silent⟩
      cases key <;> simp [lookup_sectionsOf, installed, silent, none]
    · cases key <;> simp [lookup_sectionsOf, installed, silent]
  · cases key <;> simp [lookup_sectionsOf, installed]

def rewrittenFiles (moments later : Nat → Int64) : EntryFiles :=
  (filesOf repository first moments).fill later (repository.sectionsOf second)

theorem texts_rewrittenFiles (moments later : Nat → Int64) (key : SectionKey) :
    (rewrittenFiles repository first second moments later).texts key =
      ((repository.sectionsOf second).lookup key).or
        ((repository.sectionsOf first).lookup key) := by
  rw [rewrittenFiles, EntryFiles.texts_fill _ _ _ (Repository.nodup_sectionsOf repository second),
    texts_filesOf]

def rewrittenRecord : Except Error PackageRecord :=
  (storedRecord second repository.kind).map fun stored =>
    if LeavesScriptlets repository first second then
      decodeInstall (encodeInstall first.scriptlets) stored
    else stored

theorem decodeTexts_rewrittenFiles (moments later : Nat → Int64) :
    decodeTexts (rewrittenFiles repository first second moments later).texts
      (.bare second.name second.version) = rewrittenRecord repository first second := by
  rw [rewrittenRecord, ← decodeTexts_sectionsOf]
  by_cases leaves : LeavesScriptlets repository first second
  · have silent : (repository.sectionsOf second).lookup .install = none := by
      simp [lookup_sectionsOf, leaves.2.2]
    have texts : (rewrittenFiles repository first second moments later).texts = fun key =>
        if key = .install then some (encodeInstall first.scriptlets)
        else (repository.sectionsOf second).lookup key := by
      funext key
      rw [texts_rewrittenFiles, lookup_or_of_leaves _ _ _ leaves]
    simp only [texts, leaves, if_true]
    exact decodeTexts_with_install _ silent _ _
  · have texts : (rewrittenFiles repository first second moments later).texts = fun key =>
        (repository.sectionsOf second).lookup key := by
      funext key
      rw [texts_rewrittenFiles, lookup_or_of_not_leaves _ _ _ leaves]
    simp only [texts, leaves, if_false]
    cases decodeTexts (fun key => (repository.sectionsOf second).lookup key)
      (.bare second.name second.version) <;> rfl

end Files

section Rewrite

variable {repository repository₁ repository₂ : Repository} {first second : PackageRecord}
  {snapshot₁ snapshot₂ : Snapshot} {disk disk₁ between disk₂ : Disk} {moments later : Nat → Int64}

theorem holdsEntry_of_rewrite (sameName : second.name = first.name)
    (sameVersion : second.version = first.version) (plain : IsName first.dbname)
    (settled : repository.Settled disk) (vacant : repository.Vacant disk first.dbname)
    (unclaimed : repository.Unclaimed disk first.name)
    (written₁ : repository.write first disk = .ok (repository₁, snapshot₁) disk₁)
    (tree : between.tree = disk₁.tree)
    (workingDirectory : between.workingDirectory = disk₁.workingDirectory)
    (written₂ : repository₁.write second between = .ok (repository₂, snapshot₂) disk₂) :
    repository₂ =
        (repository.remember first.name snapshot₁).remember second.name snapshot₂ ∧
    ∃ made,
      Operation.makeDirectories (repository.directory.join first.dbname) disk = .ok () made ∧
      disk.Onward made ∧
      ∃ shelf,
        repository.HoldsEntry disk₂ second.name second.dbname shelf
          (rewrittenFiles repository first second made.moment between.moment) ∧
        ∀ key, snapshot₂.find? key =
          if key ∈ (repository.sectionsOf second).map Prod.fst then
            (rewrittenFiles repository first second made.moment between.moment key).map
              EntryFile.state
          else none := by
  have sameDirectory : second.dbname = first.dbname := by
    rw [PackageRecord.dbname, sameName, sameVersion, PackageRecord.dbname]
  -- The second write goes on with the entry that the first one left.
  obtain ⟨rfl, made, makes, onward, shelf, entry, -⟩ :=
    Repository.holdsEntry_of_write plain settled vacant unclaimed written₁
  rw [← sameName, ← sameDirectory, ← filesOf] at entry
  have changed := (entry.congr tree workingDirectory).remember first.name snapshot₁
  obtain ⟨snapshot, last, again, filled, states⟩ := changed.write
  rw [written₂] at again
  cases again
  exact ⟨rfl, made, makes, onward, shelf,
    ⟨filled.holds, filled.some, filled.sound, filled.only⟩, states⟩

theorem read_of_rewritten {shelf : Location} (hyphen : second.version.toList.count '-' = 1)
    (entry : repository.HoldsEntry disk₂ second.name second.dbname shelf
      (rewrittenFiles repository first second moments later)) :
    repository.read disk₂ second.name =
      (rewrittenRecord repository first second).map fun stored =>
        some ⟨stored, (rewrittenFiles repository first second moments later).capture⟩ := by
  have desc := EntryFiles.fill_of_mem later (filesOf repository first moments) _
    (Repository.nodup_sectionsOf repository second) (Repository.desc_mem_sectionsOf repository second)
  rw [entry.read_eq hyphen desc, decodeTexts_rewrittenFiles]

theorem exists_first_write (sameDirectory : second.dbname = first.dbname)
    (plain : IsName first.dbname) (settled : repository.Settled disk)
    (vacant : repository.Vacant disk first.dbname)
    (unclaimed : repository.Unclaimed disk first.name)
    (written₁ : repository.write first disk = .ok (repository₁, snapshot₁) disk₁) :
    ∃ snapshot last, repository.write second disk =
      .ok (repository.remember second.name snapshot, snapshot) last := by
  -- Only the directory can be refused, and both records are written to the same one.
  obtain ⟨middle, made, -, -⟩ := (Repository.write_eq_ok_iff _ _ _).1 written₁
  obtain ⟨-, shelf, entry⟩ := Repository.holdsEntry_of_makeDirectories plain settled vacant
    unclaimed made (Repository.sound_of_write written₁)
  obtain ⟨snapshot, last, sections, -⟩ := entry.writeSections (repository.sectionsOf second)
  rw [← sameDirectory] at made sections
  exact ⟨snapshot, last, (Repository.write_eq_ok_iff _ _ _).2 ⟨middle, made, sections, rfl⟩⟩

theorem rewrittenFiles_eq_none (clean : ¬ LeavesScriptlets repository first second)
    (key : SectionKey) (absent : key ∉ (repository.sectionsOf second).map Prod.fst) :
    rewrittenFiles repository first second moments later key = none := by
  have texts := texts_rewrittenFiles repository first second moments later key
  rw [lookup_or_of_not_leaves _ _ _ clean, lookup_eq_none_iff_notMem.2 absent] at texts
  exact Option.map_eq_none_iff.1 texts

theorem rewrittenFiles_install (leaves : LeavesScriptlets repository first second) :
    rewrittenFiles repository first second moments later .install =
      some ⟨encodeInstall first.scriptlets, .madeAt (moments 3)⟩ := by
  obtain ⟨installed, some, silent⟩ := leaves
  have absent : SectionKey.install ∉ (repository.sectionsOf second).map Prod.fst := by
    simp [Repository.sectionsOf, installed, silent]
  rw [rewrittenFiles, EntryFiles.fill_of_notMem _ _ _ _ absent, filesOf_eq, lookup_sectionsOf,
    position_install ⟨installed, some⟩]
  simp [installed, some]

theorem eq_install_of_leaves (leaves : LeavesScriptlets repository first second)
    {key : SectionKey} (absent : key ∉ (repository.sectionsOf second).map Prod.fst) :
    key = .install := by
  cases key <;> simp [Repository.sectionsOf, leaves.1] at absent ⊢

theorem sectionChanged_rewrittenFiles (states : ∀ key, snapshot₂.find? key =
      if key ∈ (repository.sectionsOf second).map Prod.fst then
        (rewrittenFiles repository first second moments later key).map EntryFile.state
      else none) (key : SectionKey) :
    Snapshot.sectionChanged snapshot₂
        (rewrittenFiles repository first second moments later).capture key = true ↔
      key = .install ∧ LeavesScriptlets repository first second ∧ moments 3 ≠ 0 := by
  have state := states key
  rw [← EntryFiles.find?_capture] at state
  by_cases stands : key ∈ (repository.sectionsOf second).map Prod.fst
  · rw [if_pos stands] at state
    have kept : ¬ (key = .install ∧ LeavesScriptlets repository first second ∧ moments 3 ≠ 0) := by
      rintro ⟨rfl, ⟨installed, -, silent⟩, -⟩
      simp [Repository.sectionsOf, installed, silent] at stands
    simp [Snapshot.sectionChanged, Snapshot.get, state, kept]
  · rw [if_neg stands] at state
    -- What the second write does not write is not in its snapshot, but is read if the first one
    -- left it. At the epoch it has no times to be told by.
    by_cases leaves : LeavesScriptlets repository first second
    · obtain rfl := eq_install_of_leaves leaves stands
      have after : (rewrittenFiles repository first second moments later).capture.get .install =
          EntryFile.state ⟨encodeInstall first.scriptlets, .madeAt (moments 3)⟩ := by
        rw [EntryFiles.get_capture, rewrittenFiles_install leaves]
        rfl
      have before : snapshot₂.get .install = {} := by
        rw [Snapshot.get, state]
        rfl
      by_cases epoch : moments 3 = 0
      · rw [epoch] at after ⊢
        simp [Snapshot.sectionChanged, before, after, EntryFile.state, FileTimes.madeAt]
      · have differs : ((0 : Int64), (0 : Int64)) ≠ (moments 3, moments 3) := fun same =>
          epoch (Prod.mk.inj same).1.symm
        have stands := (state_isZero_madeAt (encodeInstall first.scriptlets) (moments 3)).2 epoch
        simp only [Snapshot.sectionChanged, before, after, stands, leaves, epoch, ne_eq,
          not_false_eq_true, true_and, Bool.false_eq_true, and_false, if_false, iff_true]
        exact bne_iff_ne.2 differs
    · have after : (rewrittenFiles repository first second moments later).capture.find? key =
          none := by
        rw [EntryFiles.find?_capture, rewrittenFiles_eq_none leaves _ stands]
        rfl
      simp [Snapshot.sectionChanged, Snapshot.get, state, after, leaves]

theorem isModified_rewrittenFiles (states : ∀ key, snapshot₂.find? key =
      if key ∈ (repository.sectionsOf second).map Prod.fst then
        (rewrittenFiles repository first second moments later key).map EntryFile.state
      else none) :
    snapshot₂.isModified (rewrittenFiles repository first second moments later).capture = true ↔
      LeavesScriptlets repository first second ∧ moments 3 ≠ 0 := by
  simp [Snapshot.isModified_iff, sectionChanged_rewrittenFiles states]

/-- The second of two writes of a package replaces the first one, so that the entry reads like one
that was written once and does not count as modified, if and only if no scriptlets are left under
a record that can be read at all. Left scriptlets go unnoticed only if they are read as nothing and
were written at the epoch. What is read has them. -/
theorem rewrite_replaces_iff {time : Int64} {onwards : List Int64}
    (sameName : second.name = first.name)
    (sameVersion : second.version = first.version) (name : '/' ∉ first.name.toList)
    (version : '/' ∉ first.version.toList) (hyphen : first.version.toList.count '-' = 1)
    (settled : repository.Settled disk) (vacant : repository.Vacant disk first.dbname)
    (unclaimed : repository.Unclaimed disk first.name)
    (written₁ : repository.write first disk = .ok (repository₁, snapshot₁) disk₁)
    (written₂ : repository₁.write second { disk₁ with now := time, ahead := onwards } =
      .ok (repository₂, snapshot₂) disk₂) :
    ∃ made repository₃ snapshot₃ disk₃,
      Operation.makeDirectories (repository.directory.join first.dbname) disk = .ok () made ∧
      disk.Onward made ∧
      repository.write second disk = .ok (repository₃, snapshot₃) disk₃ ∧
      (((repository₂.read disk₂ second.name).map (Option.map DatabaseEntry.record) =
          (repository₃.read disk₃ second.name).map (Option.map DatabaseEntry.record) ∧
        ∀ entry, repository₂.read disk₂ second.name = .ok (some entry) →
          repository₂.isModified second.name entry.snapshot = false) ↔
        ¬ (LeavesScriptlets repository first second ∧
          ∃ stored, storedRecord second repository.kind = .ok stored ∧
            (decodeInstall (encodeInstall first.scriptlets) stored ≠ stored ∨
              made.moment 3 ≠ 0))) ∧
      (repository₂.read disk₂ second.name).map (Option.map DatabaseEntry.record) =
        (rewrittenRecord repository first second).map some := by
  have plain := isName_dbname first name version
  have sameDirectory : second.dbname = first.dbname := by
    rw [PackageRecord.dbname, sameName, sameVersion, PackageRecord.dbname]
  rw [← sameVersion] at hyphen
  -- Between the two writes the clock alone goes on.
  obtain ⟨between, tree, workingDirectory, written₂⟩ : ∃ between : Disk,
      between.tree = disk₁.tree ∧ between.workingDirectory = disk₁.workingDirectory ∧
      repository₁.write second between = .ok (repository₂, snapshot₂) disk₂ :=
    ⟨{ disk₁ with now := time, ahead := onwards }, rfl, rfl, written₂⟩
  obtain ⟨snapshot₃, disk₃, alone⟩ : ∃ snapshot last, repository.write second disk =
      .ok (repository.remember second.name snapshot, snapshot) last :=
    exists_first_write sameDirectory plain settled vacant unclaimed written₁
  obtain ⟨-, -, -, -, -, readAlone⟩ := read_of_first_write (sameDirectory ▸ plain) hyphen settled
    (sameDirectory ▸ vacant) (sameName ▸ unclaimed) alone
  obtain ⟨rfl, made, makes, onward, shelf, entry, states⟩ := holdsEntry_of_rewrite sameName
    sameVersion plain settled vacant unclaimed written₁ tree workingDirectory written₂
  have readTwice := read_of_rewritten hyphen entry
  refine ⟨made, _, snapshot₃, disk₃, makes, onward, alone, ?_⟩
  have sameTwice : ((repository.remember first.name snapshot₁).remember second.name
      snapshot₂).read disk₂ second.name = repository.read disk₂ second.name := rfl
  have sameAlone : (repository.remember second.name snapshot₃).read disk₃ second.name =
      repository.read disk₃ second.name := rfl
  rw [sameTwice, sameAlone, readTwice, readAlone disk₃ rfl rfl]
  cases coded : storedRecord second repository.kind with
  | error failure => simp [rewrittenRecord, coded, Except.map]
  | ok stored =>
      have unmodified : ((repository.remember first.name snapshot₁).remember second.name
          snapshot₂).isModified second.name
            (rewrittenFiles repository first second made.moment between.moment).capture = false ↔
          ¬ (LeavesScriptlets repository first second ∧ made.moment 3 ≠ 0) := by
        rw [Repository.isModified, reference?_remember, ← isModified_rewrittenFiles states,
          Bool.not_eq_true]
      by_cases leaves : LeavesScriptlets repository first second
      · simp [rewrittenRecord, coded, Except.map, leaves, unmodified, not_or]
      · simp [rewrittenRecord, coded, Except.map, leaves, unmodified]

end Rewrite

def scriptedRecord : PackageRecord :=
  { name := "foo", version := "1.0-1", scriptlets := { postInstall := "echo one" } }

def plainRecord : PackageRecord := .bare "foo" "1.0-1"

theorem vacant_newDisk : installedRepository.Vacant newDisk scriptedRecord.dbname :=
  vacant_of_notFound (by decide +kernel)

theorem rewrite_replaces_iff_scriptedRecord :
    ∃ repository₁ snapshot₁ disk₁ repository₂ snapshot₂ disk₂,
      installedRepository.Settled newDisk ∧
      installedRepository.Vacant newDisk scriptedRecord.dbname ∧
      installedRepository.Unclaimed newDisk scriptedRecord.name ∧
      installedRepository.write scriptedRecord newDisk =
        .ok (repository₁, snapshot₁) disk₁ ∧
      repository₁.write plainRecord { disk₁ with now := 3 } =
        .ok (repository₂, snapshot₂) disk₂ ∧
      LeavesScriptlets installedRepository scriptedRecord plainRecord ∧
      (repository₂.read disk₂ "foo").map (Option.map DatabaseEntry.record) =
        .ok (some { plainRecord with scriptlets := scriptedRecord.scriptlets }) := by
  have unclaimed := unclaimed_newDisk scriptedRecord.name
  have run : Operation.succeedsWith (fun written disk₁ =>
      Operation.succeeds (written.1.write plainRecord) { disk₁ with now := 3 })
      (installedRepository.write scriptedRecord) newDisk = true := by
    decide +kernel
  obtain ⟨⟨repository₁, snapshot₁⟩, disk₁, written₁, again⟩ :=
    (Operation.succeedsWith_iff _ _).1 run
  obtain ⟨⟨repository₂, snapshot₂⟩, disk₂, written₂⟩ := (Operation.succeeds_iff _).1 again
  have sameName : plainRecord.name = scriptedRecord.name := rfl
  have sameVersion : plainRecord.version = scriptedRecord.version := rfl
  obtain ⟨-, -, -, -, -, -, -, -, read⟩ := rewrite_replaces_iff sameName sameVersion (by decide)
    (by decide) (by decide) settled_newDisk vacant_newDisk unclaimed written₁ written₂
  have record : rewrittenRecord installedRepository scriptedRecord plainRecord =
      .ok { plainRecord with scriptlets := scriptedRecord.scriptlets } := by decide +kernel
  rw [record] at read
  exact ⟨repository₁, snapshot₁, disk₁, repository₂, snapshot₂, disk₂, settled_newDisk,
    vacant_newDisk, unclaimed, written₁, written₂, by decide, read⟩

def readsModified (name : String) (repository other : Repository) (disk last : Disk) : Bool :=
  match repository.read disk name, other.read last name with
  | .ok (some twice), .ok (some alone) =>
      twice.record != alone.record && repository.isModified name twice.snapshot
  | _, _ => false

/-- An installed package that loses its scriptlets is read with them, and as modified. -/
theorem rewrite_does_not_replace_scriptlets :
    ∃ repository₁ snapshot₁ disk₁ repository₂ snapshot₂ disk₂ repository₃ snapshot₃ disk₃ twice
        alone,
      installedRepository.Vacant newDisk scriptedRecord.dbname ∧
      installedRepository.Unclaimed newDisk scriptedRecord.name ∧
      installedRepository.write scriptedRecord newDisk =
        .ok (repository₁, snapshot₁) disk₁ ∧
      repository₁.write plainRecord disk₁ = .ok (repository₂, snapshot₂) disk₂ ∧
      installedRepository.write plainRecord newDisk = .ok (repository₃, snapshot₃) disk₃ ∧
      repository₂.read disk₂ "foo" = .ok (some twice) ∧
      repository₃.read disk₃ "foo" = .ok (some alone) ∧
      twice.record ≠ alone.record ∧ repository₂.isModified "foo" twice.snapshot = true := by
  have run : Operation.succeedsWith (fun written₁ disk₁ =>
      Operation.succeedsWith (fun written₂ disk₂ =>
        Operation.succeedsWith (fun written₃ disk₃ =>
          readsModified "foo" written₂.1 written₃.1 disk₂ disk₃)
          (installedRepository.write plainRecord) newDisk)
        (written₁.1.write plainRecord) disk₁)
      (installedRepository.write scriptedRecord) newDisk = true := by
    decide +kernel
  obtain ⟨⟨repository₁, snapshot₁⟩, disk₁, written₁, again⟩ :=
    (Operation.succeedsWith_iff _ _).1 run
  obtain ⟨⟨repository₂, snapshot₂⟩, disk₂, written₂, once⟩ :=
    (Operation.succeedsWith_iff _ _).1 again
  obtain ⟨⟨repository₃, snapshot₃⟩, disk₃, written₃, other⟩ :=
    (Operation.succeedsWith_iff _ _).1 once
  rw [readsModified] at other
  split at other
  · next twice alone readTwice readAlone =>
      rw [Bool.and_eq_true, bne_iff_ne] at other
      exact ⟨repository₁, snapshot₁, disk₁, repository₂, snapshot₂, disk₂, repository₃, snapshot₃,
        disk₃, twice, alone, vacant_newDisk, unclaimed_newDisk _, written₁, written₂, written₃,
        readTwice, readAlone, other.1, other.2⟩
  · cases other

end PackageAssay

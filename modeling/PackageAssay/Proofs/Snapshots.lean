import Mathlib.InformationTheory.Hamming
import PackageAssay.Database.Snapshot

/-!
# How far two snapshots are apart

The number of sections that were written between two snapshots is the number of those whose modify
or change time differs. It is a distance, in which a section that is missing lies where one with
zero times does.
-/

set_option autoImplicit false

namespace PackageAssay

instance : Fintype SectionKey where
  elems := ⟨SectionKey.all, by decide⟩
  complete := by
    intro key
    cases key <;> decide

namespace Snapshot

theorem ext_find? {left right : Snapshot} (same : ∀ key, left.find? key = right.find? key) :
    left = right := by
  obtain ⟨_, _, _, _⟩ := left
  obtain ⟨_, _, _, _⟩ := right
  have desc := same .desc
  have depends := same .depends
  have files := same .files
  have install := same .install
  simp_all [find?]

def writtenAt (snapshot : Snapshot) (key : SectionKey) : Int64 × Int64 :=
  match snapshot.find? key with
  | some state => (state.times.modified, state.times.changed)
  | none => (0, 0)

theorem content_get (snapshot : Snapshot) (key : SectionKey) :
    (snapshot.get key).times.content = snapshot.writtenAt key := by
  rw [get, writtenAt]
  cases snapshot.find? key <;> rfl

theorem sectionChanged_iff (old new : Snapshot) (key : SectionKey) :
    sectionChanged old new key = true ↔
      (old.get key).times.content ≠ (new.get key).times.content := by
  simp only [sectionChanged]
  split
  · next absent =>
      -- Two files that are missing have the same times, so nothing is left out here.
      obtain ⟨-, before, after⟩ := absent
      have before : (old.get key).times = {} := eq_of_beq before
      have after : (new.get key).times = {} := eq_of_beq after
      simp [before, after]
  · exact bne_iff_ne

theorem changedSections_eq_hammingDist (old new : Snapshot) :
    changedSections old new = hammingDist old.writtenAt new.writtenAt := by
  have changed : sectionChanged old new =
      fun key => decide (old.writtenAt key ≠ new.writtenAt key) := by
    funext key
    rw [Bool.eq_iff_iff, sectionChanged_iff, content_get, content_get, decide_eq_true_iff]
  rw [changedSections, changed]
  rfl

theorem isModified_eq_false_iff (old new : Snapshot) :
    old.isModified new = false ↔ old.writtenAt = new.writtenAt := by
  rw [isModified, decide_eq_false_iff_not, Nat.not_lt, Nat.le_zero,
    changedSections_eq_hammingDist, hammingDist_eq_zero]

theorem isModified_iff (old new : Snapshot) :
    old.isModified new = true ↔ ∃ key, sectionChanged old new key = true := by
  rw [← Bool.not_eq_false, isModified_eq_false_iff, funext_iff, not_forall]
  simp only [sectionChanged_iff, content_get, ne_eq]

theorem not_isModified_self (snapshot : Snapshot) : snapshot.isModified snapshot = false :=
  (isModified_eq_false_iff snapshot snapshot).2 rfl

def retouch (snapshot : Snapshot) (fingerprint : SectionKey → String)
    (accessed : SectionKey → Int64) : Snapshot :=
  let touch (key : SectionKey) (state : SectionState) : SectionState :=
    ⟨fingerprint key, { state.times with accessed := accessed key }⟩
  ⟨snapshot.desc.map (touch .desc), snapshot.depends.map (touch .depends),
    snapshot.files.map (touch .files), snapshot.install.map (touch .install)⟩

theorem writtenAt_retouch (snapshot : Snapshot) (fingerprint : SectionKey → String)
    (accessed : SectionKey → Int64) :
    (snapshot.retouch fingerprint accessed).writtenAt = snapshot.writtenAt := by
  obtain ⟨desc, depends, files, install⟩ := snapshot
  funext key
  cases key with
  | desc => cases desc <;> rfl
  | depends => cases depends <;> rfl
  | files => cases files <;> rfl
  | install => cases install <;> rfl

theorem writtenAt_insert_of_isZero {snapshot : Snapshot} {key : SectionKey} {state : SectionState}
    (absent : snapshot.find? key = none) (zero : state.isZero = true) :
    (snapshot.insert key state).writtenAt = snapshot.writtenAt := by
  have times : state.times = {} := eq_of_beq zero
  funext other
  rw [writtenAt, find?_insert, writtenAt]
  by_cases same : other = key
  · rw [if_pos same, same, absent]
    simp only [times]
  · rw [if_neg same]

theorem changed_sections_measure_distance :
    (∀ old new, changedSections old new =
      Finset.card {key : SectionKey | old.writtenAt key ≠ new.writtenAt key}) ∧
    (∀ snapshot, changedSections snapshot snapshot = 0) ∧
    (∀ old new, changedSections old new = changedSections new old) ∧
    (∀ old new, changedSections old new ≤ 4) ∧
    (∀ first second third, changedSections first third ≤
      changedSections first second + changedSections second third) ∧
    (∀ old new fingerprint accessed,
      changedSections (old.retouch fingerprint accessed) new = changedSections old new ∧
      changedSections new (old.retouch fingerprint accessed) = changedSections new old) ∧
    (∀ old new key state, old.find? key = none → state.isZero = true →
      changedSections (old.insert key state) new = changedSections old new ∧
      changedSections new (old.insert key state) = changedSections new old) ∧
    Equivalence fun old new => isModified old new = false := by
  simp only [changedSections_eq_hammingDist, isModified_eq_false_iff]
  refine ⟨fun _ _ => rfl, fun snapshot => hammingDist_self snapshot.writtenAt,
    fun old new => hammingDist_comm old.writtenAt new.writtenAt,
    fun old new => hammingDist_le_card_fintype,
    fun first second third => hammingDist_triangle _ second.writtenAt _, ?_, ?_, ?_⟩
  · intro old new fingerprint accessed
    rw [writtenAt_retouch]
    exact ⟨rfl, rfl⟩
  · intro old new key state absent zero
    rw [writtenAt_insert_of_isZero absent zero]
    exact ⟨rfl, rfl⟩
  · exact ⟨fun _ => rfl, Eq.symm, Eq.trans⟩

/-- Of the file `depends` only the access time is known, and there is no install file. -/
def glimpsedSnapshot : Snapshot where
  desc := some ⟨"a", ⟨1, 2, 3⟩⟩
  depends := some ⟨"b", ⟨7, 0, 0⟩⟩

def installedSnapshot : Snapshot where
  desc := some ⟨"c", ⟨8, 2, 3⟩⟩
  install := some ⟨"d", ⟨0, 0, 5⟩⟩

theorem changed_sections_measure_distance_glimpsedSnapshot :
    glimpsedSnapshot.find? .install = none ∧ SectionState.isZero ⟨"e", {}⟩ = true ∧
      changedSections glimpsedSnapshot installedSnapshot = 1 ∧
      changedSections (glimpsedSnapshot.insert .install ⟨"e", {}⟩) installedSnapshot = 1 := by
  have absent : glimpsedSnapshot.find? .install = none := rfl
  have zero : SectionState.isZero ⟨"e", {}⟩ = true := by decide
  have count : changedSections glimpsedSnapshot installedSnapshot = 1 := by decide
  obtain ⟨-, -, -, -, -, -, inserted, -⟩ := changed_sections_measure_distance
  refine ⟨absent, zero, count, ?_⟩
  rw [(inserted _ installedSnapshot _ _ absent zero).1, count]

end Snapshot

end PackageAssay

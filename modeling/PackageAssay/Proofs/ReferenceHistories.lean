import PackageAssay.Proofs.Baselines
import PackageAssay.Proofs.ChangeDetection
import PackageAssay.Proofs.OtherPackages

set_option autoImplicit false

namespace PackageAssay

def Repository.writeFiles (repository : Repository) (record : PackageRecord) :
    Operation Snapshot := do
  let directory := repository.directory.join record.dbname
  Operation.makeDirectories directory
  writeSections directory (repository.sectionsOf record) {}

theorem Repository.write_eq_writeFiles (repository : Repository) (record : PackageRecord)
    (disk : Disk) :
    repository.write record disk =
      match repository.writeFiles record disk with
      | .ok snapshot later => .ok (repository.remember record.name snapshot, snapshot) later
      | .error error later => .error error later := by
  have joined : repository.write record = (do
      let snapshot ← repository.writeFiles record
      return (repository.remember record.name snapshot, snapshot)) := by
    rw [writeFiles, bind_assoc]
    rfl
  rw [joined]
  simp only [bind, EStateM.bind]
  cases repository.writeFiles record disk <;> rfl

structure Session where
  disk : Disk
  repository : Repository

namespace Session

variable {α β : Type}

def onDisk (operation : Operation α) : EStateM Error Session α := fun session =>
  match operation session.disk with
  | .ok value disk => .ok value { session with disk := disk }
  | .error error disk => .error error { session with disk := disk }

/-- Writes an entry step by step; the handle takes the snapshot over once all files are written. -/
def write (record : PackageRecord) : EStateM Error Session Snapshot := do
  let repository := (← get).repository
  let directory := repository.directory.join record.dbname
  onDisk (Operation.makeDirectories directory)
  let snapshot ← (repository.sectionsOf record).foldlM
    (fun snapshot (key, content) =>
      onDisk (Repository.writeSection directory key content snapshot)) {}
  modify fun session =>
    { session with repository := session.repository.remember record.name snapshot }
  return snapshot

def leaves (operation : EStateM Error Session α) (session : Session) : Session :=
  match operation session with
  | .ok _ later => later
  | .error _ later => later

def result? (operation : EStateM Error Session α) (session : Session) : Option α :=
  match operation session with
  | .ok value _ => some value
  | .error _ _ => none

inductive Action where
  | write (record : PackageRecord)
  | remember (name : String) (snapshot : Snapshot)
  | restore (baseline : Baseline)
  | change (disk : Disk)

def perform (session : Session) : Action → Session
  | .write record => leaves (write record) session
  | .remember name snapshot =>
      { session with repository := session.repository.remember name snapshot }
  | .restore baseline => { session with repository := baseline.restore session.repository }
  | .change disk => { session with disk := disk }

def run (session : Session) (actions : List Action) : Session := actions.foldl perform session

def given? (session : Session) (name : String) : Action → Option Snapshot
  | .write record => if name = record.name then result? (write record) session else none
  | .remember other snapshot => if name = other then some snapshot else none
  | .restore baseline => baseline.packages.find? name
  | .change _ => none

/-- The snapshots that some actions give for a package, the latest one last. -/
def snapshotsGiven (session : Session) (name : String) : List Action → List Snapshot
  | [] => []
  | action :: rest =>
      (session.given? name action).toList ++ (session.perform action).snapshotsGiven name rest

theorem onDisk_bind (first : Operation α) (next : α → Operation β) :
    onDisk (first >>= next) = onDisk first >>= fun value => onDisk (next value) := by
  funext session
  simp only [onDisk, bind, EStateM.bind]
  cases first session.disk <;> rfl

theorem onDisk_foldlM (step : β → α → Operation β) (items : List α) (start : β) :
    onDisk (items.foldlM step start) =
      items.foldlM (fun value item => onDisk (step value item)) start := by
  induction items generalizing start with
  | nil => rfl
  | cons item rest ih =>
      rw [List.foldlM_cons, List.foldlM_cons, onDisk_bind]
      exact congrArg _ (funext ih)

theorem write_eq_writeFiles (record : PackageRecord) (session : Session) :
    write record session =
      match session.repository.writeFiles record session.disk with
      | .ok snapshot disk => .ok snapshot ⟨disk, session.repository.remember record.name snapshot⟩
      | .error error disk => .error error { session with disk := disk } := by
  have files : onDisk (session.repository.writeFiles record) =
      onDisk (Operation.makeDirectories (session.repository.directory.join record.dbname)) >>=
        fun _ => (session.repository.sectionsOf record).foldlM (fun snapshot part =>
          onDisk (Repository.writeSection (session.repository.directory.join record.dbname)
            part.1 part.2 snapshot)) {} := by
    simp only [Repository.writeFiles, Repository.writeSections, onDisk_bind, onDisk_foldlM]
  have joined : write record session =
      (onDisk (session.repository.writeFiles record) >>= fun snapshot => do
        modify fun session =>
          { session with repository := session.repository.remember record.name snapshot }
        return snapshot : EStateM Error Session Snapshot) session := by
    rw [files, bind_assoc]
    rfl
  rw [joined]
  simp only [bind, EStateM.bind, onDisk]
  cases session.repository.writeFiles record session.disk <;> rfl

theorem write_eq (record : PackageRecord) (session : Session) :
    write record session =
      match session.repository.write record session.disk with
      | .ok (repository, snapshot) disk => .ok snapshot ⟨disk, repository⟩
      | .error error disk => .error error { session with disk := disk } := by
  rw [write_eq_writeFiles, Repository.write_eq_writeFiles]
  cases session.repository.writeFiles record session.disk <;> rfl

theorem repository_of_failed_write {record : PackageRecord} {session stopped : Session}
    {error : Error} (failed : write record session = .error error stopped) :
    stopped.repository = session.repository := by
  rw [write_eq_writeFiles] at failed
  split at failed
  · cases failed
  · cases failed
    rfl

theorem repository_of_write {record : PackageRecord} {session later : Session}
    {snapshot : Snapshot} (done : write record session = .ok snapshot later) :
    later.repository = session.repository.remember record.name snapshot := by
  rw [write_eq_writeFiles] at done
  split at done
  · cases done
    rfl
  · cases done

theorem write_eq_ok_iff {record : PackageRecord} {session later : Session} {snapshot : Snapshot} :
    write record session = .ok snapshot later ↔
      session.repository.write record session.disk =
        .ok (later.repository, snapshot) later.disk := by
  rw [write_eq]
  cases session.repository.write record session.disk with
  | error error disk => simp
  | ok given disk =>
      obtain ⟨repository, found⟩ := given
      obtain ⟨left, right⟩ := later
      simp only [EStateM.Result.ok.injEq, Session.mk.injEq, Prod.mk.injEq]
      tauto

theorem reference?_perform (session : Session) (name : String) (action : Action) :
    (session.perform action).repository.reference? name =
      (session.given? name action).or (session.repository.reference? name) := by
  cases action with
  | write record =>
      cases done : write record session with
      | ok snapshot later =>
          rw [perform, given?, leaves, result?, done]
          dsimp only
          rw [repository_of_write done, Repository.reference?_remember_or]
      | error error stopped =>
          rw [perform, given?, leaves, result?, done]
          dsimp only
          rw [repository_of_failed_write done, ite_self]
          rfl
  | remember other snapshot => exact Repository.reference?_remember_or _ _ _ _
  | restore baseline => exact Baseline.reference?_restore _ _ _
  | change disk => rfl

theorem reference?_run (session : Session) (name : String) (actions : List Action) :
    (session.run actions).repository.reference? name =
      (session.snapshotsGiven name actions).getLast?.or (session.repository.reference? name) := by
  induction actions generalizing session with
  | nil => rfl
  | cons action rest ih =>
      have last : (session.given? name action).toList.getLast? = session.given? name action := by
        cases session.given? name action <;> rfl
      rw [run, List.foldl_cons, ← run, ih, reference?_perform, snapshotsGiven,
        List.getLast?_append, last, Option.or_assoc]

end Session

theorem Repository.isModified_iff (repository : Repository) (name : String) (current : Snapshot) :
    repository.isModified name current = true ↔
      ∃ reference, repository.reference? name = some reference ∧
        ∃ key, (reference.get key).times.content ≠ (current.get key).times.content := by
  rw [isModified]
  cases repository.reference? name with
  | none => simp
  | some reference =>
      simp only [Option.some.injEq, exists_eq_left', Snapshot.isModified_iff,
        Snapshot.sectionChanged_iff]

/-- Whatever is done with a handle and the disk, the reference of a package is what the latest
action that gave one for it gave. A write that fails gives none, even where it wrote files. -/
theorem references_follow_latest_success (session : Session) (actions : List Session.Action) :
    let later := session.run actions
    (∀ name, later.repository.reference? name =
      (session.snapshotsGiven name actions).getLast?.or (session.repository.reference? name)) ∧
    (session.repository.references = .empty → ∀ name,
      later.repository.reference? name = (session.snapshotsGiven name actions).getLast?) ∧
    (∀ record error stopped, Session.write record later = .error error stopped →
      later.perform (.write record) = stopped ∧ stopped.repository = later.repository) ∧
    (∀ record snapshot written, Session.write record later = .ok snapshot written ↔
      later.repository.write record later.disk =
        .ok (written.repository, snapshot) written.disk) ∧
    ∀ name current, later.repository.isModified name current = true ↔
      ∃ reference, later.repository.reference? name = some reference ∧
        ∃ key, (reference.get key).times.content ≠ (current.get key).times.content := by
  intro later
  have latest (name : String) := session.reference?_run name actions
  refine ⟨latest, fun fresh name => ?_, fun record error stopped failed => ⟨?_, ?_⟩,
    fun record snapshot written => Session.write_eq_ok_iff,
    later.repository.isModified_iff⟩
  · have none : session.repository.reference? name = none := by
      rw [Repository.reference?, fresh]
      rfl
    rw [latest, none, Option.or_none]
  · rw [Session.perform, Session.leaves, failed]
  · exact Session.repository_of_failed_write failed

def danglingDisk : Disk where
  tree := {
    nodes := [
      (["depends", "foo-1.0-1", "local", "db"], ⟨.link "gone/depends", .madeAt 2⟩),
      (["files", "foo-1.0-1", "local", "db"], ⟨.file (.ofText ""), .madeAt 2⟩),
      (["desc", "foo-1.0-1", "local", "db"], ⟨.file (.ofText ""), .madeAt 2⟩),
      (["foo-1.0-1", "local", "db"], ⟨.directory, .madeAt 2⟩),
      (["local", "db"], ⟨.directory, .madeAt 2⟩), (["db"], ⟨.directory, .madeAt 2⟩),
      ([], ⟨.directory, .madeAt 2⟩)]
    rooted := by decide
    distinct := by decide
    nested := by decide }
  now := 5

def writtenAndBroken : List Session.Action :=
  [.write (.bare "foo" "1.0-1"), .remember "bar" {}, .change danglingDisk]

/-- The entry that was written in part is told from the one that was written in whole. -/
theorem references_follow_latest_success_danglingDisk :
    let session : Session := ⟨newDisk, installedRepository⟩
    let later := session.run writtenAndBroken
    ∃ snapshot, session.given? "foo" (.write (.bare "foo" "1.0-1")) = some snapshot ∧
      later.repository.reference? "foo" = some snapshot ∧
      later.repository.reference? "baz" = none ∧
      ∃ error stopped, Session.write (.bare "foo" "1.0-1") later = .error error stopped ∧
        stopped.repository = later.repository ∧
        ∃ entry, stopped.repository.read stopped.disk "foo" = .ok (some entry) ∧
          ∃ key, (snapshot.get key).times.content ≠ (entry.snapshot.get key).times.content := by
  intro session later
  obtain ⟨-, fresh, failing, succeeding, modified⟩ :=
    references_follow_latest_success session writtenAndBroken
  have writes : Operation.succeeds (installedRepository.write (.bare "foo" "1.0-1")) newDisk =
      true := by decide +kernel
  obtain ⟨⟨repository, snapshot⟩, disk, written⟩ := (Operation.succeeds_iff _).1 writes
  have first : Session.write (.bare "foo" "1.0-1") session = .ok snapshot ⟨disk, repository⟩ :=
    Session.write_eq_ok_iff.2 written
  have given : session.given? "foo" (.write (.bare "foo" "1.0-1")) = some snapshot := by
    rw [Session.given?, Session.result?, first]
    rfl
  have last : session.snapshotsGiven "foo" writtenAndBroken = [snapshot] := by
    rw [writtenAndBroken, Session.snapshotsGiven, given]
    rfl
  have reference : later.repository.reference? "foo" = some snapshot := by
    rw [fresh rfl, last]
    rfl
  refine ⟨snapshot, given, reference, ?_, ?_⟩
  · rw [fresh rfl]
    decide +kernel
  cases attempt : Session.write (.bare "foo" "1.0-1") later with
  | ok found written =>
      have succeeds := (Operation.succeeds_iff _).2 ⟨_, _, (succeeding _ _ _).1 attempt⟩
      exact absurd succeeds (by decide +kernel)
  | error error stopped =>
      obtain ⟨stops, same⟩ := failing _ _ _ attempt
      have reads : (((later.perform (.write (.bare "foo" "1.0-1"))).repository.read
          (later.perform (.write (.bare "foo" "1.0-1"))).disk "foo").toOption.join.map fun entry =>
            later.repository.isModified "foo" entry.snapshot) = some true := by decide +kernel
      rw [stops] at reads
      obtain ⟨entry, found, changed⟩ := Option.map_eq_some_iff.1 reads
      obtain ⟨other, again, differs⟩ := (modified "foo" entry.snapshot).1 changed
      cases reference.symm.trans again
      exact ⟨error, stopped, rfl, same, entry, eq_ok_some found, differs⟩

end PackageAssay

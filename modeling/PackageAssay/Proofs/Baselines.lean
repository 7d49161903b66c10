import PackageAssay.Baseline
import PackageAssay.Proofs.EntryStates

set_option autoImplicit false

namespace PackageAssay

theorem Repository.reference?_remember_or (repository : Repository) (name other : String)
    (snapshot : Snapshot) :
    (repository.remember other snapshot).reference? name =
      (if name = other then some snapshot else none).or (repository.reference? name) := by
  rw [reference?, remember, NameMap.find?_insert]
  split <;> rfl

theorem Repository.mem_list_of_isEntry {repository : Repository} {disk : Disk}
    {name directory : String} {names : List String}
    (isEntry : repository.IsEntry disk name directory)
    (listed : repository.list disk = .ok names) : name ∈ names := by
  obtain ⟨directories, found, member, ⟨parts, parsed, named⟩, -⟩ := isEntry
  rw [list, found] at listed
  cases listed
  apply (mem_sortedNames _ _).2
  exact List.mem_filterMap.2 ⟨directory, member, by rw [parsed, Option.map_some, named]⟩

namespace Baseline

variable {disk : Disk} {repository : Repository} {root : Path} {files : List String}
  {baseline : Baseline}

def captureOne (disk : Disk) (repository : Repository) (name : String) :
    Except Error (Option (String × Snapshot)) := do
  return (← repository.read disk name).map fun entry => (name, entry.snapshot)

theorem captureOne_eq_ok_iff (name : String) (result : Option (String × Snapshot)) :
    captureOne disk repository name = .ok result ↔
      ∃ found, repository.read disk name = .ok found ∧
        found.map (fun entry => (name, entry.snapshot)) = result := by
  simp only [captureOne, bind_eq_ok_iff, pure, Except.pure, Except.ok.injEq]

theorem exists_entries_of_capture
    (captured : capture disk repository root files = .ok baseline) :
    ∃ (names : List String) (entries : List (Option (String × Snapshot))),
      repository.list disk = .ok names ∧
      names.map (captureOne disk repository) = entries.map .ok ∧
      baseline.packages = .ofList (entries.filterMap id) := by
  simp only [capture, bind_eq_ok_iff] at captured
  obtain ⟨names, listed, entries, reads, done⟩ := captured
  cases done
  exact ⟨names, entries, listed, map_of_mapM reads, rfl⟩

theorem exists_read_of_capture (captured : capture disk repository root files = .ok baseline)
    {name : String} {snapshot : Snapshot} (kept : baseline.packages.find? name = some snapshot) :
    ∃ entry, repository.read disk name = .ok (some entry) ∧ entry.snapshot = snapshot := by
  obtain ⟨names, entries, -, reads, packages⟩ := exists_entries_of_capture captured
  rw [packages] at kept
  have member : some (name, snapshot) ∈ entries := by
    simpa using NameMap.mem_of_find?_ofList kept
  have one : .ok (some (name, snapshot)) ∈ names.map (captureOne disk repository) := by
    rw [reads]
    exact List.mem_map_of_mem member
  obtain ⟨other, -, one⟩ := List.mem_map.1 one
  obtain ⟨found, read, pair⟩ := (captureOne_eq_ok_iff other _).1 one
  obtain ⟨entry, rfl, same⟩ := Option.map_eq_some_iff.1 pair
  cases same
  exact ⟨entry, read, rfl⟩

theorem read_ne_none_of_isEntry {name directory : String}
    (isEntry : repository.IsEntry disk name directory) :
    repository.read disk name ≠ .ok none := by
  obtain ⟨parts, -, here⟩ := Repository.findEntry_of_isEntry isEntry
  intro none
  -- The directory is found, so that what follows is an entry or an error.
  simp only [Repository.read, here, bind_eq_ok_iff, Except.ok.injEq, exists_eq_left'] at none
  obtain ⟨_, _, _, _, _, _, _, _, done⟩ := none
  cases done

theorem exists_kept_of_isEntry (captured : capture disk repository root files = .ok baseline)
    {name directory : String} (isEntry : repository.IsEntry disk name directory) :
    ∃ entry, repository.read disk name = .ok (some entry) ∧
      baseline.packages.find? name = some entry.snapshot := by
  obtain ⟨names, entries, listed, reads, packages⟩ := exists_entries_of_capture captured
  have read := List.mem_map_of_mem (f := captureOne disk repository)
    (Repository.mem_list_of_isEntry isEntry listed)
  rw [reads] at read
  obtain ⟨result, member, one⟩ := List.mem_map.1 read
  obtain ⟨found, read, pair⟩ := (captureOne_eq_ok_iff name result).1 one.symm
  cases found with
  | none => exact absurd read (read_ne_none_of_isEntry isEntry)
  | some entry =>
      have bound : (name, entry.snapshot) ∈ entries.filterMap id := by
        rw [← pair] at member
        simpa using member
      obtain ⟨snapshot, kept⟩ :=
        NameMap.exists_find?_ofList (List.mem_map_of_mem (f := Prod.fst) bound)
      rw [← packages] at kept
      obtain ⟨other, again, same⟩ := exists_read_of_capture captured kept
      rw [read] at again
      cases again
      exact ⟨entry, read, by rw [kept, same]⟩

theorem reference?_foldl_remember (entries : List (String × Snapshot))
    (once : (entries.map Prod.fst).Nodup) (repository : Repository) (name : String) :
    (entries.foldl (fun repository entry => repository.remember entry.1 entry.2)
      repository).reference? name = (entries.lookup name).or (repository.reference? name) := by
  induction entries generalizing repository with
  | nil => rfl
  | cons entry rest ih =>
      obtain ⟨key, snapshot⟩ := entry
      rw [List.map_cons, List.nodup_cons] at once
      rw [List.foldl_cons, ih once.2, lookup_entry, Repository.reference?_remember_or]
      by_cases same : name = key
      · subst same
        rw [lookup_eq_none_iff_notMem.2 once.1, if_pos rfl]
        rfl
      · rw [if_neg same, if_neg same]
        rfl

theorem reference?_restore (baseline : Baseline) (repository : Repository) (name : String) :
    (baseline.restore repository).reference? name =
      (baseline.packages.find? name).or (repository.reference? name) :=
  reference?_foldl_remember _ (baseline.packages.ordered.imp String.ne_of_lt) _ _

theorem directory_restore (baseline : Baseline) (repository : Repository) :
    (baseline.restore repository).directory = repository.directory := by
  unfold restore
  induction baseline.packages.entries generalizing repository with
  | nil => rfl
  | cons entry rest ih => exact ih (repository.remember entry.1 entry.2)

end Baseline

theorem Repository.read_congr {left right : Repository} (same : left.directory = right.directory)
    (disk : Disk) (name : String) : left.read disk name = right.read disk name := by
  simp only [Repository.read, findEntry, entryDirectories, same]

end PackageAssay

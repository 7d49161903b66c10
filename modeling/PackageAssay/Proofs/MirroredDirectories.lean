import PackageAssay.Proofs.GatheredEntries

/-!
# Archives that mirror a directory

An archive mirrors a directory if its entries are the files and the directories below it. The
record of a package can then be told from the archive as well as from the directory.
-/

set_option autoImplicit false

namespace PackageAssay

/-- The entries are what stands below a directory without links: each file with its bytes and each
directory once, and a directory before what it holds. -/
structure Mirrors (tree : FileTree) (top : Location) (entries : List ArchiveEntry) : Prop where
  files : ∀ names bytes, (∃ entry ∈ entries, entry.names = names ∧ entry.body = .file bytes) ↔
    names ≠ [] ∧ ∃ content, tree.body? (names.reverse ++ top) = some (.file content) ∧
      content.toBytes = bytes
  directories : ∀ names, (∃ entry ∈ entries, entry.names = names ∧ entry.body = .directory) ↔
    names ≠ [] ∧ tree.body? (names.reverse ++ top) = some .directory
  kinds : ∀ entry ∈ entries, entry.body = .directory ∨ ∃ bytes, entry.body = .file bytes
  paths : ∀ entry ∈ entries, entry.path = "/".intercalate entry.names ∨
    entry.body = .directory ∧ entry.path = "/".intercalate entry.names ++ "/"
  once : (entries.map ArchiveEntry.names).Nodup
  outermostFirst : ∀ before inner after lead, entries = before ++ inner :: after → lead ≠ [] →
    lead <+: inner.names → lead ≠ inner.names →
      ∃ entry ∈ before, entry.names = lead ∧ entry.body = .directory

namespace ArchiveEntry.Tells

variable {entry : ArchiveEntry} {names : List String}

theorem clean {body : NodeBody} (tells : entry.Tells names body) (some : names ≠ [])
    (plain : ∀ name ∈ names, IsName name) : Path.Clean entry.path := by
  have parts : Path.components ("/".intercalate names) = names :=
    Path.components_intercalate some fun name member => (plain name member).whole
  refine ⟨"/".intercalate names, ?_, by rwa [parts]⟩
  cases tells with
  | directory kind path => exact path
  | file kind path => exact .inl path

theorem kind {body : NodeBody} (tells : entry.Tells names body) :
    body = .directory ∧ entry.body = .directory ∨
      ∃ content, body = .file content ∧ entry.body = .file content.toBytes := by
  cases tells with
  | directory kind path => exact .inl ⟨rfl, kind⟩
  | file kind path => exact .inr ⟨_, rfl, kind⟩

theorem path {body : NodeBody} (tells : entry.Tells names body) :
    entry.path = "/".intercalate names ∨
      entry.body = .directory ∧ entry.path = "/".intercalate names ++ "/" := by
  cases tells with
  | directory kind path => exact path.imp id fun closed => ⟨kind, closed⟩
  | file kind path => exact .inl path

end ArchiveEntry.Tells

namespace Covers

variable {tree later : FileTree} {top : Location} {scope : List String → Prop}
  {entries : List ArchiveEntry}

theorem of_same (covers : Covers tree top scope entries)
    (same : ∀ names : List String, later.body? (names.reverse ++ top) =
      tree.body? (names.reverse ++ top)) : Covers later top scope entries where
  told := by
    intro entry member
    obtain ⟨names, body, some, inside, found, tells⟩ := covers.told entry member
    exact ⟨names, body, some, inside, (same names).trans found, tells⟩
  complete := fun names body some inside found =>
    covers.complete names body some inside ((same names).symm.trans found)
  ordered := covers.ordered

variable (named : tree.Named)

include named

theorem tells_names (covers : Covers tree top scope entries) {entry : ArchiveEntry}
    (member : entry ∈ entries) :
    ∃ body, entry.names ≠ [] ∧ (∀ name ∈ entry.names, IsName name) ∧
      tree.body? (entry.names.reverse ++ top) = some body ∧ entry.Tells entry.names body := by
  obtain ⟨names, body, some, -, found, tells⟩ := covers.told entry member
  have plain : ∀ name ∈ names, IsName name := fun name member =>
    named.isName_of_below found name (List.mem_reverse.2 member)
  have same := tells.names_eq plain
  subst same
  exact ⟨body, some, plain, found, tells⟩

theorem exists_entry (covers : Covers tree top (fun _ => True) entries) {names : List String}
    {body : NodeBody} (some : names ≠ []) (found : tree.body? (names.reverse ++ top) = .some body) :
    ∃ entry ∈ entries, entry.names = names ∧ entry.Tells names body := by
  obtain ⟨entry, member, tells⟩ := covers.complete names body some trivial found
  refine ⟨entry, member, tells.names_eq fun name inside => ?_, tells⟩
  exact named.isName_of_below found name (List.mem_reverse.2 inside)

theorem clean (covers : Covers tree top scope entries) :
    ∀ entry ∈ entries, Path.Clean entry.path := by
  intro entry member
  obtain ⟨body, some, plain, -, tells⟩ := covers.tells_names named member
  exact tells.clean some plain

theorem kinds (covers : Covers tree top scope entries) :
    ∀ entry ∈ entries, entry.body = .directory ∨ ∃ bytes, entry.body = .file bytes := by
  intro entry member
  obtain ⟨body, -, -, -, tells⟩ := covers.tells_names named member
  rcases tells.kind with ⟨-, kind⟩ | ⟨content, -, kind⟩
  · exact .inl kind
  · exact .inr ⟨_, kind⟩

theorem entries_pack (covers : Covers tree top scope entries) {ending : Option Fault}
    (complete : (Archive.pack ending entries).failure = none) :
    (Archive.pack ending entries).archive.entries = entries := by
  refine Archive.entries_pack (covers.clean named) ?_ complete
  intro entry member target link
  rcases covers.kinds named entry member with kind | ⟨bytes, kind⟩ <;>
    · rw [link] at kind
      cases kind

theorem mirrors (covers : Covers tree top (fun _ => True) entries) :
    Mirrors tree top entries where
  files := by
    intro names bytes
    constructor
    · rintro ⟨entry, member, rfl, file⟩
      obtain ⟨body, some, -, found, tells⟩ := covers.tells_names named member
      rcases tells.kind with ⟨-, kind⟩ | ⟨content, rfl, kind⟩
      · rw [file] at kind
        cases kind
      · rw [file] at kind
        cases kind
        exact ⟨some, content, found, rfl⟩
    · rintro ⟨some, content, found, rfl⟩
      obtain ⟨entry, member, same, tells⟩ := covers.exists_entry named some found
      rcases tells.kind with ⟨wrong, -⟩ | ⟨_, here, kind⟩
      · cases wrong
      · cases here
        exact ⟨entry, member, same, kind⟩
  directories := by
    intro names
    constructor
    · rintro ⟨entry, member, rfl, directory⟩
      obtain ⟨body, some, -, found, tells⟩ := covers.tells_names named member
      rcases tells.kind with ⟨rfl, -⟩ | ⟨content, -, kind⟩
      · exact ⟨some, found⟩
      · rw [directory] at kind
        cases kind
    · rintro ⟨some, found⟩
      obtain ⟨entry, member, same, tells⟩ := covers.exists_entry named some found
      rcases tells.kind with ⟨-, kind⟩ | ⟨content, wrong, -⟩
      · exact ⟨entry, member, same, kind⟩
      · cases wrong
  kinds := covers.kinds named
  paths := by
    intro entry member
    obtain ⟨body, -, -, -, tells⟩ := covers.tells_names named member
    exact tells.path
  once := by
    rw [List.Nodup, List.pairwise_map]
    refine covers.ordered.imp fun apart same => apart ?_
    rw [same]
  outermostFirst := by
    rintro before inner after lead rfl some leads shorter
    obtain ⟨body, -, -, found, -⟩ := covers.tells_names named (by simp : inner ∈ _)
    -- The directory above a node has an entry of its own.
    have directory := FileTree.directory_above leads shorter found
    obtain ⟨entry, member, same, tells⟩ := covers.exists_entry named some directory
    have kind : entry.body = .directory := by
      cases tells with
      | directory kind path => exact kind
    refine ⟨entry, ?_, same, kind⟩
    rcases List.mem_append.1 member with first | rest
    · exact first
    · exfalso
      rcases List.mem_cons.1 rest with rfl | later
      · exact shorter same.symm
      · have ordered := (List.pairwise_append.1 covers.ordered).2.1
        rw [List.pairwise_cons] at ordered
        exact ordered.1 entry later (same ▸ leads)

end Covers

namespace Archive

def text? (archive : Archive) (names : List String) : Option String :=
  archive.entries.findSome? fun entry =>
    match entry.body with
    | .file content => if entry.names = names then String.fromUTF8? content else none
    | _ => none

/-- The record that the entry of a package tells. Both of its files have to be in the archive. -/
def record? (archive : Archive) (directory : Path) (bare : PackageRecord) :
    Option (Except Error PackageRecord) := do
  let desc ← archive.text? (directory.names ++ [SectionKey.desc.fileName])
  let depends ← archive.text? (directory.names ++ [SectionKey.depends.fileName])
  return do
    let record ← (decodeDesc desc bare).result
    (decodeDepends depends record).result

end Archive

theorem Mirrors.text?_eq {tree : FileTree} {top : Location} {archive : Archive}
    {names : List String} {content : Content} {text : String}
    (mirrors : Mirrors tree top archive.entries) (some : names ≠ [])
    (found : tree.body? (names.reverse ++ top) = .some (.file content))
    (readable : content.text? = .some text) : archive.text? names = .some text := by
  obtain ⟨entry, member, same, file⟩ := (mirrors.files names _).2 ⟨some, content, found, rfl⟩
  refine findSome?_of_only member ?_ ?_
  · simp only [file, same, if_true]
    exact readable
  · intro other inside seen
    -- No other entry has these names.
    refine List.inj_on_of_nodup_map mirrors.once inside member ?_
    rw [same]
    by_contra apart
    split at seen
    · simp [apart] at seen
    · exact seen rfl

namespace Repository

def recordIn (disk : Disk) (directory : Path) (bare : PackageRecord) :
    Except Error PackageRecord := do
  let entry ← readSection disk directory .desc decodeDesc ⟨bare, {}⟩
  let entry ← readOptional disk directory .depends decodeDepends entry
  return entry.record

def Legible (disk : Disk) (directory : Path) : Prop :=
  ∀ key ∈ [SectionKey.desc, .depends],
    ∃ text, disk.readText (directory.join key.fileName) = .ok text

variable {disk : Disk} {directory : Path}

theorem recordIn_of_readText {desc depends : String}
    (first : disk.readText (directory.join SectionKey.desc.fileName) = .ok desc)
    (second : disk.readText (directory.join SectionKey.depends.fileName) = .ok depends)
    (bare : PackageRecord) :
    recordIn disk directory bare =
      (decodeDesc desc bare).result >>= fun record => (decodeDepends depends record).result := by
  rw [recordIn, readSection_of_readText first]
  cases (decodeDesc desc bare).result with
  | error failure => rfl
  | ok record =>
      simp only [Except.map, bind, Except.bind, readOptional_of_readText second,
        readSection_of_readText second]
      cases (decodeDepends depends record).result <;> rfl

end Repository

end PackageAssay

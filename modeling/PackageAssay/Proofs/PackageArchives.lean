import PackageAssay.Package.Archive
import PackageAssay.Proofs.ArchivePaths
import PackageAssay.Proofs.PackageInfoLines
import PackageAssay.Proofs.ScriptletCodec
import PackageAssay.Proofs.StoreRefinement
import PackageAssay.Proofs.WrittenFiles

set_option autoImplicit false

namespace PackageAssay

def ArchiveEntry.fileSize (entry : ArchiveEntry) : Nat :=
  match entry.body with
  | .file content => content.size
  | _ => 0

def ArchiveEntry.totalFileSize : List ArchiveEntry → Nat
  | [] => 0
  | entry :: rest => entry.fileSize + totalFileSize rest

theorem ArchiveEntry.totalFileSize_append (front rest : List ArchiveEntry) :
    totalFileSize (front ++ rest) = totalFileSize front + totalFileSize rest := by
  induction front with
  | nil => simp [totalFileSize]
  | cons entry front ih =>
      rw [List.cons_append, totalFileSize, totalFileSize, ih]
      omega

instance (scriptlets : Scriptlets) : Decidable (∃ hook, scriptlets.body hook ≠ "") :=
  decidable_of_iff _ scriptlets.isEmpty_eq_false_iff

namespace PackageArchive

def directories (files : List String) : List String :=
  (expandManifest files).filter (Text.endsWithChar '/')

def leaves (files : List String) : List String :=
  (files.filter fun entry => (ManifestEntry.parse entry).kind ≠ .directory).map filenameOf

def payload (files : List String) : List ArchiveEntry :=
  directoryEntries files ++ files.filterMap payload?

theorem path_directoryEntries (files : List String) :
    (directoryEntries files).map ArchiveEntry.path = directories files := by
  rw [directoryEntries, List.map_map]
  exact List.map_id _

theorem path_of_payload (entry : String) :
    (payload? entry).map ArchiveEntry.path =
      if (ManifestEntry.parse entry).kind ≠ .directory then some (filenameOf entry) else none := by
  unfold payload? filenameOf
  cases kind : (ManifestEntry.parse entry).kind <;> simp [kind, textEntry]

theorem path_leafEntries (files : List String) :
    (files.filterMap payload?).map ArchiveEntry.path = leaves files := by
  induction files with
  | nil => rfl
  | cons entry rest ih =>
      have here := path_of_payload entry
      rw [leaves] at ih ⊢
      by_cases directory : (ManifestEntry.parse entry).kind = .directory
      · rw [if_neg (not_not_intro directory), Option.map_eq_none_iff] at here
        rw [List.filterMap_cons_none here, ih, List.filter_cons_of_neg (by simp [directory])]
      · rw [if_pos directory] at here
        obtain ⟨found, given, path⟩ := Option.map_eq_some_iff.1 here
        rw [List.filterMap_cons_some given, List.map_cons, ih, path,
          List.filter_cons_of_pos (by simp [directory]), List.map_cons]

theorem path_payload (files : List String) :
    (payload files).map ArchiveEntry.path = directories files ++ leaves files := by
  rw [payload, List.map_append, path_directoryEntries, path_leafEntries]

theorem mem_leaves (files : List String) (path : String) :
    path ∈ leaves files ↔
      ∃ entry ∈ files, (ManifestEntry.parse entry).kind ≠ .directory ∧ filenameOf entry = path := by
  simp only [leaves, List.mem_map, List.mem_filter, decide_eq_true_eq, and_assoc]

theorem mem_path_payload (files : List String) (path : String) :
    path ∈ (payload files).map ArchiveEntry.path ↔ path ∈ expandManifest files := by
  rw [path_payload, List.mem_append, directories, List.mem_filter, mem_leaves]
  constructor
  · rintro (⟨listed, -⟩ | ⟨entry, member, -, rfl⟩)
    · exact listed
    · exact (mem_expandManifest files _).2 ⟨entry, member, .inl rfl⟩
  · intro listed
    by_cases slash : Text.endsWithChar '/' path = true
    · exact .inl ⟨listed, slash⟩
    · obtain ⟨entry, member, rfl | lead⟩ := (mem_expandManifest files _).1 listed
      · refine .inr ⟨entry, member, ?_, rfl⟩
        intro directory
        exact slash (ManifestEntry.endsInSlash_of_directory directory)
      · exact absurd lead.2 slash

theorem mem_directories_of_leading {files : List String} {path directory : String}
    (listed : path ∈ expandManifest files) (lead : directory.toList <+: path.toList)
    (slash : Text.endsWithChar '/' directory = true) : directory ∈ directories files := by
  refine List.mem_filter.2 ⟨(mem_expandManifest files _).2 ?_, slash⟩
  obtain ⟨entry, member, rfl | longer⟩ := (mem_expandManifest files _).1 listed
  · exact ⟨entry, member, .inr ⟨lead, slash⟩⟩
  · exact ⟨entry, member, .inr ⟨lead.trans longer.1, slash⟩⟩

theorem pairwise_directories (files : List String) : (directories files).Pairwise (· < ·) :=
  (pairwise_expandManifest files).filter _

/-- Whatever the payload holds, the directories that lead to it stand before it. -/
theorem ancestor_before {files : List String} {before after : List ArchiveEntry}
    {entry : ArchiveEntry} (split : payload files = before ++ entry :: after) {ancestor : String}
    (proper : ancestor ≠ entry.path) (lead : ancestor.toList <+: entry.path.toList)
    (slash : Text.endsWithChar '/' ancestor = true) :
    ⟨ancestor, .directory, 0o755⟩ ∈ before := by
  have listed : entry.path ∈ expandManifest files := by
    rw [← mem_path_payload, split]
    simp
  have inside := mem_directories_of_leading listed lead slash
  have made : ⟨ancestor, .directory, 0o755⟩ ∈ directoryEntries files :=
    List.mem_map.2 ⟨ancestor, inside, rfl⟩
  rw [payload] at split
  rcases List.append_eq_append_iff.1 split with ⟨others, rfl, -⟩ | ⟨others, parted, rest⟩
  · exact List.mem_append_left _ made
  cases others with
  | nil =>
      rw [List.append_nil] at parted
      rwa [← parted]
  -- Among the directories the ancestor is the lesser text.
  | cons next others =>
      cases rest
      have ordered := pairwise_directories files
      rw [← path_directoryEntries, parted, List.map_append, List.map_cons,
        List.pairwise_append] at ordered
      rw [parted] at made
      rcases List.mem_append.1 made with earlier | behind
      · exact earlier
      · have greater : entry.path = ancestor ∨ entry.path < ancestor := by
          rcases List.mem_cons.1 behind with same | later
          · exact .inl (by rw [← same])
          · refine .inr ((List.pairwise_cons.1 ordered.2.1).1 ancestor ?_)
            exact List.mem_map.2 ⟨_, later, rfl⟩
        rcases greater with same | greater
        · exact absurd same.symm proper
        · exact absurd (String.lt_iff.1 greater) (List.IsPrefix.le lead)

theorem fileSize_textEntry (path text : String) :
    (textEntry path text).fileSize = text.utf8ByteSize := rfl

theorem payloadBytes_eq (entry : String) :
    payloadBytes entry =
      Int64.ofNat (((payload? entry).map ArchiveEntry.fileSize).getD 0) := by
  have feed : "\n".utf8ByteSize = 1 := rfl
  cases kind : (ManifestEntry.parse entry).kind with
  | directory => simp [payloadBytes, payload?, ManifestEntry.isRegular, kind]
  | symlink target =>
      simp [payloadBytes, payload?, ManifestEntry.isRegular, kind, ArchiveEntry.fileSize]
  | file =>
      simp [payloadBytes, payload?, ManifestEntry.isRegular, kind, fileSize_textEntry, feed]
  | altered =>
      simp [payloadBytes, payload?, ManifestEntry.isRegular, kind, fileSize_textEntry, feed]

theorem foldl_payloadBytes (files : List String) (counted : Int64) :
    (files.map payloadBytes).foldl (· + ·) counted =
      counted + Int64.ofNat (ArchiveEntry.totalFileSize (files.filterMap payload?)) := by
  induction files generalizing counted with
  | nil => simp [ArchiveEntry.totalFileSize]
  | cons entry rest ih =>
      rw [List.map_cons, List.foldl_cons, ih, payloadBytes_eq, Int64.add_assoc, ← Int64.ofNat_add]
      cases given : payload? entry with
      | none => simp [given]
      | some found => simp [given, ArchiveEntry.totalFileSize]

theorem totalFileSize_directoryEntries (files : List String) :
    ArchiveEntry.totalFileSize (directoryEntries files) = 0 := by
  rw [directoryEntries]
  generalize (expandManifest files).filter _ = paths
  induction paths with
  | nil => rfl
  | cons path rest ih =>
      rw [List.map_cons, ArchiveEntry.totalFileSize, ih]
      rfl

theorem payloadSize_eq (files : List String) :
    payloadSize files = Int64.ofNat (ArchiveEntry.totalFileSize (payload files)) := by
  rw [payloadSize, foldl_payloadBytes, payload, ArchiveEntry.totalFileSize_append,
    totalFileSize_directoryEntries, Nat.zero_add, Int64.zero_add]

def fileList (files : List String) : String := Text.joinLines (expandManifest files)

theorem manifestEntries_eq (files : List String) :
    manifestEntries files =
      if files = [] then [] else textEntry fileListName (fileList files ++ "\n") :: payload files :=
  rfl

theorem rows_fileList {files : List String}
    (clean : ∀ entry ∈ files, (ManifestEntry.parse entry).Clean) (some : files ≠ []) :
    Text.rows (fileList files) = expandManifest files := by
  refine Text.rows_joinLines _ ?_ ?_
  · obtain ⟨entry, rest, rfl⟩ := List.exists_cons_of_ne_nil some
    exact List.ne_nil_of_mem ((mem_expandManifest _ _).2 ⟨entry, by simp, .inl rfl⟩)
  · intro path listed feed
    obtain ⟨entry, member, rfl | lead⟩ := (mem_expandManifest files path).1 listed
    · exact (clean entry member).1 feed
    · exact (clean entry member).1 (lead.1.subset feed)

theorem clean_payload {files : List String}
    (clean : ∀ entry ∈ files, (ManifestEntry.parse entry).Clean) :
    ∀ entry ∈ payload files, Path.Clean entry.path := by
  intro entry member
  have listed := (mem_path_payload files entry.path).1 (List.mem_map.2 ⟨entry, member, rfl⟩)
  obtain ⟨given, inside, same | lead⟩ := (mem_expandManifest files _).1 listed
  · rw [same]
    exact (clean given inside).path
  · exact (clean given inside).path.of_leading lead.1 lead.2

theorem hasGrown_payload (files : List String) :
    ∀ entry ∈ payload files, entry.body.hasGrown = false := by
  intro entry member
  rcases List.mem_append.1 member with directory | leaf
  · obtain ⟨path, -, rfl⟩ := List.mem_map.1 directory
    rfl
  · obtain ⟨given, -, found⟩ := List.mem_filterMap.1 leaf
    unfold payload? at found
    cases kind : (ManifestEntry.parse given).kind <;> simp only [kind] at found <;> cases found <;>
      rfl

theorem clean_of_isName {name : String} (plain : IsName name) : Path.Clean name := by
  refine ⟨name, .inl rfl, ?_⟩
  simpa [Path.components, Text.pieces_of_notMem _ plain.whole] using plain

theorem mem_entries {record : PackageRecord} {entry : ArchiveEntry}
    (member : entry ∈ entries record) :
    (∃ name text, IsName name ∧ entry = textEntry name text) ∨ entry ∈ payload record.files := by
  rw [entries, manifestEntries_eq, List.cons_append, List.mem_cons, List.mem_append] at member
  rcases member with same | install | manifest
  · exact .inl ⟨_, _, by constructor <;> decide, same⟩
  · split at install
    · cases install
    · exact .inl ⟨_, _, by constructor <;> decide, List.mem_singleton.1 install⟩
  · split at manifest
    · cases manifest
    · rcases List.mem_cons.1 manifest with same | inside
      · exact .inl ⟨_, _, by constructor <;> decide, same⟩
      · exact .inr inside

theorem clean_entries {record : PackageRecord}
    (clean : ∀ entry ∈ record.files, (ManifestEntry.parse entry).Clean) :
    ∀ entry ∈ entries record, Path.Clean entry.path := by
  intro entry member
  rcases mem_entries member with ⟨name, text, plain, rfl⟩ | inside
  · exact clean_of_isName plain
  · exact clean_payload clean entry inside

theorem hasGrown_entries (record : PackageRecord) :
    ∀ entry ∈ entries record, entry.body.hasGrown = false := by
  intro entry member
  rcases mem_entries member with ⟨name, text, -, rfl⟩ | inside
  · rfl
  · exact hasGrown_payload record.files entry inside

theorem bytes_ofEntry_textEntry (name text : String) :
    (UnpackedEntry.ofEntry (textEntry name text)).bytes = .ok text.toUTF8 := by
  simp [UnpackedEntry.bytes, UnpackedEntry.ofEntry, textEntry, Segment.toBytes, Except.map]

theorem packed_of_make {record sized : PackageRecord} {directory path : Path} {layout : Layout}
    {disk later : Disk}
    (done : make record directory layout disk = .ok (sized, path) later) :
    sized = { record with size := payloadSize record.files } ∧
      (Archive.pack none (entries sized)).failure = none ∧
      ∃ middle, Operation.writeFile path
        (.archive (Archive.pack none (entries sized)).archive) middle = .ok () later := by
  simp only [make, Operation.bind_eq_ok_iff] at done
  obtain ⟨_, middle, -, _, written, stored, ends⟩ := done
  cases packed : (Archive.pack none
      (entries { record with size := payloadSize record.files })).failure with
  | some fault =>
      simp only [packed] at ends
      cases ends
  | none =>
      simp only [packed, Operation.pure_eq_ok_iff] at ends
      obtain ⟨same, rfl⟩ := ends
      cases same
      exact ⟨rfl, packed, middle, stored⟩

section Made

variable {record sized : PackageRecord} {directory path : Path} {layout : Layout}
  {disk later : Disk}

section

variable (done : make record directory layout disk = .ok (sized, path) later)

include done

theorem unpacked_of_make :
    contents later path = .ok
      ⟨(Archive.pack none (entries sized)).archive.entries.map UnpackedEntry.ofEntry, none⟩ := by
  obtain ⟨-, complete, middle, written⟩ := packed_of_make done
  obtain ⟨node, found, body⟩ := Disk.node_of_writeFile written
  simp only [contents, found, body]
  rw [Archive.unpack_of_settled (hasGrown_entries sized) complete]

end

variable (clean : ∀ entry ∈ record.files, (ManifestEntry.parse entry).Clean)
  (done : make record directory layout disk = .ok (sized, path) later)

include clean done

theorem contents_of_make :
    contents later path = .ok ⟨(entries sized).map UnpackedEntry.ofEntry, none⟩ := by
  obtain ⟨same, complete, -⟩ := packed_of_make done
  rw [unpacked_of_make done,
    Archive.unpacked_of_pack (clean_entries (by rw [same]; exact clean)) complete]

theorem list_of_make :
    list later path = .ok (packageInfoName ::
      ((if ∃ hook, record.scriptlets.body hook ≠ "" then [installName] else []) ++
        if record.files = [] then []
        else fileListName :: (payload record.files).map ArchiveEntry.path)) := by
  obtain ⟨same, -⟩ := packed_of_make done
  have paths : (entries sized).map ArchiveEntry.path = packageInfoName ::
      ((if record.scriptlets.isEmpty then [] else [installName]) ++
        if record.files = [] then []
        else fileListName :: (payload record.files).map ArchiveEntry.path) := by
    rw [same, entries, manifestEntries_eq]
    cases record.scriptlets.isEmpty <;> by_cases none : record.files = [] <;>
      simp [none, textEntry]
  have scripts : (if record.scriptlets.isEmpty then [] else [installName]) =
      if ∃ hook, record.scriptlets.body hook ≠ "" then [installName] else [] := by
    by_cases some : ∃ hook, record.scriptlets.body hook ≠ ""
    · rw [if_pos some, record.scriptlets.isEmpty_eq_false_iff.2 some]
      rfl
    · rw [if_neg some, if_pos]
      simpa [← record.scriptlets.isEmpty_eq_false_iff] using some
  rw [list, contents_of_make clean done, ← scripts, ← paths]
  simp only [bind, Except.bind, List.map_map]
  rfl

theorem read_of_make :
    read later path = (PackageInfo.parse (PackageInfo.render sized)).mapError .archive := by
  have text : String.fromUTF8? (PackageInfo.render sized).toUTF8 =
      some (PackageInfo.render sized) := text?_ofText _
  rw [read, contents_of_make clean done]
  simp only [bind, Except.bind, readEntries, entries, List.cons_append, List.map_cons]
  rw [List.find?_cons_of_pos (by simp [UnpackedEntry.ofEntry, textEntry])]
  simp only [bytes_ofEntry_textEntry, Except.mapError, text]

end Made

/-- How the archive at a path tells of a record. The payload are the entries behind the file list,
which names them in the given text, and `sized` is the record with the size of the payload. -/
structure Shape (record sized : PackageRecord) (disk : Disk) (path : Path) (names : String)
    (payload : List ArchiveEntry) : Prop where
  listed : list disk path = .ok (packageInfoName ::
    ((if ∃ hook, record.scriptlets.body hook ≠ "" then [installName] else []) ++
      if record.files = [] then [] else fileListName :: payload.map ArchiveEntry.path))
  paths : payload.map ArchiveEntry.path = directories record.files ++ leaves record.files
  sorted : (directories record.files).Pairwise (· < ·)
  ancestors : ∀ (before after : List ArchiveEntry) (entry : ArchiveEntry) (ancestor : String),
    payload = before ++ entry :: after → ancestor ≠ entry.path →
    ancestor.toList <+: entry.path.toList → Text.endsWithChar '/' ancestor = true →
    ⟨ancestor, .directory, 0o755⟩ ∈ before
  held : record.files ≠ [] → ∃ front,
    contents disk path = .ok ⟨front ++
      (textEntry fileListName (names ++ "\n") :: payload).map UnpackedEntry.ofEntry, none⟩ ∧
    fileListName ∉ front.map UnpackedEntry.path
  named : record.files ≠ [] → ∀ name,
    name ∈ payload.map ArchiveEntry.path ↔ name ∈ Text.rows names
  size : sized = { record with size := Int64.ofNat (ArchiveEntry.totalFileSize payload) }
  read : PackageArchive.read disk path =
    (PackageInfo.parse (PackageInfo.render sized)).mapError .archive
  reported : ∀ found, PackageArchive.read disk path = .ok found →
    match (PackageInfo.lateSizes sized).getLast? with
    | some value => Numeral.int64? value = some found.size
    | none => found.size = sized.size

theorem held_of_contents {record : PackageRecord} {disk : Disk} {path : Path}
    (held : contents disk path = .ok ⟨(entries record).map UnpackedEntry.ofEntry, none⟩)
    (some : record.files ≠ []) : ∃ front,
      contents disk path = .ok ⟨front ++ (textEntry fileListName (fileList record.files ++ "\n") ::
        payload record.files).map UnpackedEntry.ofEntry, none⟩ ∧
      fileListName ∉ front.map UnpackedEntry.path := by
  refine ⟨(textEntry packageInfoName (PackageInfo.render record) ::
    (if record.scriptlets.isEmpty then []
      else [textEntry installName (encodeInstall record.scriptlets)])).map .ofEntry, ?_, ?_⟩
  · rw [held, entries, manifestEntries_eq, if_neg some, List.map_append]
  · have others : fileListName ≠ packageInfoName ∧ fileListName ≠ installName := by decide
    cases record.scriptlets.isEmpty <;> simp [UnpackedEntry.ofEntry, textEntry, others]

theorem shape_of_make {record sized : PackageRecord} {directory path : Path} {layout : Layout}
    {disk later : Disk}
    (clean : ∀ entry ∈ record.files, (ManifestEntry.parse entry).Clean)
    (done : make record directory layout disk = .ok (sized, path) later) :
    Shape record sized later path (fileList record.files) (payload record.files) := by
  have same := (packed_of_make done).1
  have files : sized.files = record.files := by rw [same]
  constructor
  case listed => exact list_of_make clean done
  case paths => exact path_payload record.files
  case sorted => exact pairwise_directories record.files
  case ancestors =>
    intro before after entry ancestor split proper lead slash
    exact ancestor_before split proper lead slash
  case held =>
    rw [← files]
    exact held_of_contents (contents_of_make clean done)
  case named =>
    intro some name
    rw [mem_path_payload, rows_fileList clean some]
  case size => rw [same, payloadSize_eq]
  case read => exact read_of_make clean done
  case reported =>
    intro found reads
    rw [read_of_make clean done] at reads
    cases parsed : PackageInfo.parse (PackageInfo.render sized) with
    | error error =>
        rw [parsed] at reads
        cases reads
    | ok record =>
        rw [parsed] at reads
        cases reads
        exact PackageInfo.size_of_parse_render parsed

end PackageArchive

theorem package_archive_has_shape (record sized : PackageRecord) (directory path : Path)
    (layout : Layout) (disk later : Disk)
    (clean : ∀ entry ∈ record.files, (ManifestEntry.parse entry).Clean)
    (done : PackageArchive.make record directory layout disk = .ok (sized, path) later) :
    ∃ names payload, PackageArchive.Shape record sized later path names payload :=
  ⟨_, _, PackageArchive.shape_of_make clean done⟩

def smallPackage : PackageRecord where
  name := "foo"
  version := "1.0-1"
  license := ["GPL"]
  files := ["usr/lib -> lib64", "etc/foo.conf*", "usr/share/doc/", "usr/bin/foo"]
  scriptlets := { postInstall := "echo" }

theorem package_archive_has_shape_smallPackage :
    (∀ entry ∈ smallPackage.files, (ManifestEntry.parse entry).Clean) ∧
    ∃ sized path later, PackageArchive.make smallPackage ⟨"pkg"⟩ {} newDisk =
        .ok (sized, path) later ∧
      sized.size = 26 ∧
      PackageArchive.list later path = .ok [".PKGINFO", ".INSTALL", ".FILELIST", "etc/", "usr/",
        "usr/bin/", "usr/share/", "usr/share/doc/", "usr/lib", "etc/foo.conf", "usr/bin/foo"] ∧
      ∀ found, PackageArchive.read later path = .ok found → found.size = sized.size := by
  have clean : ∀ entry ∈ smallPackage.files, (ManifestEntry.parse entry).Clean := by decide
  have succeeds : Operation.succeeds (PackageArchive.make smallPackage ⟨"pkg"⟩ {}) newDisk =
      true := by decide +kernel
  obtain ⟨⟨sized, path⟩, later, made⟩ := (Operation.succeeds_iff _).1 succeeds
  obtain ⟨names, payload, shape⟩ := package_archive_has_shape _ _ _ _ _ _ _ clean made
  have size : sized.size = 26 := by
    rw [(PackageArchive.packed_of_make made).1]
    decide +kernel
  refine ⟨clean, sized, path, later, made, size, ?_, ?_⟩
  · rw [shape.listed, shape.paths]
    decide +kernel
  · intro found reads
    have reported := shape.reported found reads
    have none : PackageInfo.lateSizes sized = [] := by
      rw [(PackageArchive.packed_of_make made).1]
      decide +kernel
    rwa [none] at reported

def twoLineLicense : PackageRecord where
  name := "foo"
  version := "1.0-1"
  license := ["GPL\nsize = 7"]
  files := ["usr/bin/foo"]

def readsOtherSize (disk : Disk) (made : PackageRecord × Path) : Bool :=
  match PackageArchive.read disk made.2 with
  | .ok found => found.size != made.1.size
  | .error _ => false

/-- A line of the license is taken for the size. -/
theorem package_archive_reports_other_size :
    (∀ entry ∈ twoLineLicense.files, (ManifestEntry.parse entry).Clean) ∧
    ∃ sized path later found,
      PackageArchive.make twoLineLicense ⟨"pkg"⟩ {} newDisk = .ok (sized, path) later ∧
      PackageArchive.read later path = .ok found ∧ found.size ≠ sized.size := by
  refine ⟨by decide, ?_⟩
  have run : Operation.succeedsWith (fun made later => readsOtherSize later made)
      (PackageArchive.make twoLineLicense ⟨"pkg"⟩ {}) newDisk = true := by decide +kernel
  obtain ⟨⟨sized, path⟩, later, made, other⟩ := (Operation.succeedsWith_iff _ _).1 run
  rw [readsOtherSize] at other
  split at other
  · next found reads => exact ⟨sized, path, later, found, made, reads, bne_iff_ne.1 other⟩
  · cases other

end PackageAssay

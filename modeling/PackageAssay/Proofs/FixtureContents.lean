import PackageAssay.Fixture
import PackageAssay.Proofs.Digests
import PackageAssay.Proofs.PackageArchives

set_option autoImplicit false

namespace PackageAssay

theorem directory_of_walk_mark {tree : FileTree} {goal : Goal} {links : Nat}
    {names : List String} {last : String} {place found : Location}
    (mark : last = Path.dotMark ∨ last = Path.slashMark)
    (done : walk tree goal links (names ++ [last]) place = .ok found) :
    tree.body? found = some .directory := by
  -- A link costs one of the links, every other name leaves fewer names.
  induction links using Nat.strongRecOn generalizing names place with
  | _ links fewerLinks =>
    induction names generalizing place with
    | nil =>
        have directory := directory_of_walk_cons _ _ _ _ done
        rw [List.nil_append, walk_mark _ _ _ _ directory mark, walk_nil] at done
        rwa [← Except.ok.inj done]
    | cons name rest ih =>
        cases firstStep_of_walk_cons _ _ _ _ done with
        | mark _ later => exact ih later
        | up _ later => exact ih later
        | absent _ only _ => simp at only
        | stay only _ => simp at only
        | enter _ _ _ _ later => exact ih later
        | follow target fewer _ _ one later =>
            rw [List.append_eq, ← List.append_assoc] at later
            exact fewerLinks fewer (by omega) later

theorem Path.exists_mark {path : Path} (slash : path.endsInSlash = true) :
    ∃ mark, path.steps = path.names ++ [mark] ∧ (mark = dotMark ∨ mark = slashMark) := by
  by_cases dot : path.endsInDot = true
  · exact ⟨dotMark, by rw [steps, if_pos dot, dots, if_pos dot], .inl rfl⟩
  · exact ⟨slashMark, by rw [steps, if_neg dot, if_pos slash], .inr rfl⟩

theorem Path.join_nothing (base : Path) :
    (base.join "").text = "" ∨ (base.join "").endsInSlash = true := by
  have relative : (Path.mk "").isAbsolute = false := by decide
  rw [join, if_neg (by simp [relative])]
  split
  · next closed => simpa [endsInSlash] using closed
  · exact .inr (by simp [endsInSlash, endsInSlash_closed])

theorem Disk.not_endsInSlash_of_writeFile {disk later : Disk} {path : Path} {content : Content}
    (done : Operation.writeFile path content disk = .ok () later) : path.endsInSlash = false := by
  obtain ⟨location, located, noDirectory, -⟩ := written_of_writeFile done
  rw [Bool.eq_false_iff]
  intro slash
  obtain ⟨mark, steps, isMark⟩ := Path.exists_mark slash
  rw [locate_of_sound _ (sound_of_locate located), steps] at located
  exact noDirectory (directory_of_walk_mark isMark located)

theorem ManifestEntry.kind_of_isRegular {entry : ManifestEntry}
    (regular : entry.isRegular = true) : entry.kind = .file ∨ entry.kind = .altered := by
  simpa [isRegular] using regular

namespace Fixture

variable {root path : Path} {entry data : String} {disk later : Disk}

theorem fileText_of_unended (some : data ≠ "") (unended : Text.endsWithChar '\n' data = false) :
    fileText data = data ++ "\n" := by
  rw [fileText, if_neg]
  rw [unended]
  simp [some]

theorem written_of_writeFile (done : writeFile path data disk = .ok () later) :
    ∃ middle, Operation.writeFile path (.ofText (fileText data)) middle = .ok () later := by
  rw [writeFile, Operation.bind_eq_ok_iff] at done
  obtain ⟨_, middle, -, written⟩ := done
  exact ⟨middle, written⟩

theorem installEntry_of_isRegular (regular : (ManifestEntry.parse entry).isRegular = true) :
    installEntry root entry = writeFile (root.join (filenameOf entry)) entry := by
  rw [installEntry, makeEntry, filenameOf]
  rcases ManifestEntry.kind_of_isRegular regular with kind | kind <;> simp only [kind]

variable (regular : (ManifestEntry.parse entry).isRegular = true)
  (done : installEntry root entry disk = .ok () later)

include regular done

/-- The empty entry names the root itself, which is no file. -/
theorem ne_empty_of_installEntry : entry ≠ "" := by
  rw [installEntry_of_isRegular regular] at done
  obtain ⟨middle, written⟩ := written_of_writeFile done
  intro empty
  rw [empty] at written
  rcases Path.join_nothing root with bare | slash
  · exact (Repository.sound_of_writeFile written).2.1 bare
  · exact Bool.eq_false_iff.1 (Disk.not_endsInSlash_of_writeFile written) slash

theorem read_of_installEntry (unended : Text.endsWithChar '\n' entry = false) :
    later.read (root.join (filenameOf entry)) = .ok (.ofText (entry ++ "\n")) := by
  have some := ne_empty_of_installEntry regular done
  rw [installEntry_of_isRegular regular] at done
  obtain ⟨middle, written⟩ := written_of_writeFile done
  rw [fileText_of_unended some unended] at written
  exact Disk.read_of_writeFile written

theorem fingerprint_of_installEntry (unended : Text.endsWithChar '\n' entry = false) :
    later.fingerprint (root.join (filenameOf entry)) =
      (BackupEntry.ofManifest entry).fingerprint := by
  rw [Disk.fingerprint_of_read (read_of_installEntry regular done unended)]
  rfl

end Fixture

namespace PackageArchive

variable {record sized : PackageRecord} {directory path : Path} {layout : Layout}
  {disk later : Disk} {entry : String}

theorem payload_of_isRegular (regular : (ManifestEntry.parse entry).isRegular = true) :
    payload? entry = some (textEntry (filenameOf entry) (entry ++ "\n")) := by
  rw [payload?, filenameOf]
  rcases ManifestEntry.kind_of_isRegular regular with kind | kind <;> simp only [kind]

theorem mem_entries_of_isRegular (regular : (ManifestEntry.parse entry).isRegular = true)
    (listed : entry ∈ record.files) :
    textEntry (filenameOf entry) (entry ++ "\n") ∈ entries record := by
  have inside : textEntry (filenameOf entry) (entry ++ "\n") ∈ payload record.files :=
    List.mem_append_right _
      (List.mem_filterMap.2 ⟨entry, listed, payload_of_isRegular regular⟩)
  rw [entries, manifestEntries_eq, if_neg (List.ne_nil_of_mem listed)]
  exact List.mem_append_right _ (List.mem_cons_of_mem _ inside)

theorem accept_textEntry {name text : String} {accepted : ArchiveEntry} (clean : Path.Clean name)
    (taken : Archive.accept (textEntry name text) = .ok accepted) :
    accepted = textEntry name text := by
  obtain ⟨kept, body, rfl⟩ := Archive.accept_clean clean taken
  rw [← Except.ok.inj body]

theorem held_of_make (regular : (ManifestEntry.parse entry).isRegular = true)
    (clean : Path.Clean (filenameOf entry)) (listed : entry ∈ record.files)
    (done : make record directory layout disk = .ok (sized, path) later) :
    ∃ unpacked held, contents later path = .ok unpacked ∧ unpacked.failure = none ∧
      held ∈ unpacked.entries ∧ held.path = filenameOf entry ∧
      held.bytes = .ok (entry ++ "\n").toUTF8 := by
  obtain ⟨same, complete, -⟩ := packed_of_make done
  have given : textEntry (filenameOf entry) (entry ++ "\n") ∈ entries sized :=
    mem_entries_of_isRegular regular (by rwa [same])
  obtain ⟨accepted, kept, taken⟩ := Archive.exists_mem_pack given complete
  rw [accept_textEntry clean taken] at kept
  exact ⟨_, _, unpacked_of_make done, rfl, List.mem_map.2 ⟨_, kept, rfl⟩, rfl,
    bytes_ofEntry_textEntry _ _⟩

theorem payloadSize_insert (regular : (ManifestEntry.parse entry).isRegular = true)
    (before after : List String) :
    payloadSize (before ++ entry :: after) =
      payloadSize (before ++ after) + Int64.ofNat (entry ++ "\n").toUTF8.size := by
  have size : (textEntry (filenameOf entry) (entry ++ "\n")).fileSize =
      (entry ++ "\n").toUTF8.size := rfl
  rw [payloadSize, payloadSize, foldl_payloadBytes, foldl_payloadBytes, List.filterMap_append,
    List.filterMap_append, List.filterMap_cons_some (payload_of_isRegular regular),
    ArchiveEntry.totalFileSize_append, ArchiveEntry.totalFileSize_append,
    ArchiveEntry.totalFileSize, size, Int64.zero_add, Int64.zero_add, ← Int64.ofNat_add]
  congr 1
  omega

end PackageArchive

/-- A file of a manifest holds its entry and a line feed: as a fixture, in the fingerprint of its
backup entry, and in the archive of a package, whose size it adds to. The mark of an altered file
belongs to its content and not to its path. -/
theorem fixtures_hold_what_archives_hold (entry : String)
    (regular : (ManifestEntry.parse entry).isRegular = true)
    (unended : Text.endsWithChar '\n' entry = false) :
    let bytes := (entry ++ "\n").toUTF8
    let backup := BackupEntry.ofManifest entry
    backup.path = filenameOf entry ∧
    (∀ (root : Path) (disk later : Disk), Fixture.installEntry root entry disk = .ok () later →
      later.fingerprint (root.join (filenameOf entry)) = backup.fingerprint ∧
      ∃ content, later.read (root.join (filenameOf entry)) = .ok content ∧
        content.toBytes = bytes) ∧
    ∀ (record sized : PackageRecord) (directory path : Path) (layout : Layout)
      (disk later : Disk), Path.Clean (filenameOf entry) →
      PackageArchive.make record directory layout disk = .ok (sized, path) later →
      ∀ before after, record.files = before ++ entry :: after →
        (∃ unpacked held, PackageArchive.contents later path = .ok unpacked ∧
          unpacked.failure = none ∧ held ∈ unpacked.entries ∧ held.path = filenameOf entry ∧
          held.bytes = .ok bytes) ∧
        sized.size = PackageArchive.payloadSize (before ++ after) + Int64.ofNat bytes.size := by
  intro bytes backup
  refine ⟨rfl, fun root disk later done => ⟨?_, ?_⟩,
    fun record sized directory path layout disk later clean done before after files => ⟨?_, ?_⟩⟩
  · exact Fixture.fingerprint_of_installEntry regular done unended
  · exact ⟨_, Fixture.read_of_installEntry regular done unended, rfl⟩
  · refine PackageArchive.held_of_make regular clean ?_ done
    rw [files]
    exact List.mem_append_right _ List.mem_cons_self
  · rw [(PackageArchive.packed_of_make done).1, files]
    exact PackageArchive.payloadSize_insert regular before after

theorem fixtures_hold_what_archives_hold_alteredFile :
    (∃ later, Fixture.installEntry ⟨"root"⟩ "etc/foo.conf*" newDisk = .ok () later ∧
      later.fingerprint ⟨"root/etc/foo.conf"⟩ =
        (BackupEntry.ofManifest "etc/foo.conf*").fingerprint) ∧
    ∃ sized path later unpacked held,
      PackageArchive.make smallPackage ⟨"pkg"⟩ {} newDisk = .ok (sized, path) later ∧
      PackageArchive.contents later path = .ok unpacked ∧ held ∈ unpacked.entries ∧
      held.path = "etc/foo.conf" ∧ held.bytes = .ok "etc/foo.conf*\n".toUTF8 ∧
      sized.size = PackageArchive.payloadSize ["usr/lib -> lib64", "usr/share/doc/",
        "usr/bin/foo"] + 14 := by
  obtain ⟨-, installed, packed⟩ :=
    fixtures_hold_what_archives_hold "etc/foo.conf*" (by decide) (by decide)
  have installs : Operation.succeeds (Fixture.installEntry ⟨"root"⟩ "etc/foo.conf*") newDisk =
      true := by decide +kernel
  obtain ⟨_, later, done⟩ := (Operation.succeeds_iff _).1 installs
  refine ⟨⟨later, done, (installed _ _ _ done).1⟩, ?_⟩
  have packs : Operation.succeeds (PackageArchive.make smallPackage ⟨"pkg"⟩ {}) newDisk =
      true := by decide +kernel
  obtain ⟨⟨sized, path⟩, stocked, made⟩ := (Operation.succeeds_iff _).1 packs
  have clean : (ManifestEntry.parse "etc/foo.conf*").Clean := by decide
  obtain ⟨⟨unpacked, held, contents, -, inside, named, bytes⟩, size⟩ :=
    packed smallPackage sized ⟨"pkg"⟩ path {} newDisk stocked clean.path made
      ["usr/lib -> lib64"] ["usr/share/doc/", "usr/bin/foo"] rfl
  exact ⟨sized, path, stocked, unpacked, held, made, contents, inside, named, bytes, size⟩

end PackageAssay

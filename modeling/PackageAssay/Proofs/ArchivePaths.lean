import PackageAssay.Archive.Pack
import PackageAssay.Archive.Unpack
import PackageAssay.Proofs.Manifests
import PackageAssay.Proofs.Paths
import PackageAssay.Proofs.Results

/-!
# Paths that an archive keeps as they are

A relative path made of names alone stands in an archive the way it was given, and so do the
directories on its way.
-/

set_option autoImplicit false

namespace PackageAssay

namespace Path

/-- A relative path made of names, behind the last of which a slash may stand. -/
def Clean (text : String) : Prop :=
  ∃ way, (text = way ∨ text = way ++ "/") ∧ ∀ part ∈ components way, IsName part

theorem not_endsInSlash_of_names {way : String} (names : ∀ part ∈ components way, IsName part) :
    Text.endsWithChar '/' way = false := by
  rw [Bool.eq_false_iff]
  intro slash
  obtain ⟨lead, rfl⟩ := exists_of_endsInSlash slash
  exact (names "" (by simp [components_closed])).some rfl

namespace Clean

variable {text : String}

theorem of_leading (clean : Clean text) {directory : String}
    (lead : directory.toList <+: text.toList) (slash : Text.endsWithChar '/' directory = true) :
    Clean directory := by
  obtain ⟨way, closed, names⟩ := clean
  obtain ⟨before, rfl⟩ := exists_of_endsInSlash slash
  obtain ⟨rest, split⟩ := lead
  have whole : text = before ++ "/" ++ String.ofList rest :=
    String.toList_injective (by simp [← split])
  refine ⟨before, .inr rfl, fun part member => names part ?_⟩
  have parts := components_slash before (String.ofList rest)
  rw [← whole] at parts
  rcases closed with rfl | rfl
  · rw [parts]
    exact List.mem_append_left _ member
  -- The slash at the end leaves one part behind it, which does not belong to the directory.
  · rw [components_closed, ← List.dropLast_concat_getLast (components_ne_nil (String.ofList rest)),
      ← List.append_assoc] at parts
    rw [(List.append_inj_left' parts rfl)]
    exact List.mem_append_left _ member

theorem parts (clean : Clean text) :
    ∃ way, (text = way ∨ text = way ++ "/") ∧ (∀ part ∈ components way, IsName part) ∧
      (Path.mk text).parts = components way := by
  obtain ⟨way, closed, names⟩ := clean
  have kept : (components way).filter (fun part => part ≠ "") = components way := by
    rw [List.filter_eq_self]
    intro part member
    simpa using (names part member).some
  refine ⟨way, closed, names, ?_⟩
  change (components text).filter (fun part => part ≠ "") = _
  rcases closed with rfl | rfl
  · exact kept
  · rw [components_closed, List.filter_append, kept]
    simp

theorem relative (clean : Clean text) : (Path.mk text).isAbsolute = false := by
  obtain ⟨way, closed, names⟩ := clean
  have first : way.toList.head? ≠ some '/' := by
    intro slash
    cases chars : way.toList with
    | nil => simp [chars] at slash
    | cons head tail =>
        rw [chars, List.head?_cons, Option.some.injEq] at slash
        exact (names "" (by simp [components, chars, slash, Text.pieces])).some rfl
  have some : way.toList ≠ [] := by
    intro none
    exact (names "" (by simp [components, none, Text.pieces])).some rfl
  rw [isAbsolute, beq_eq_false_iff_ne]
  rcases closed with rfl | rfl
  · exact first
  · rwa [String.toList_append, List.head?_append_of_ne_nil _ some]

end Clean

end Path

namespace Archive

theorem headerPath_clean {text : String} (clean : Path.Clean text) :
    headerPath ⟨text⟩ false = headerText text := by
  have relative := clean.relative
  obtain ⟨way, closed, each, parts⟩ := clean.parts
  have names : (Path.mk text).names = Path.components way := by
    rw [Path.names, parts, List.filter_eq_self]
    intro part member
    simpa using (each part member).notDot
  have some := Path.components_ne_nil way
  have entries : entryNames ⟨text⟩ = Path.components way := by
    rw [entryNames, names, if_neg (fun none => some none.1)]
  have up : ".." ∉ Path.components way := fun member => (each ".." member).notDots rfl
  have whole : "/".intercalate (Path.components way) ++
      (if (Path.mk text).endsInSlash then "/" else "") = text := by
    rw [Path.intercalate_components, Path.endsInSlash]
    rcases closed with rfl | rfl
    · simp [Path.not_endsInSlash_of_names each]
    · simp [Path.endsInSlash_closed]
  simp only [headerPath, entries, relative, up, some, Bool.false_eq_true, if_false]
  rw [whole]

theorem headerText_eq_ok {text written : String} (done : headerText text = .ok written) :
    written = text := by
  unfold headerText at done
  split at done
  · cases done
  · split at done
    · cases done
    · cases done
      rfl

theorem acceptPath_clean {text path : String} (clean : Path.Clean text)
    (taken : acceptPath text = .ok path) : path = text := by
  rw [acceptPath, headerPath_clean clean] at taken
  cases header : headerText text with
  | ok written =>
      rw [header] at taken
      cases taken
      exact headerText_eq_ok header
  | error refusal =>
      -- A path for which the header has no room is announced as a whole.
      simp only [header] at taken
      split at taken
      · cases taken
      · cases cut : headerPath ⟨String.ofList (takeBytes maxHeaderName text.toList)⟩ true with
        | error refusal =>
            rw [cut] at taken
            cases taken
        | ok beginning =>
            rw [cut] at taken
            cases taken
            rfl

theorem acceptBody_eq_ok {body kept : EntryBody} (taken : acceptBody body = .ok kept) :
    kept = body ∨ ∃ target written, body = .link target ∧ kept = .link written := by
  unfold acceptBody at taken
  split at taken
  · next target =>
      cases header : headerTarget target with
      | error refusal =>
          rw [header] at taken
          cases taken
      | ok written =>
          rw [header] at taken
          cases taken
          exact .inr ⟨target, written, rfl, rfl⟩
  · cases taken
    exact .inl rfl

theorem accept_clean {entry accepted : ArchiveEntry} (clean : Path.Clean entry.path)
    (taken : accept entry = .ok accepted) :
    ∃ kept, acceptBody entry.body = .ok kept ∧ accepted = { entry with body := kept } := by
  simp only [accept, bind_eq_ok_iff] at taken
  obtain ⟨kept, body, path, accepts, same⟩ := taken
  cases same
  exact ⟨kept, body, by rw [acceptPath_clean clean accepts]⟩

theorem ofEntry_accept {entry accepted : ArchiveEntry} (clean : Path.Clean entry.path)
    (taken : accept entry = .ok accepted) :
    UnpackedEntry.ofEntry accepted = UnpackedEntry.ofEntry entry := by
  obtain ⟨kept, body, rfl⟩ := accept_clean clean taken
  rcases acceptBody_eq_ok body with rfl | ⟨target, written, held, rfl⟩
  · rfl
  · simp [UnpackedEntry.ofEntry, held]

theorem pack_cons_of_done {ending : Option Fault} {entry : ArchiveEntry}
    {rest : List ArchiveEntry} (done : (pack ending (entry :: rest)).failure = none) :
    ∃ accepted, accept entry = .ok accepted ∧ (pack ending rest).failure = none ∧
      (pack ending (entry :: rest)).archive.entries =
        accepted :: (pack ending rest).archive.entries := by
  cases taken : accept entry with
  | error refusal => simp [pack, taken] at done
  | ok accepted =>
      simp only [pack, taken] at done ⊢
      exact ⟨accepted, rfl, done, rfl⟩

theorem exists_mem_pack {ending : Option Fault} {given : List ArchiveEntry} {entry : ArchiveEntry}
    (member : entry ∈ given) (done : (pack ending given).failure = none) :
    ∃ accepted ∈ (pack ending given).archive.entries, accept entry = .ok accepted := by
  induction given with
  | nil => cases member
  | cons first rest ih =>
      obtain ⟨accepted, taken, later, entries⟩ := pack_cons_of_done done
      rw [entries]
      rcases List.mem_cons.1 member with rfl | below
      · exact ⟨accepted, List.mem_cons_self, taken⟩
      · obtain ⟨other, kept, found⟩ := ih below later
        exact ⟨other, List.mem_cons_of_mem _ kept, found⟩

theorem hasGrown_accept {entry accepted : ArchiveEntry} (taken : accept entry = .ok accepted) :
    accepted.body.hasGrown = entry.body.hasGrown := by
  simp only [accept, bind_eq_ok_iff] at taken
  obtain ⟨kept, body, path, -, same⟩ := taken
  cases same
  rcases acceptBody_eq_ok body with rfl | ⟨target, written, held, rfl⟩
  · rfl
  · rw [held]
    rfl

theorem unpack_of_settled {ending : Option Fault} {given : List ArchiveEntry}
    (settled : ∀ entry ∈ given, entry.body.hasGrown = false)
    (done : (pack ending given).failure = none) :
    unpack (.archive (pack ending given).archive) =
      ⟨(pack ending given).archive.entries.map UnpackedEntry.ofEntry, none⟩ := by
  have none : ((pack ending given).archive.entries.any fun entry => entry.body.hasGrown) =
      false := by
    induction given with
    | nil => rfl
    | cons entry rest ih =>
        obtain ⟨accepted, taken, later, entries⟩ := pack_cons_of_done done
        rw [entries, List.any_cons, hasGrown_accept taken, settled entry List.mem_cons_self,
          ih (fun other member => settled other (List.mem_cons_of_mem _ member)) later]
        rfl
  rw [unpack, none]
  rfl

theorem ending_of_pack {ending : Option Fault} {given : List ArchiveEntry}
    (done : (pack ending given).failure = none) : ending = none := by
  induction given with
  | nil => exact done
  | cons entry rest ih =>
      obtain ⟨accepted, -, later, -⟩ := pack_cons_of_done done
      exact ih later

theorem entries_pack {ending : Option Fault} {given : List ArchiveEntry}
    (clean : ∀ entry ∈ given, Path.Clean entry.path)
    (noLink : ∀ entry ∈ given, ∀ target, entry.body ≠ .link target)
    (done : (pack ending given).failure = none) : (pack ending given).archive.entries = given := by
  induction given with
  | nil => rfl
  | cons entry rest ih =>
      obtain ⟨accepted, taken, later, entries⟩ := pack_cons_of_done done
      obtain ⟨kept, body, rfl⟩ := accept_clean (clean entry (by simp)) taken
      rw [entries, ih (fun other member => clean other (by simp [member]))
        (fun other member => noLink other (by simp [member])) later]
      rcases acceptBody_eq_ok body with rfl | ⟨target, -, held, -⟩
      · rfl
      · exact absurd held (noLink entry (by simp) target)

theorem unpacked_of_pack {ending : Option Fault} {given : List ArchiveEntry}
    (clean : ∀ entry ∈ given, Path.Clean entry.path)
    (done : (pack ending given).failure = none) :
    (pack ending given).archive.entries.map UnpackedEntry.ofEntry =
      given.map UnpackedEntry.ofEntry := by
  induction given with
  | nil => rfl
  | cons entry rest ih =>
      obtain ⟨accepted, taken, later, entries⟩ := pack_cons_of_done done
      rw [entries, List.map_cons, List.map_cons, ofEntry_accept (clean entry (by simp)) taken,
        ih (fun other member => clean other (by simp [member])) later]

end Archive

namespace ManifestEntry

def components (entry : ManifestEntry) : List String :=
  if entry.kind = .directory then (Path.components entry.path).dropLast
  else Path.components entry.path

def Clean (entry : ManifestEntry) : Prop :=
  '\n' ∉ entry.path.toList ∧
    ∀ part ∈ entry.components, part ≠ "" ∧ part ≠ "." ∧ part ≠ ".."

instance (entry : ManifestEntry) : Decidable entry.Clean := inferInstanceAs (Decidable (_ ∧ _))

theorem endsInSlash_of_directory {entry : String} (directory : (parse entry).kind = .directory) :
    Text.endsWithChar '/' (parse entry).path = true := by
  unfold parse at directory ⊢
  split at directory
  · cases directory
  · split at directory
    · cases directory
    · simp only at directory ⊢
      by_contra other
      simp [other] at directory

variable {entry : ManifestEntry}

theorem Clean.isName (clean : entry.Clean) (part : String) (member : part ∈ entry.components) :
    IsName part := by
  obtain ⟨some, notDot, notDots⟩ := clean.2 part member
  refine ⟨some, ?_, notDot, notDots⟩
  have inside : part ∈ Path.components entry.path := by
    unfold components at member
    split at member
    · exact List.dropLast_subset _ member
    · exact member
  obtain ⟨piece, found, rfl⟩ := List.mem_map.1 inside
  simpa using Text.notMem_of_mem_pieces _ piece found

theorem Clean.path {text : String} (clean : (parse text).Clean) :
    Path.Clean (parse text).path := by
  by_cases directory : (parse text).kind = .directory
  · obtain ⟨lead, closed⟩ := Path.exists_of_endsInSlash (endsInSlash_of_directory directory)
    refine ⟨lead, .inr closed, fun part member => clean.isName part ?_⟩
    rw [components, if_pos directory, closed, Path.components_closed]
    simpa using member
  · refine ⟨_, .inl rfl, fun part member => clean.isName part ?_⟩
    rwa [components, if_neg directory]

end ManifestEntry

end PackageAssay

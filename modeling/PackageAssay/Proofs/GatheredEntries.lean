import PackageAssay.Database.Publish
import PackageAssay.Proofs.AlikeDisks
import PackageAssay.Proofs.MadeDirectories

/-!
# What is gathered for an archive

Gathering walks through a directory and all it holds. If nothing stops it, its entries tell of
every node below the directory once, and of a directory before what the directory holds.
-/

set_option autoImplicit false

namespace PackageAssay

theorem FileTree.directory_above {tree : FileTree} {top : Location} {lead names : List String}
    {body : NodeBody} (leads : lead <+: names) (shorter : lead ≠ names)
    (found : tree.body? (names.reverse ++ top) = some body) :
    tree.body? (lead.reverse ++ top) = some .directory := by
  obtain ⟨more, rfl⟩ := leads
  have below : more.reverse ≠ [] := by
    intro none
    rw [List.reverse_eq_nil_iff] at none
    exact shorter (by rw [none, List.append_nil])
  rw [List.reverse_append, List.append_assoc] at found
  exact directory_of_below below found

theorem FileTree.Named.isName_of_below {tree : FileTree} (named : tree.Named)
    {more place : Location} {body : NodeBody} (found : tree.body? (more ++ place) = some body) :
    ∀ name ∈ more, IsName name := by
  induction more generalizing body with
  | nil => simp
  | cons name rest ih =>
      have here : IsName name := by
        apply named name (rest ++ place)
        rw [← List.cons_append, found]
        simp
      have above := ih (FileTree.directory_of_child found)
      simpa using ⟨here, above⟩

namespace ArchiveEntry

def names (entry : ArchiveEntry) : List String := (Path.mk entry.path).names

inductive Tells (entry : ArchiveEntry) (names : List String) : NodeBody → Prop
  | directory (kind : entry.body = .directory)
      (path : entry.path = "/".intercalate names ∨ entry.path = "/".intercalate names ++ "/") :
      Tells entry names .directory
  | file {content : Content} (kind : entry.body = .file content.toBytes)
      (path : entry.path = "/".intercalate names) : Tells entry names (.file content)

theorem Tells.names_eq {entry : ArchiveEntry} {names : List String} {body : NodeBody}
    (tells : entry.Tells names body) (plain : ∀ name ∈ names, IsName name) :
    entry.names = names := by
  have parts : (Path.mk ("/".intercalate names)).parts = names :=
    Path.parts_intercalate fun name member => ⟨(plain name member).some, (plain name member).whole⟩
  have kept : names.filter (fun part => part ≠ ".") = names := by
    rw [List.filter_eq_self]
    intro name member
    simpa using (plain name member).notDot
  have opened : (Path.mk ("/".intercalate names)).names = names := by rw [Path.names, parts, kept]
  have closed : (Path.mk ("/".intercalate names ++ "/")).names = names := by
    have same : (Path.mk ("/".intercalate names ++ "/")).parts = names := by
      rw [Path.parts_eq, Path.components_closed, List.filter_append, ← Path.parts_eq, parts]
      simp
    rw [Path.names, same, kept]
  cases tells with
  | directory kind path =>
      rcases path with path | path
      · rw [ArchiveEntry.names, path, opened]
      · rw [ArchiveEntry.names, path, closed]
  | file kind path => rw [ArchiveEntry.names, path, opened]

end ArchiveEntry

/-- The entries tell of the nodes below a location, as far as their names are in the scope, of each
one once and of a directory before what it holds. -/
structure Covers (tree : FileTree) (top : Location) (scope : List String → Prop)
    (entries : List ArchiveEntry) : Prop where
  told : ∀ entry ∈ entries, ∃ names body, names ≠ [] ∧ scope names ∧
    tree.body? (names.reverse ++ top) = some body ∧ entry.Tells names body
  complete : ∀ names body, names ≠ [] → scope names →
    tree.body? (names.reverse ++ top) = some body → ∃ entry ∈ entries, entry.Tells names body
  ordered : entries.Pairwise fun before after => ¬after.names <+: before.names

namespace Covers

variable {tree : FileTree} {top : Location} {scope other : List String → Prop}
  {entries more : List ArchiveEntry}

theorem congr (covers : Covers tree top scope entries)
    (same : ∀ names body, names ≠ [] → tree.body? (names.reverse ++ top) = some body →
      (scope names ↔ other names)) : Covers tree top other entries where
  told := by
    intro entry member
    obtain ⟨names, body, some, inside, found, tells⟩ := covers.told entry member
    exact ⟨names, body, some, (same names body some found).1 inside, found, tells⟩
  complete := fun names body some inside found =>
    covers.complete names body some ((same names body some found).2 inside) found
  ordered := covers.ordered

theorem nil : Covers tree top (fun _ => False) [] where
  told := by simp
  complete := by simp
  ordered := .nil

theorem single {entry : ArchiveEntry} {lead : List String} {body : NodeBody} (some : lead ≠ [])
    (found : tree.body? (lead.reverse ++ top) = .some body) (tells : entry.Tells lead body) :
    Covers tree top (· = lead) [entry] where
  told := by
    intro entry member
    cases List.mem_singleton.1 member
    exact ⟨lead, body, some, rfl, found, tells⟩
  complete := by
    rintro names held - rfl here
    cases found.symm.trans here
    exact ⟨entry, List.mem_singleton_self entry, tells⟩
  ordered := List.pairwise_singleton _ _

variable (named : tree.Named)

include named

theorem exists_names (covers : Covers tree top scope entries) {entry : ArchiveEntry}
    (member : entry ∈ entries) : scope entry.names := by
  obtain ⟨names, body, some, inside, found, tells⟩ := covers.told entry member
  have plain : ∀ name ∈ names, IsName name := fun name member =>
    named.isName_of_below found name (List.mem_reverse.2 member)
  rwa [tells.names_eq plain]

theorem append (covers : Covers tree top scope entries) (later : Covers tree top other more)
    (apart : ∀ before after, scope before → other after → ¬after <+: before) :
    Covers tree top (fun names => scope names ∨ other names) (entries ++ more) where
  told := by
    intro entry member
    rcases List.mem_append.1 member with first | second
    · obtain ⟨names, body, some, inside, rest⟩ := covers.told entry first
      exact ⟨names, body, some, .inl inside, rest⟩
    · obtain ⟨names, body, some, inside, rest⟩ := later.told entry second
      exact ⟨names, body, some, .inr inside, rest⟩
  complete := by
    rintro names body some (inside | inside) found
    · obtain ⟨entry, member, tells⟩ := covers.complete names body some inside found
      exact ⟨entry, List.mem_append_left _ member, tells⟩
    · obtain ⟨entry, member, tells⟩ := later.complete names body some inside found
      exact ⟨entry, List.mem_append_right _ member, tells⟩
  ordered := by
    refine List.pairwise_append.2 ⟨covers.ordered, later.ordered, ?_⟩
    intro before first after second
    exact apart _ _ (covers.exists_names named first) (later.exists_names named second)

end Covers

namespace Gathered

theorem andThen_of_done {first : Gathered} {next : Unit → Gathered}
    (done : (first.andThen next).failure = none) :
    first.failure = none ∧ (next ()).failure = none ∧
      (first.andThen next).entries = first.entries ++ (next ()).entries := by
  rw [andThen] at done ⊢
  cases failure : first.failure with
  | some fault =>
      rw [failure] at done
      cases failure.symm.trans done
  | none =>
      rw [failure] at done
      exact ⟨rfl, done, rfl⟩

end Gathered

namespace Disk

variable {disk : Disk} {path : Path}

theorem exists_place_of_children {children : List (String × NodeBody)}
    (listed : disk.children path = .ok children) :
    ∃ place, disk.locate .target path = .ok place ∧ disk.tree.body? place = some .directory ∧
      ∀ name body, (name, body) ∈ children ↔ disk.tree.body? (name :: place) = some body := by
  cases located : disk.locate .target path with
  | error fault =>
      rw [Disk.children, located] at listed
      cases listed
  | ok place =>
      refine ⟨place, rfl, ?_⟩
      cases held : disk.tree.body? place with
      | none =>
          rw [Disk.children, located] at listed
          simp only [bind, Except.bind, held] at listed
          cases listed
      | some body =>
          by_cases directory : body = .directory
          · subst directory
            rw [children_of_locate located held] at listed
            cases listed
            refine ⟨rfl, fun name body => ?_⟩
            simp only [List.mem_filterMap, FileTree.mem_childNames, Option.map_eq_some_iff,
              Prod.mk.injEq]
            constructor
            · rintro ⟨_, -, _, found, rfl, rfl⟩
              exact found
            · intro found
              exact ⟨name, by rw [found]; rfl, body, found, rfl, rfl⟩
          · rw [Disk.children, located] at listed
            cases body with
            | directory => exact absurd rfl directory
            | file content =>
                simp only [bind, Except.bind, held] at listed
                cases listed
            | link target =>
                simp only [bind, Except.bind, held] at listed
                cases listed

def Lists (disk : Disk) (path : Path) (children : List (String × NodeBody)) : Prop :=
  ∃ found, disk.children path = .ok found ∧ sortedByName found = children

theorem single_of_children {children : List (String × NodeBody)}
    (listed : disk.children path = .ok children) (name : String) (body other : NodeBody)
    (here : (name, body) ∈ children) (there : (name, other) ∈ children) : body = other := by
  obtain ⟨place, -, -, held⟩ := exists_place_of_children listed
  exact Option.some.inj (((held name body).1 here).symm.trans ((held name other).1 there))

theorem Lists.exists_place {children : List (String × NodeBody)}
    (lists : disk.Lists path children) :
    ∃ place, disk.locate .target path = .ok place ∧ disk.tree.body? place = some .directory ∧
      ∀ name body, (name, body) ∈ children ↔ disk.tree.body? (name :: place) = some body := by
  obtain ⟨found, listed, rfl⟩ := lists
  obtain ⟨place, located, directory, held⟩ := exists_place_of_children listed
  refine ⟨place, located, directory, fun name body => ?_⟩
  rw [mem_sortedByName (single_of_children listed), held]

theorem Lists.pairwise {children : List (String × NodeBody)} (lists : disk.Lists path children) :
    children.Pairwise fun child next => child.1 < next.1 := by
  obtain ⟨found, -, rfl⟩ := lists
  exact pairwise_sortedByName found

theorem file_of_read {content : Content} (read : disk.read path = .ok content) :
    ∃ place, disk.locate .target path = .ok place ∧
      disk.tree.body? place = some (.file content) := by
  cases found : disk.node .target path with
  | error fault =>
      rw [Disk.read, found] at read
      cases read
  | ok node =>
      obtain ⟨place, located, held⟩ := (node_eq_ok_iff _ _).1 found
      rw [Disk.read, found] at read
      obtain ⟨body, times⟩ := node
      cases body with
      | file held' =>
          cases read
          exact ⟨place, located, by rw [FileTree.body?, held]; rfl⟩
      | directory => cases read
      | link target => cases read

theorem file_of_readText {text : String} (read : disk.readText path = .ok text) :
    ∃ place content, disk.locate .target path = .ok place ∧
      disk.tree.body? place = some (.file content) ∧ content.text? = some text := by
  cases found : disk.read path with
  | error fault =>
      rw [readText, found] at read
      cases read
  | ok content =>
      obtain ⟨place, located, body⟩ := file_of_read found
      refine ⟨place, content, located, body, ?_⟩
      rw [readText, found] at read
      simp only [bind, Except.bind] at read
      cases told : content.text? with
      | none =>
          rw [told] at read
          cases read
      | some other =>
          rw [told] at read
          cases read
          rfl

end Disk

section Gathering

variable {disk : Disk} {path : Path} {top : Location} {lead : List String}

theorem covers_gatherFile (linkless : disk.tree.Linkless)
    (way : disk.placeOf path = lead.reverse ++ top) (some : lead ≠ [])
    (done : (gatherFile disk ("/".intercalate lead) path).failure = none) :
    Covers disk.tree top (lead <+: ·) (gatherFile disk ("/".intercalate lead) path).entries := by
  rw [gatherFile] at done ⊢
  cases read : disk.read path with
  | error fault =>
      rw [read] at done
      cases done
  | ok content =>
      obtain ⟨place, located, found⟩ := Disk.file_of_read read
      cases way.symm.trans (Disk.placeOf_of_locate linkless located)
      refine (Covers.single some found (.file rfl rfl)).congr ?_
      rintro names body - present
      constructor
      · rintro rfl
        exact List.prefix_rfl
      -- Nothing can stand below a file.
      · intro below
        by_contra longer
        have directory := FileTree.directory_above below (Ne.symm longer) present
        rw [found] at directory
        cases directory

theorem covers_each (named : disk.tree.Named) {gather : String × NodeBody → Gathered}
    {children : List (String × NodeBody)}
    (ordered : children.Pairwise fun child next => child.1 < next.1)
    (each : ∀ child ∈ children, (gather child).failure = none →
      Covers disk.tree top (lead ++ [child.1] <+: ·) (gather child).entries)
    (done : (Gathered.each gather children).failure = none) :
    Covers disk.tree top (fun names => ∃ child ∈ children, lead ++ [child.1] <+: names)
      (Gathered.each gather children).entries := by
  induction children with
  | nil => exact Covers.nil.congr (by simp)
  | cons child rest ih =>
      rw [List.pairwise_cons] at ordered
      rw [Gathered.each] at done ⊢
      obtain ⟨first, others, entries⟩ := Gathered.andThen_of_done done
      have here := each child (by simp) first
      have later := ih ordered.2 (fun other member => each other (by simp [member])) others
      rw [entries]
      refine (here.append named later ?_).congr (by simp)
      -- What stands below one name is not above anything below another name.
      rintro before after below ⟨other, member, beside⟩ above
      have same := List.prefix_of_prefix_length_le below (beside.trans above) (by simp)
      have equal := same.eq_of_length (by simp)
      simp only [List.append_cancel_left_eq, List.cons.injEq, and_true] at equal
      exact Std.lt_irrefl (equal ▸ ordered.1 other member)

def gatherBelow (disk : Disk) (depth : Nat) (name : String) (path : Path)
    (child : String × NodeBody) : Gathered :=
  let childName := name ++ "/" ++ child.1
  let childPath := path.join child.1
  if child.2.isDirectory || (child.2.isLink && disk.isDirectory childPath) then
    gatherDirectory disk depth childName childName childPath
  else gatherFile disk childName childPath

theorem exists_children_of_gatherDirectory {depth : Nat} {entryName name : String}
    (done : (gatherDirectory disk (depth + 1) entryName name path).failure = none) :
    ∃ children, disk.Lists path children ∧
      (Gathered.each (gatherBelow disk depth name path) children).failure = none ∧
      (gatherDirectory disk (depth + 1) entryName name path).entries =
        [directoryEntry entryName] ++
          (Gathered.each (gatherBelow disk depth name path) children).entries := by
  cases listed : disk.children path with
  | error fault =>
      rw [gatherDirectory, listed] at done
      cases done
  | ok children =>
      have unfolded : gatherDirectory disk (depth + 1) entryName name path =
          (Gathered.single (directoryEntry entryName)).andThen fun _ =>
            Gathered.each (gatherBelow disk depth name path) (sortedByName children) := by
        rw [gatherDirectory, listed]
        rfl
      rw [unfolded] at done ⊢
      exact ⟨_, ⟨children, listed, rfl⟩, (Gathered.andThen_of_done done).2⟩

theorem covers_children {children : List (String × NodeBody)}
    {entries : List ArchiveEntry}
    (held : ∀ name body, (name, body) ∈ children ↔
      disk.tree.body? (name :: (lead.reverse ++ top)) = some body)
    (covers : Covers disk.tree top (fun names => ∃ child ∈ children, lead ++ [child.1] <+: names)
      entries) :
    Covers disk.tree top (fun names => lead <+: names ∧ names ≠ lead) entries := by
  refine covers.congr ?_
  intro names body _ present
  constructor
  · rintro ⟨child, -, below⟩
    refine ⟨(List.prefix_append _ _).trans below, ?_⟩
    rintro rfl
    exact absurd below.length_le (by simp)
  · rintro ⟨⟨more, rfl⟩, longer⟩
    cases more with
    | nil => exact absurd (List.append_nil lead) longer
    | cons name more =>
        -- What leads on to the node stands in the directory as well.
        obtain ⟨first, there⟩ : ∃ first,
            disk.tree.body? ((lead ++ [name]).reverse ++ top) = some first := by
          by_cases last : lead ++ [name] = lead ++ name :: more
          · exact ⟨body, last ▸ present⟩
          · exact ⟨_, FileTree.directory_above (by simp) last present⟩
        exact ⟨(name, first), (held name first).2 (by simpa using there), by simp⟩

/-- One level at a time: the directory, and behind it what stands under each of its names. -/
theorem covers_gatherDirectory (linkless : disk.tree.Linkless) (named : disk.tree.Named)
    (depth : Nat) {entryName : String} (some : lead ≠ [])
    (way : disk.placeOf path = lead.reverse ++ top)
    (entry : entryName = "/".intercalate lead ∨ entryName = "/".intercalate lead ++ "/")
    (done : (gatherDirectory disk depth entryName ("/".intercalate lead) path).failure = none) :
    Covers disk.tree top (lead <+: ·)
      (gatherDirectory disk depth entryName ("/".intercalate lead) path).entries := by
  -- The depth runs out only where the gathering fails.
  induction depth generalizing lead entryName path with
  | zero => cases done
  | succ depth ih =>
      obtain ⟨children, listed, others, entries⟩ := exists_children_of_gatherDirectory done
      obtain ⟨place, located, directory, held⟩ := listed.exists_place
      cases way.symm.trans (Disk.placeOf_of_locate linkless located)
      have below : ∀ child ∈ children,
          (gatherBelow disk depth ("/".intercalate lead) path child).failure = none →
            Covers disk.tree top (lead ++ [child.1] <+: ·)
              (gatherBelow disk depth ("/".intercalate lead) path child).entries := by
        rintro ⟨name, body⟩ member finished
        have found := (held name body).1 member
        have plain : IsName name := named _ _ (by rw [found]; simp)
        have longer : "/".intercalate lead ++ "/" ++ name = "/".intercalate (lead ++ [name]) := by
          rw [String.intercalate_append_of_ne_nil some (by simp), String.intercalate_singleton]
        have onward : disk.placeOf (path.join name) = (lead ++ [name]).reverse ++ top := by
          rw [Disk.placeOf_join plain, way]
          simp
        simp only [gatherBelow, longer] at finished ⊢
        split
        · next isDirectory =>
            rw [if_pos isDirectory] at finished
            exact ih (by simp) onward (.inl rfl) finished
        · next other =>
            rw [if_neg other] at finished
            exact covers_gatherFile linkless onward (by simp) finished
      rw [entries]
      have first : Covers disk.tree top (· = lead) [directoryEntry entryName] :=
        .single some directory (.directory rfl entry)
      have rest := covers_children held
        (covers_each named listed.pairwise below others)
      refine (first.append named rest ?_).congr ?_
      · rintro before after rfl ⟨above, other⟩ under
        exact other (under.eq_of_length_le above.length_le)
      · intro names body _ _
        by_cases same : names = lead <;> simp [same]

theorem covers_gatherTop (linkless : disk.tree.Linkless) (named : disk.tree.Named)
    (way : disk.placeOf path = top) {child : String × NodeBody}
    (found : disk.tree.body? (child.1 :: top) = some child.2)
    (done : (gatherTop disk path child).failure = none) :
    Covers disk.tree top ([child.1] <+: ·) (gatherTop disk path child).entries := by
  obtain ⟨name, body⟩ := child
  have plain : IsName name := named _ _ (by rw [found]; simp)
  have onward : disk.placeOf (path.join name) = [name].reverse ++ top := by
    rw [Disk.placeOf_join plain, way]
    rfl
  have single : name = "/".intercalate [name] := String.intercalate_singleton.symm
  simp only [gatherTop] at done ⊢
  split
  · next isDirectory =>
      rw [if_pos isDirectory] at done
      have covers : Covers disk.tree top ([name] <+: ·) (gatherDirectory disk Path.maxLength
          ("/".intercalate [name] ++ "/") ("/".intercalate [name]) (path.join name)).entries :=
        covers_gatherDirectory linkless named _ (by simp) onward (.inr rfl)
          (by rw [← single]; exact done)
      rwa [← single] at covers
  · next other =>
      rw [if_neg other] at done
      cases node : disk.node .target (path.join name) with
      | error fault =>
          rw [node] at done
          cases done
      | ok reached =>
          obtain ⟨place, located, held⟩ := (Disk.node_eq_ok_iff _ _).1 node
          cases onward.symm.trans (Disk.placeOf_of_locate linkless located)
          have same : reached.body = body := by
            rw [List.reverse_singleton, List.singleton_append] at held
            rw [FileTree.body?, held] at found
            exact Option.some.inj found
          simp only [node, same, other, Bool.false_eq_true, if_false] at done ⊢
          have covers : Covers disk.tree top ([name] <+: ·)
              (gatherFile disk ("/".intercalate [name]) (path.join name)).entries :=
            covers_gatherFile linkless onward (by simp) (by rw [← single]; exact done)
          rwa [← single] at covers

theorem gatherChildren_of_outside (linkless : disk.tree.Linkless) {archive : Path}
    {children : List (String × NodeBody)} (plain : ∀ child ∈ children, IsName child.1)
    (outside : ¬Location.within (disk.placeOf archive)
      (disk.placeOf path) = true) :
    gatherChildren disk archive path children = Gathered.each (gatherTop disk path) children := by
  cases children with
  | nil => rfl
  | cons first rest =>
      have apart : leadsTo disk (path.join first.1) archive = false := by
        rw [Bool.eq_false_iff]
        intro meets
        rw [leadsTo] at meets
        split at meets
        · next here there located target =>
            cases beq_iff_eq.1 meets
            apply outside
            rw [Disk.placeOf_of_locate linkless target, ← Disk.placeOf_of_locate linkless located,
              Disk.placeOf_join (plain first (by simp)), Location.within,
              List.isSuffixOf_iff_suffix]
            exact List.suffix_cons _ _
        · cases meets
      simp only [gatherChildren, apart, Bool.false_eq_true, if_false]
      rfl

theorem covers_gatherChildren (linkless : disk.tree.Linkless) (named : disk.tree.Named)
    (way : disk.placeOf path = top) {archive : Path}
    (outside : ¬Location.within (disk.placeOf archive) top = true)
    {children : List (String × NodeBody)} (ordered : children.Pairwise fun child next =>
      child.1 < next.1)
    (held : ∀ name body, (name, body) ∈ children ↔ disk.tree.body? (name :: top) = some body)
    (done : (gatherChildren disk archive path children).failure = none) :
    Covers disk.tree top (fun _ => True) (gatherChildren disk archive path children).entries := by
  have plain : ∀ child ∈ children, IsName child.1 := by
    rintro ⟨name, body⟩ member
    exact named name top (by rw [(held name body).1 member]; simp)
  rw [gatherChildren_of_outside linkless plain (way ▸ outside)] at done ⊢
  have each : ∀ child ∈ children, (gatherTop disk path child).failure = none →
      Covers disk.tree top ([] ++ [child.1] <+: ·) (gatherTop disk path child).entries :=
    fun child member => covers_gatherTop linkless named way ((held child.1 child.2).1 member)
  refine (covers_children held (covers_each named ordered each done)).congr ?_
  intro names body some _
  simpa using some

end Gathering

namespace Disk

variable {disk later : Disk}

theorem sorted_children_congr {path : Path} {children : List (String × NodeBody)}
    {place : Location} (listed : disk.children path = .ok children)
    (located : disk.locate .target path = .ok place)
    (again : later.locate .target path = .ok place)
    (still : later.tree.body? place = some .directory)
    (same : ∀ name, later.tree.body? (name :: place) = disk.tree.body? (name :: place)) :
    ∃ others, later.children path = .ok others ∧ sortedByName others = sortedByName children := by
  have listedAgain := children_of_locate again still
  refine ⟨_, listedAgain, sortedByName_congr (single_of_children listed) fun (name, body) => ?_⟩
  obtain ⟨_, here, -, held⟩ := exists_place_of_children listed
  obtain ⟨_, there, -, holds⟩ := exists_place_of_children listedAgain
  cases located.symm.trans here
  cases again.symm.trans there
  rw [held, holds, same]

end Disk

section Again

variable {disk later : Disk}
  (same : ∀ location, later.tree.body? location = disk.tree.body? location)
  (workingDirectory : later.workingDirectory = disk.workingDirectory)

include same workingDirectory

theorem alike_of_same : disk.Alike later :=
  ⟨FileTree.alike_of_body?_eq same, workingDirectory.symm⟩

theorem sameOrder_children (path : Path) :
    SameOutcome (fun children others => sortedByName others = sortedByName children)
      (disk.children path) (later.children path) := by
  have located := (alike_of_same same workingDirectory).locate_eq .target path
  cases here : disk.locate .target path with
  | error fault =>
      rw [Disk.children, Disk.children, ← located, here]
      exact .error fault
  | ok place =>
      have again := located.symm.trans here
      cases held : disk.tree.body? place with
      | none =>
          simp only [Disk.children, here, again, bind, Except.bind, same, held]
          exact .error _
      | some body =>
          cases body with
          | directory =>
              have listed := Disk.children_of_locate here held
              obtain ⟨others, listedAgain, sorted⟩ := Disk.sorted_children_congr listed here again
                ((same place).trans held) fun name => same _
              rw [listed, listedAgain]
              exact .ok sorted
          | file | link =>
              simp only [Disk.children, here, again, bind, Except.bind, same, held]
              exact .error _

theorem gatherFile_of_same (name : String) (path : Path) :
    gatherFile later name path = gatherFile disk name path := by
  have read := (alike_of_same same workingDirectory).sameBytes_read path
  rw [gatherFile, gatherFile]
  generalize disk.read path = content, later.read path = other at read
  cases read with
  | error fault => rfl
  | ok bytes => simp only [bytes]

theorem gatherDirectory_of_same (depth : Nat) (entryName name : String) (path : Path) :
    gatherDirectory later depth entryName name path =
      gatherDirectory disk depth entryName name path := by
  induction depth generalizing entryName name path with
  | zero => rfl
  | succ depth ih =>
      have order := sameOrder_children same workingDirectory path
      simp only [gatherDirectory, ih, gatherFile_of_same same workingDirectory,
        (alike_of_same same workingDirectory).isDirectory_eq]
      generalize disk.children path = children, later.children path = others at order
      cases order with
      | error fault => rfl
      | ok sorted => simp only [sorted]

theorem gatherTop_of_same (path : Path) (child : String × NodeBody) :
    gatherTop later path child = gatherTop disk path child := by
  have node := (alike_of_same same workingDirectory).sameNode .target (path.join child.1)
  simp only [gatherTop, gatherDirectory_of_same same workingDirectory,
    gatherFile_of_same same workingDirectory]
  generalize disk.node .target (path.join child.1) = found,
    later.node .target (path.join child.1) = other at node
  cases node with
  | error fault => rfl
  | ok bodies => simp only [bodies.isDirectory_eq]

theorem gatherChildren_of_same (archive path : Path) (children : List (String × NodeBody)) :
    gatherChildren later archive path children = gatherChildren disk archive path children := by
  have leads (child : Path) : leadsTo later child archive = leadsTo disk child archive := by
    simp only [leadsTo, (alike_of_same same workingDirectory).locate_eq]
  have top : gatherTop later path = gatherTop disk path :=
    funext (gatherTop_of_same same workingDirectory path)
  cases children with
  | nil => rfl
  | cons first rest => simp only [gatherChildren, leads, top]

end Again

end PackageAssay

import PackageAssay.Proofs.PackageInfoLines

/-!
# Package information that is written and read back

Where no value goes over a line, each line gives its own key and the trimmed value back, whatever
signs the value holds. So a record comes back with all its values trimmed.
-/

set_option autoImplicit false

namespace PackageAssay.PackageInfo

def entries (fields : List (String × List String)) : List (String × String) :=
  fields.flatMap fun field => field.2.map fun value => (field.1, Text.trim value)

theorem keyValues_pairs {key : String} (isKey : IsKey key) (values : List String)
    (whole : ∀ value ∈ values, '\n' ∉ value.toList) :
    ((pairs key values).flatMap Text.rows).filterMap keyValue =
      values.map fun value => (key, Text.trim value) := by
  induction values with
  | nil => rfl
  | cons value rest ih =>
      have line := whole_pair isKey (whole value List.mem_cons_self)
      have later := ih fun other member => whole other (List.mem_cons_of_mem _ member)
      rw [pairs] at later ⊢
      rw [List.map_cons, List.flatMap_cons, Text.rows_of_whole _ line, List.singleton_append,
        List.filterMap_cons_some (keyValue_pair isKey value), later, List.map_cons]

theorem keyValues_fields (fields : List (String × List String))
    (isKeys : ∀ field ∈ fields, IsKey field.1)
    (whole : ∀ field ∈ fields, ∀ value ∈ field.2, '\n' ∉ value.toList) :
    ((fields.flatMap fun field => pairs field.1 field.2).flatMap Text.rows).filterMap keyValue =
      entries fields := by
  induction fields with
  | nil => rfl
  | cons field rest ih =>
      have here := keyValues_pairs (isKeys field List.mem_cons_self) field.2
        (whole field List.mem_cons_self)
      have later := ih (fun other member => isKeys other (List.mem_cons_of_mem _ member))
        fun other member => whole other (List.mem_cons_of_mem _ member)
      rw [List.flatMap_cons, List.flatMap_append, List.filterMap_append, here, later]
      rfl

def Stored (fields : List (String × List String)) (start result : PackageRecord) : Prop :=
  (entries fields).foldlM store start = .ok result

theorem entries_single (key : String) (values : List String) :
    entries [(key, values)] = values.map fun value => (key, Text.trim value) := by
  simp [entries]

theorem Stored.append {left right : List (String × List String)}
    {start next result : PackageRecord} (first : Stored left start next)
    (others : Stored right next result) : Stored (left ++ right) start result := by
  have parted : entries (left ++ right) = entries left ++ entries right := List.flatMap_append
  rw [Stored, parted, List.foldlM_append, first]
  exact others

theorem Stored.cons {field : String × List String} {rest : List (String × List String)}
    {start next result : PackageRecord} (first : Stored [field] start next)
    (others : Stored rest next result) : Stored (field :: rest) start result :=
  first.append others

theorem stored_single {key value : String} {start next : PackageRecord}
    (stores : store start (key, Text.trim value) = .ok next) :
    Stored [(key, [value])] start next := by
  rw [Stored, entries_single, List.map_singleton, List.foldlM_cons, stores]
  rfl

structure ListKey (key : String) (α : Type) where
  items : PackageRecord → List α
  put : List α → PackageRecord → PackageRecord
  item : String → α
  stores (record value) :
    store record (key, value) = .ok (put (items record ++ [item value]) record) := by intros; rfl
  items_put (list record) : items (put list record) = list := by intros; rfl
  put_put (list other record) : put list (put other record) = put list record := by intros; rfl
  put_items (record) : put (items record) record = record := by intros; rfl

theorem ListKey.stored {α : Type} {key : String} (list : ListKey key α) (values : List String)
    (start : PackageRecord) :
    Stored [(key, values)] start
      (list.put (list.items start ++ values.map fun value => list.item (Text.trim value)) start) := by
  induction values generalizing start with
  | nil =>
      rw [List.map_nil, List.append_nil, list.put_items]
      rfl
  | cons value rest ih =>
      have later := ih (list.put (list.items start ++ [list.item (Text.trim value)]) start)
      rw [list.items_put, list.put_put, List.append_assoc, List.singleton_append] at later
      rw [Stored, entries_single] at later ⊢
      rw [List.map_cons, List.map_cons, List.foldlM_cons, list.stores]
      exact later

namespace ListKey

def license : ListKey "license" String where
  items := PackageRecord.license
  put items record := { record with license := items }
  item value := value

def replaces : ListKey "replaces" String where
  items := PackageRecord.replaces
  put items record := { record with replaces := items }
  item value := value

def groups : ListKey "group" String where
  items := PackageRecord.groups
  put items record := { record with groups := items }
  item value := value

def depends : ListKey "depend" String where
  items := PackageRecord.depends
  put items record := { record with depends := items }
  item value := value

def conflicts : ListKey "conflict" String where
  items := PackageRecord.conflicts
  put items record := { record with conflicts := items }
  item value := value

def provides : ListKey "provides" String where
  items := PackageRecord.provides
  put items record := { record with provides := items }
  item value := value

def backup : ListKey "backup" BackupEntry where
  items := PackageRecord.backup
  put items record := { record with backup := items }
  item path := ⟨path, ""⟩

def removes : ListKey "remove" String where
  items := PackageRecord.removes
  put items record := { record with removes := items }
  item value := value

end ListKey

def trimmedEarly (record : PackageRecord) : PackageRecord where
  name := Text.trim record.name
  version := Text.trim record.version
  description := Text.trim record.description
  url := Text.trim record.url
  buildDate := Text.trim record.buildDate
  packager := Text.trim record.packager
  size := record.size

/-- The record with each value trimmed, and without what package information does not hold. -/
def trimmed (record : PackageRecord) : PackageRecord :=
  { trimmedEarly record with
    arch := Text.trim record.arch
    license := record.license.map Text.trim
    replaces := record.replaces.map Text.trim
    groups := record.groups.map Text.trim
    depends := record.depends.map Text.trim
    conflicts := record.conflicts.map Text.trim
    provides := record.provides.map Text.trim
    backup := record.backup.map fun entry => ⟨Text.trim entry.path, ""⟩
    removes := record.removes.map Text.trim }

theorem stored_size (size : Int64) (start : PackageRecord) :
    Stored [("size", [toString size.toInt])] start { start with size := size } := by
  apply stored_single
  rw [Numeral.trim_toString]
  simp only [store, Numeral.int64?_toString]

theorem stored_arch (arch : String) (start : PackageRecord) (unset : start.arch = "") :
    Stored [("arch", if arch = "" then [] else [arch])] start
      { start with arch := Text.trim arch } := by
  by_cases none : arch = ""
  · have same : { start with arch := Text.trim "" } = start := by
      have blank : Text.trim "" = start.arch := unset.symm
      rw [blank]
    rw [if_pos none, none, same]
    rfl
  · rw [if_neg none]
    exact stored_single rfl

theorem stored_late (record : PackageRecord) :
    Stored (lateFields record) (trimmedEarly record) (trimmed record) := by
  refine (stored_arch _ _ rfl).cons <| (ListKey.license.stored _ _).cons <|
    (ListKey.replaces.stored _ _).cons <| (ListKey.groups.stored _ _).cons <|
    (ListKey.depends.stored _ _).cons <| (ListKey.conflicts.stored _ _).cons <|
    (ListKey.provides.stored _ _).cons <| (ListKey.backup.stored _ _).cons <|
    (ListKey.removes.stored _ _).cons ?_
  rw [List.map_map]
  rfl

theorem stored_fields (record : PackageRecord) : Stored (fields record) {} (trimmed record) := by
  refine (stored_single rfl).cons <| (stored_single rfl).cons <| (stored_single rfl).cons <|
    (stored_single rfl).cons <| (stored_single rfl).cons <| (stored_single rfl).cons <|
    (stored_size _ _).cons ?_
  exact stored_late record

/-- The texts that are written, apart from the size. -/
def writtenValues (record : PackageRecord) : List String :=
  [record.name, record.version, record.description, record.url, record.buildDate, record.packager,
    record.arch] ++ record.license ++ record.replaces ++ record.groups ++ record.depends ++
  record.conflicts ++ record.provides ++ record.backup.map BackupEntry.path ++ record.removes

theorem whole_fields (record : PackageRecord)
    (whole : ∀ value ∈ writtenValues record, '\n' ∉ value.toList) :
    ∀ field ∈ fields record, ∀ value ∈ field.2, '\n' ∉ value.toList := by
  have size : '\n' ∉ (toString record.size.toInt).toList := (Numeral.isLine_toString _).1
  simp only [writtenValues, List.cons_append, List.nil_append, List.forall_mem_cons,
    List.forall_mem_append] at whole
  have arch : ∀ value ∈ if record.arch = "" then [] else [record.arch],
      '\n' ∉ value.toList := by
    split <;> simp [whole]
  simp only [fields, earlyFields, lateFields, List.cons_append, List.nil_append,
    List.forall_mem_cons]
  tauto

/-- A record comes back trimmed, unless name or version are blank. -/
theorem parse_render_eq (record : PackageRecord)
    (whole : ∀ value ∈ writtenValues record, '\n' ∉ value.toList) :
    (parse (render record) =
      if Text.trim record.name ≠ "" ∧ Text.trim record.version ≠ "" then .ok (trimmed record)
      else .error .lacksNameOrVersion) ∧
    ArchiveError.lacksNameOrVersion.message = ".PKGINFO lacks pkgname or pkgver" := by
  have stored : ((Text.lines (render record)).filterMap keyValue).foldlM store {} =
      .ok (trimmed record) := by
    rw [keyValues_render, lines_eq,
      keyValues_fields _ (isKey_fields record) (whole_fields record whole)]
    exact stored_fields record
  refine ⟨?_, by decide⟩
  rw [parse, stored]
  -- Whether name and version are there is asked of the trimmed record.
  change (if Text.trim record.name = "" ∨ Text.trim record.version = "" then _ else _) = _
  simp only [ne_eq, ← not_or, ite_not]

theorem parse_render_eq_signsInValues :
    parse (render
      { name := " pkg\t", version := "1=2\r", description := "# url = x", arch := " ", size := -5,
        license := ["GPL", "", "size = 7", "GPL"], backup := [⟨"etc/x = y ", "lost"⟩],
        sha1sum := "lost" }) =
      .ok
        { name := "pkg", version := "1=2", description := "# url = x", size := -5,
          license := ["GPL", "", "size = 7", "GPL"], backup := [⟨"etc/x = y", ""⟩] } ∧
    parse (render { name := "pkg", version := " \r" }) = .error .lacksNameOrVersion := by
  constructor
  · rw [(parse_render_eq _ (by decide)).1]
    decide
  · rw [(parse_render_eq _ (by decide)).1]
    decide

end PackageAssay.PackageInfo

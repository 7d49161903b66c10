import Mathlib.Data.List.DropRight
import PackageAssay.Package.Info
import PackageAssay.Proofs.Numerals
import PackageAssay.Proofs.Splits

/-!
# Lines of package information

A line that was written for a key and a value gives both back. A value that goes on behind a line
feed may hold lines of its own, which are read like any other.
-/

set_option autoImplicit false

namespace PackageAssay

namespace Text

theorem trimChars_eq (text : List Char) :
    trimChars text = (text.dropWhile isBlank).rdropWhile isBlank := rfl

theorem rdropWhile_append_of_solid (front back : List Char)
    (solid : ∀ c, front.getLast? = some c → isBlank c = false) :
    (front ++ back).rdropWhile isBlank = front ++ back.rdropWhile isBlank := by
  induction back using List.reverseRecOn with
  | nil =>
      rw [List.append_nil, List.rdropWhile_nil, List.append_nil, List.rdropWhile_eq_self_iff]
      intro some
      simp [solid _ (List.getLast?_eq_some_getLast some)]
  | append_singleton back c ih =>
      rw [← List.append_assoc, List.rdropWhile_concat, List.rdropWhile_concat, ih]
      split
      · rfl
      · rw [List.append_assoc]

theorem trimChars_blank (text : List Char) {c : Char} (blank : isBlank c = true) :
    trimChars (c :: text) = trimChars text := by
  rw [trimChars_eq, List.dropWhile_cons_of_pos blank, ← trimChars_eq]

theorem trimChars_append_blank (text : List Char) {c : Char} (blank : isBlank c = true) :
    trimChars (text ++ [c]) = trimChars text := by
  rw [trimChars_eq, List.dropWhile_append, trimChars_eq]
  split
  · next none => simp [List.isEmpty_iff.1 none, blank]
  · exact List.rdropWhile_concat_pos _ _ _ blank

theorem trimChars_rdropWhile (text : List Char) :
    trimChars (text.rdropWhile isBlank) = trimChars text := by
  induction text using List.reverseRecOn with
  | nil => rfl
  | append_singleton text c ih =>
      by_cases blank : isBlank c = true
      · rw [List.rdropWhile_concat_pos _ _ _ blank, ih, trimChars_append_blank text blank]
      · rw [List.rdropWhile_concat_neg _ _ _ blank]

theorem trimChars_dropLineEnd (line : List Char) :
    trimChars (dropLineEnd (line ++ ['\n'])) = trimChars line := by
  rw [dropLineEnd_feed]
  cases found : ['\r'].isSuffixOf? line with
  | none => rfl
  | some before =>
      rw [List.isSuffixOf?_eq_some_iff_append_eq] at found
      subst found
      exact (trimChars_append_blank before (by decide : isBlank '\r' = true)).symm

theorem closed_flatMap_rows (items : List String) : closed (items.flatMap rows) = closed items := by
  induction items with
  | nil => rfl
  | cons item rest ih =>
      have here := closed_rows item
      simp only [closed, List.flatMap_cons, List.flatMap_append] at here ih ⊢
      rw [here, ih]

theorem pieces_append_of_notMem {α : Type} [DecidableEq α] {separator : α} (lead items : List α)
    (whole : separator ∉ lead) :
    ∃ first rest, pieces separator items = first :: rest ∧
      pieces separator (lead ++ items) = (lead ++ first) :: rest := by
  induction lead with
  | nil =>
      cases found : pieces separator items with
      | nil => exact absurd found (pieces_ne_nil items)
      | cons first rest => exact ⟨first, rest, rfl, found⟩
  | cons head tail ih =>
      obtain ⟨first, rest, parted, joined⟩ := ih fun member => whole (by simp [member])
      have inside : head ≠ separator := fun same => whole (by simp [same])
      exact ⟨first, rest, parted, by simp [pieces, inside, joined]⟩

theorem rows_append (lead text : String) (whole : '\n' ∉ lead.toList) :
    ∃ first, rows (lead ++ text) = (lead ++ first) :: (rows text).tail := by
  obtain ⟨first, rest, parted, joined⟩ := pieces_append_of_notMem lead.toList text.toList whole
  exact ⟨String.ofList first, by simp [rows, parted, joined]⟩

end Text

namespace PackageInfo

def IsKey (key : String) : Prop :=
  key ≠ "" ∧ ∀ c ∈ key.toList, Text.isBlank c = false ∧ c ≠ '=' ∧ c ≠ '#' ∧ c ≠ '\n'

instance (key : String) : Decidable (IsKey key) :=
  @instDecidableAnd _ _ inferInstance (List.decidableBAll _ key.toList)

def behindSign (value : String) : String :=
  String.ofList (List.rdropWhile Text.isBlank (' ' :: value.toList))

theorem trim_behindSign (value : String) : Text.trim (behindSign value) = Text.trim value := by
  have blank : Text.isBlank ' ' = true := by decide
  rw [Text.trim, Text.trim, behindSign, String.toList_ofList, Text.trimChars_rdropWhile,
    Text.trimChars_blank _ blank]

section Key

variable {key : String} (isKey : IsKey key)

include isKey

theorem trim_key : Text.trim (key ++ " ") = key := by
  have blank : Text.isBlank ' ' = true := by decide
  apply String.toList_injective
  rw [Text.trim, String.toList_append, String.toList_ofList]
  change Text.trimChars (key.toList ++ [' ']) = _
  rw [Text.trimChars_append_blank _ blank,
    Text.trimChars_of_noBlank _ fun c member => (isKey.2 c member).1]

theorem whole_lead : '\n' ∉ (key ++ " = ").toList := by
  rw [String.toList_append, List.mem_append]
  rintro (member | member)
  · exact (isKey.2 '\n' member).2.2.2 rfl
  · simp at member

theorem whole_pair {value : String} (whole : '\n' ∉ value.toList) :
    '\n' ∉ (pair key value).toList := by
  rw [pair, String.toList_append, List.mem_append]
  rintro (member | member)
  · exact whole_lead isKey member
  · exact whole member

theorem trim_pair (value : String) :
    Text.trim (pair key value) = key ++ " " ++ String.singleton '=' ++ behindSign value := by
  obtain ⟨head, tail, chars⟩ : ∃ head tail, key.toList = head :: tail :=
    List.exists_cons_of_ne_nil (by simpa using isKey.1)
  have start := isKey.2 head (by simp [chars])
  have shape : (pair key value).toList = (key.toList ++ [' ', '=']) ++ ' ' :: value.toList := by
    simp [pair]
  -- Nothing before the sign is cut off, since the sign is no blank.
  have solid : ∀ c, (head :: tail ++ [' ', '=']).getLast? = some c → Text.isBlank c = false := by
    intro c last
    rw [List.getLast?_append_of_ne_nil _ (by simp)] at last
    cases last
    decide
  have ended := Text.rdropWhile_append_of_solid _ (' ' :: value.toList) solid
  apply String.toList_injective
  rw [Text.trim, shape, Text.trimChars_eq, chars]
  simp only [List.cons_append] at ended ⊢
  rw [List.dropWhile_cons_of_neg (by simp [start.1]), ended]
  simp [chars, behindSign]

theorem keyValue_pair (value : String) :
    keyValue (pair key value) = some (key, Text.trim value) := by
  have content := trim_pair isKey value
  have notEmpty : Text.trim (pair key value) ≠ "" := by simp [content, isKey.1]
  have notComment : Text.withoutPrefix "#" (Text.trim (pair key value)) = none := by
    rw [Option.eq_none_iff_forall_ne_some]
    intro rest comment
    rw [Text.withoutPrefix_eq_some_iff, content] at comment
    obtain ⟨head, tail, chars⟩ : ∃ head tail, key.toList = head :: tail :=
      List.exists_cons_of_ne_nil (by simpa using isKey.1)
    have heads := congrArg (fun text => text.toList.head?) comment
    simp [chars] at heads
    exact (isKey.2 head (by simp [chars])).2.2.1 heads
  -- The key has no sign of its own, so the first one in the line stands behind it.
  have whole : '=' ∉ (key ++ " ").toList := by
    rw [String.toList_append, List.mem_append]
    rintro (member | member)
    · exact (isKey.2 '=' member).2.1 rfl
    · simp at member
  have cut := Text.splitFirst_append '=' (key ++ " ") (behindSign value) whole
  rw [keyValue, if_neg (by simp [notEmpty, notComment]), content]
  change Option.map _ (Text.splitFirst (String.singleton '=') _) = _
  rw [cut]
  simp [trim_key isKey, trim_behindSign]

end Key

theorem keyValue_dropLineEnd (line : String) :
    keyValue (String.ofList (Text.dropLineEnd (line.toList ++ ['\n']))) = keyValue line := by
  have same : Text.trim (String.ofList (Text.dropLineEnd (line.toList ++ ['\n']))) =
      Text.trim line := by
    rw [Text.trim, Text.trim, String.toList_ofList, Text.trimChars_dropLineEnd]
  rw [keyValue, keyValue, same]

theorem lines_ne_nil (record : PackageRecord) : lines record ≠ [] :=
  List.cons_ne_nil _ _

theorem render_eq (record : PackageRecord) :
    render record = String.ofList (Text.closed ((lines record).flatMap Text.rows)) := by
  apply String.toList_injective
  rw [render, Text.toList_joinLines_append _ (lines_ne_nil record), String.toList_ofList,
    Text.closed_flatMap_rows]

/-- What is read is every row of what was written, also those inside of a value. -/
theorem keyValues_render (record : PackageRecord) :
    (Text.lines (render record)).filterMap keyValue =
      ((lines record).flatMap Text.rows).filterMap keyValue := by
  have whole : ∀ row ∈ (lines record).flatMap Text.rows, '\n' ∉ row.toList := by
    intro row member
    obtain ⟨line, _, inside⟩ := List.mem_flatMap.1 member
    exact Text.whole_of_mem_rows line row inside
  have same : keyValue ∘ (fun row : String =>
      String.ofList (Text.dropLineEnd (row.toList ++ ['\n']))) = keyValue := by
    funext row
    rw [Function.comp_apply, keyValue_dropLineEnd]
  rw [render_eq, Text.lines_closed _ whole, List.filterMap_map, same]

def valuesOf (key : String) (entries : List (String × String)) : List String :=
  entries.filterMap fun entry => if entry.1 = key then some entry.2 else none

def sizes (rows : List String) : List String := valuesOf "size" (rows.filterMap keyValue)

theorem sizes_append (rows others : List String) :
    sizes (rows ++ others) = sizes rows ++ sizes others := by
  simp [sizes, valuesOf]

theorem size_of_store_of_ne {key value : String} {record next : PackageRecord}
    (other : key ≠ "size") (done : store record (key, value) = .ok next) :
    next.size = record.size := by
  unfold store at done
  split at done
  all_goals
    first
    | (cases done; rfl)
    | exact absurd (congrArg Prod.fst (by assumption)) other

theorem int64?_of_store_size {value : String} {record next : PackageRecord}
    (done : store record ("size", value) = .ok next) :
    Numeral.int64? value = some next.size := by
  simp only [store] at done
  split at done
  · next size found =>
      cases done
      exact found
  · cases done

theorem size_of_stored {entries : List (String × String)} {record stored : PackageRecord}
    (done : entries.foldlM store record = .ok stored) :
    match (valuesOf "size" entries).getLast? with
    | some value => Numeral.int64? value = some stored.size
    | none => stored.size = record.size := by
  -- From the front: a size that is stored replaces the one before.
  induction entries generalizing record with
  | nil =>
      cases done
      rfl
  | cons entry rest ih =>
      obtain ⟨key, value⟩ := entry
      rw [List.foldlM_cons] at done
      cases first : store record (key, value) with
      | error error =>
          rw [first] at done
          cases done
      | ok next =>
          rw [first] at done
          have later := ih done
          by_cases same : key = "size"
          · subst same
            have here := int64?_of_store_size first
            have given : valuesOf "size" (("size", value) :: rest) =
                value :: valuesOf "size" rest := rfl
            rw [given, List.getLast?_cons]
            cases last : (valuesOf "size" rest).getLast? with
            | some given =>
                rw [last] at later
                exact later
            | none =>
                rw [last] at later
                exact here.trans (congrArg some later.symm)
          · have here := size_of_store_of_ne same first
            have passed : valuesOf "size" ((key, value) :: rest) = valuesOf "size" rest :=
              List.filterMap_cons_none (if_neg same)
            rw [here] at later
            rwa [passed]

theorem sizes_rows_pair {key : String} (isKey : IsKey key) (other : key ≠ "size")
    (value : String) : sizes (Text.rows (pair key value)) = sizes (Text.rows value).tail := by
  obtain ⟨first, parted⟩ := Text.rows_append (key ++ " = ") value (whole_lead isKey)
  have line : keyValue (key ++ " = " ++ first) = some (key, Text.trim first) :=
    keyValue_pair isKey first
  rw [pair, parted, sizes, List.filterMap_cons_some line, sizes]
  exact List.filterMap_cons_none (if_neg other)

theorem sizes_rows_size (size : Int64) :
    sizes (Text.rows (pair "size" (toString size.toInt))) = [toString size.toInt] := by
  have isKey : IsKey "size" := by decide
  have line := keyValue_pair isKey (toString size.toInt)
  have whole := whole_pair isKey (Numeral.isLine_toString size.toInt).1
  rw [Numeral.trim_toString] at line
  rw [Text.rows_of_whole _ whole, sizes, List.filterMap_cons_some line]
  rfl

def lateFields (record : PackageRecord) : List (String × List String) := [
  ("arch", if record.arch = "" then [] else [record.arch]),
  ("license", record.license),
  ("replaces", record.replaces),
  ("group", record.groups),
  ("depend", record.depends),
  ("conflict", record.conflicts),
  ("provides", record.provides),
  ("backup", record.backup.map BackupEntry.path),
  ("remove", record.removes)]

/-- The sizes that the values behind the size give on lines of their own. -/
def lateSizes (record : PackageRecord) : List String :=
  sizes (((lateFields record).flatMap Prod.snd).flatMap fun value => (Text.rows value).tail)

theorem isKey_lateFields (record : PackageRecord) :
    ∀ field ∈ lateFields record, IsKey field.1 ∧ field.1 ≠ "size" := by
  simp only [lateFields, List.forall_mem_cons, List.not_mem_nil, false_implies, implies_true,
    and_true]
  decide

def earlyFields (record : PackageRecord) : List (String × List String) := [
  ("pkgname", [record.name]),
  ("pkgver", [record.version]),
  ("pkgdesc", [record.description]),
  ("url", [record.url]),
  ("builddate", [record.buildDate]),
  ("packager", [record.packager])]

def fields (record : PackageRecord) : List (String × List String) :=
  earlyFields record ++ ("size", [toString record.size.toInt]) :: lateFields record

theorem isKey_fields (record : PackageRecord) : ∀ field ∈ fields record, IsKey field.1 := by
  simp only [fields, earlyFields, lateFields, List.cons_append, List.nil_append,
    List.forall_mem_cons, List.not_mem_nil, false_implies, implies_true, and_true]
  decide

theorem lines_eq (record : PackageRecord) :
    lines record = (fields record).flatMap fun field => pairs field.1 field.2 := by
  by_cases none : record.arch = "" <;>
    simp [lines, fields, earlyFields, lateFields, pairs, none]

theorem sizes_flatMap_pairs (fields : List (String × List String))
    (each : ∀ field ∈ fields, IsKey field.1 ∧ field.1 ≠ "size") :
    sizes ((fields.flatMap fun field => pairs field.1 field.2).flatMap Text.rows) =
      sizes ((fields.flatMap Prod.snd).flatMap fun value => (Text.rows value).tail) := by
  have ofField (key : String) (isKey : IsKey key) (other : key ≠ "size") (values : List String) :
      sizes ((pairs key values).flatMap Text.rows) =
        sizes (values.flatMap fun value => (Text.rows value).tail) := by
    induction values with
    | nil => rfl
    | cons value rest ih =>
        rw [pairs] at ih ⊢
        rw [List.map_cons, List.flatMap_cons, List.flatMap_cons, sizes_append, sizes_append,
          sizes_rows_pair isKey other, ih]
  induction fields with
  | nil => rfl
  | cons field rest ih =>
      have here := each field (by simp)
      have later := ih fun other member => each other (by simp [member])
      rw [List.flatMap_cons, List.flatMap_append, sizes_append, List.flatMap_cons,
        List.flatMap_append, sizes_append, ofField _ here.1 here.2, later]

/-- The size that is read is the one that was written, unless a value behind it gives another. -/
theorem size_of_parse_render {record found : PackageRecord}
    (done : parse (render record) = .ok found) :
    match (lateSizes record).getLast? with
    | some value => Numeral.int64? value = some found.size
    | none => found.size = record.size := by
  have stored : ((Text.lines (render record)).filterMap keyValue).foldlM store {} = .ok found := by
    rw [parse] at done
    split at done
    · cases done
    · next stored all =>
        split at done
        · cases done
        · cases done
          exact all
  rw [keyValues_render, lines_eq] at stored
  have last := size_of_stored stored
  have given : valuesOf "size" ((((fields record).flatMap fun field =>
      pairs field.1 field.2).flatMap Text.rows).filterMap keyValue) =
      sizes (((earlyFields record).flatMap fun field => pairs field.1 field.2).flatMap Text.rows) ++
        toString record.size.toInt :: lateSizes record := by
    change sizes _ = _
    rw [fields, List.flatMap_append, List.flatMap_cons, List.flatMap_append, List.flatMap_append,
      sizes_append, sizes_append, sizes_flatMap_pairs _ (isKey_lateFields record), pairs,
      List.map_singleton, List.flatMap_singleton, sizes_rows_size]
    rfl
  rw [given, List.getLast?_append_of_ne_nil _ (by simp), List.getLast?_cons] at last
  cases late : (lateSizes record).getLast? with
  | some value =>
      rw [late] at last
      exact last
  | none =>
      rw [late] at last
      have same := (Numeral.int64?_toString record.size).symm.trans last
      exact (Option.some.inj same).symm

end PackageInfo

end PackageAssay

import PackageAssay.Proofs.LineCuts
import PackageAssay.Proofs.PackageInfoLines

set_option autoImplicit false

namespace PackageAssay.PackageInfo

def knownKeys : List String :=
  ["pkgname", "pkgver", "pkgdesc", "url", "builddate", "packager", "size", "arch", "license",
    "replaces", "group", "depend", "conflict", "provides", "backup", "remove"]

/-- Whether the trimmed content of a row counts: it is neither blank nor a comment, and it has a
sign. -/
def isEntry (content : String) : Bool :=
  decide (content ≠ "" ∧ content.toList.head? ≠ some '#' ∧ '=' ∈ content.toList)

def keyOf (content : String) : String :=
  Text.trim (String.ofList (content.toList.takeWhile (· ≠ '=')))

def valueOf (content : String) : String :=
  Text.trim (String.ofList ((content.toList.dropWhile (· ≠ '=')).drop 1))

def entriesIn (text : String) : List String :=
  ((Text.rows text).map Text.trim).filter isEntry

def valuesIn (text key : String) : List String :=
  ((entriesIn text).filter (keyOf · = key)).map valueOf

theorem splitFirst_sign (content : String) :
    Text.splitFirst "=" content =
      if '=' ∈ content.toList then
        some (String.ofList (content.toList.takeWhile (· ≠ '=')),
          String.ofList ((content.toList.dropWhile (· ≠ '=')).drop 1))
      else none := by
  split
  · next sign =>
      obtain ⟨before, after, rfl, first⟩ := Text.exists_cut_of_mem '=' content sign
      have each : ∀ c ∈ before.toList, decide (c ≠ '=') = true := by
        intro c member
        rw [decide_eq_true_eq]
        rintro rfl
        exact first member
      have chars : (before ++ String.singleton '=' ++ after).toList =
          before.toList ++ '=' :: after.toList := by simp
      have cut : Text.splitFirst "=" (before ++ String.singleton '=' ++ after) =
          some (before, after) := Text.splitFirst_append '=' before after first
      rw [cut, chars, List.takeWhile_append_of_pos each, List.dropWhile_append_of_pos each]
      simp
  · next absent => exact Text.splitFirst_of_notMem '=' content absent

theorem withoutPrefix_comment_isSome (content : String) :
    (Text.withoutPrefix "#" content).isSome = true ↔ content.toList.head? = some '#' := by
  rw [Option.isSome_iff_exists, List.head?_eq_some_iff]
  constructor
  · rintro ⟨rest, comment⟩
    rw [(Text.withoutPrefix_eq_some_iff _ _ _).1 comment]
    exact ⟨rest.toList, by simp⟩
  · rintro ⟨rest, chars⟩
    refine ⟨String.ofList rest, (Text.withoutPrefix_eq_some_iff _ _ _).2 ?_⟩
    exact String.toList_injective (by simp [chars])

theorem keyValue_eq (row : String) :
    keyValue row =
      if isEntry (Text.trim row) then some (keyOf (Text.trim row), valueOf (Text.trim row))
      else none := by
  simp only [keyValue, withoutPrefix_comment_isSome, splitFirst_sign, isEntry,
    decide_eq_true_eq]
  split
  · next skipped => rw [if_neg fun counts => skipped.elim counts.1 counts.2.1]
  · next counts =>
      rw [not_or] at counts
      split
      · next sign =>
          rw [if_pos ⟨counts.1, counts.2, sign⟩]
          rfl
      · next unsigned => rw [if_neg fun entry => unsigned entry.2.2, Option.map_none]

theorem valuesOf_cons (key other value : String) (entries : List (String × String)) :
    valuesOf key ((other, value) :: entries) =
      if other = key then value :: valuesOf key entries else valuesOf key entries := by
  split
  · next same => exact List.filterMap_cons_some (if_pos same)
  · next apart => exact List.filterMap_cons_none (if_neg apart)

theorem valuesOf_keyValues (key : String) (rows : List String) :
    valuesOf key (rows.filterMap keyValue) =
      (((rows.map Text.trim).filter isEntry).filter (keyOf · = key)).map valueOf := by
  induction rows with
  | nil => rfl
  | cons row rest ih =>
      have here := keyValue_eq row
      rw [List.map_cons, List.filter_cons]
      by_cases counts : isEntry (Text.trim row) = true
      · rw [if_pos counts] at here ⊢
        rw [List.filterMap_cons_some here, valuesOf_cons, ih, List.filter_cons]
        by_cases same : keyOf (Text.trim row) = key <;> simp [same]
      · rw [if_neg counts] at here ⊢
        rw [List.filterMap_cons_none here, ih]

theorem keyValues_lines_joinLines (rows : List String) (whole : ∀ row ∈ rows, '\n' ∉ row.toList) :
    (Text.lines (Text.joinLines rows)).filterMap keyValue = rows.filterMap keyValue := by
  have blank : keyValue "" = none := by decide
  induction rows with
  | nil => rfl
  | cons row rest ih =>
      have here := whole row List.mem_cons_self
      cases rest with
      | nil =>
          rw [Text.joinLines, String.intercalate_singleton, Text.lines_of_whole row here]
          split
          · next empty => simp [empty, blank]
          · rfl
      | cons next rest =>
          have later := ih fun other member => whole other (List.mem_cons_of_mem _ member)
          have ends : Text.WholeLines (row ++ "\n") :=
            .inr (Text.endsWithChar_singleton_append '\n' row)
          rw [Text.joinLines] at later ⊢
          rw [String.intercalate_cons_cons, Text.lines_append ends, Text.lines_feed row here,
            List.singleton_append, List.filterMap_cons, keyValue_dropLineEnd, later]
          rfl

theorem valuesOf_lines (text key : String) :
    valuesOf key ((Text.lines text).filterMap keyValue) = valuesIn text key := by
  have joined := keyValues_lines_joinLines (Text.rows text) (Text.whole_of_mem_rows text)
  rw [Text.joinLines_rows] at joined
  rw [joined, valuesOf_keyValues]
  rfl

def lastOr (held : String) (values : List String) : String := values.getLast?.getD held

@[simp] theorem lastOr_nil (held : String) : lastOr held [] = held := rfl

@[simp] theorem lastOr_cons (held value : String) (values : List String) :
    lastOr held (value :: values) = lastOr value values := by
  rw [lastOr, List.getLast?_cons, Option.getD_some, lastOr]

/-- The record that takes over the values of each key: the last one counts, or else each of them
goes to the end of a list. -/
def filled (values : String → List String) (record : PackageRecord) : PackageRecord :=
  { record with
    name := lastOr record.name (values "pkgname")
    version := lastOr record.version (values "pkgver")
    description := lastOr record.description (values "pkgdesc")
    url := lastOr record.url (values "url")
    buildDate := lastOr record.buildDate (values "builddate")
    packager := lastOr record.packager (values "packager")
    size := ((values "size").filterMap Numeral.int64?).getLast?.getD record.size
    arch := lastOr record.arch (values "arch")
    license := record.license ++ values "license"
    replaces := record.replaces ++ values "replaces"
    groups := record.groups ++ values "group"
    depends := record.depends ++ values "depend"
    conflicts := record.conflicts ++ values "conflict"
    provides := record.provides ++ values "provides"
    backup := record.backup ++ (values "backup").map fun path => ⟨path, ""⟩
    removes := record.removes ++ values "remove" }

def badSize? (values : String → List String) : Option String :=
  (values "size").find? fun value => (Numeral.int64? value).isNone

def resultOf (values : String → List String) : Except ArchiveError PackageRecord :=
  match badSize? values with
  | some bad => .error (.invalidSize bad)
  | none =>
      if (filled values {}).name = "" ∨ (filled values {}).version = "" then
        .error .lacksNameOrVersion
      else .ok (filled values {})

theorem store_size (record : PackageRecord) (value : String) :
    store record ("size", value) =
      match Numeral.int64? value with
      | some size => .ok { record with size := size }
      | none => .error (.invalidSize value) := rfl

theorem filled_size {value : String} {size : Int64} (numeral : Numeral.int64? value = some size)
    (entries : List (String × String)) (record : PackageRecord) :
    filled (valuesOf · entries) { record with size := size } =
      filled (valuesOf · (("size", value) :: entries)) record := by
  simp [filled, valuesOf_cons, List.filterMap_cons_some numeral, List.getLast?_cons]

theorem exists_store {key : String} (other : key ≠ "size") (value : String)
    (record : PackageRecord) :
    ∃ next, store record (key, value) = .ok next ∧ ∀ entries,
      filled (valuesOf · entries) next = filled (valuesOf · ((key, value) :: entries)) record := by
  unfold store
  split
  case h_17 =>
    -- An unknown key is none of those whose values are taken over.
    refine ⟨record, rfl, fun entries => ?_⟩
    simp_all [filled, valuesOf_cons]
  all_goals
    next same =>
      obtain ⟨rfl, rfl⟩ := Prod.mk.inj same
      first
        | exact absurd rfl other
        | exact ⟨_, rfl, fun entries => by simp [filled, valuesOf_cons]⟩

theorem foldlM_store (entries : List (String × String)) (record : PackageRecord) :
    entries.foldlM store record =
      match badSize? (valuesOf · entries) with
      | some bad => .error (.invalidSize bad)
      | none => .ok (filled (valuesOf · entries) record) := by
  -- The first bad size ends the reading; up to there every entry leaves its mark on the record.
  induction entries generalizing record with
  | nil => simp [badSize?, filled, valuesOf, pure, Except.pure]
  | cons entry rest ih =>
      obtain ⟨key, value⟩ := entry
      rw [List.foldlM_cons]
      by_cases size : key = "size"
      · subst size
        rw [store_size]
        cases numeral : Numeral.int64? value with
        | none => simp [badSize?, valuesOf_cons, numeral, bind, Except.bind]
        | some size =>
            have same : badSize? (valuesOf · (("size", value) :: rest)) =
                badSize? (valuesOf · rest) := by
              simp [badSize?, valuesOf_cons, numeral]
            rw [same, ← filled_size numeral]
            exact ih _
      · obtain ⟨next, stored, same⟩ := exists_store size value record
        have others : badSize? (valuesOf · ((key, value) :: rest)) =
            badSize? (valuesOf · rest) := by
          simp [badSize?, valuesOf_cons, size]
        rw [stored, others, ← same]
        exact ih next

theorem parse_eq_resultOf (text : String) : parse text = resultOf (valuesIn text) := by
  have values : (valuesOf · ((Text.lines text).filterMap keyValue)) = valuesIn text :=
    funext (valuesOf_lines text)
  rw [parse, foldlM_store, values, resultOf]
  cases badSize? (valuesIn text) <;> rfl

theorem resultOf_congr {values others : String → List String}
    (same : ∀ key ∈ knownKeys, values key = others key) : resultOf values = resultOf others := by
  simp only [knownKeys, List.forall_mem_cons] at same
  have bad : badSize? values = badSize? others := by simp only [badSize?, same]
  have record : filled values {} = filled others {} := by simp only [filled, same]
  rw [resultOf, resultOf, bad, record]

theorem valuesIn_feed (front back key : String) :
    valuesIn (front ++ "\n" ++ back) key = valuesIn front key ++ valuesIn back key := by
  have parted : Text.rows (front ++ "\n" ++ back) = Text.rows front ++ Text.rows back := by
    simp [Text.rows, Text.pieces_append]
  simp only [valuesIn, entriesIn, parted, List.map_append, List.filter_append]

theorem valuesIn_joinLines (texts : List String) (key : String) :
    valuesIn (Text.joinLines texts) key = texts.flatMap (valuesIn · key) := by
  induction texts with
  | nil => rfl
  | cons text rest ih =>
      cases rest with
      | nil => simp [Text.joinLines]
      | cons next rest =>
          rw [Text.joinLines] at ih ⊢
          rw [String.intercalate_cons_cons, valuesIn_feed, ih]
          rfl

theorem parse_congr {text other : String}
    (same : ∀ key ∈ knownKeys, valuesIn text key = valuesIn other key) :
    parse text = parse other := by
  rw [parse_eq_resultOf, parse_eq_resultOf, resultOf_congr same]

theorem parse_of_badSize {text value : String} (given : value ∈ valuesIn text "size")
    (bad : Numeral.int64? value = none) :
    ∃ first ∈ valuesIn text "size", Numeral.int64? first = none ∧
      parse text = .error (.invalidSize first) := by
  have some : (badSize? (valuesIn text)).isSome = true := by
    rw [badSize?, List.find?_isSome]
    exact ⟨value, given, by rw [bad, Option.isNone_none]⟩
  obtain ⟨first, found⟩ := Option.isSome_iff_exists.1 some
  refine ⟨first, List.mem_of_find?_eq_some found, ?_, ?_⟩
  · simpa using List.find?_some found
  · rw [parse_eq_resultOf, resultOf, found]

/-- What is read depends on the values of the known keys alone. So rows that say nothing, blanks
around rows and the order of rows with different keys do not matter, and a bad size always does. -/
theorem values_decide_what_is_read (text : String) :
    parse text = resultOf (valuesIn text) ∧
    (∀ other, (∀ key ∈ knownKeys, valuesIn text key = valuesIn other key) →
      parse text = parse other) ∧
    (∀ other, (Text.rows text).map Text.trim = (Text.rows other).map Text.trim →
      parse text = parse other) ∧
    (∀ before noise after, (∀ key ∈ knownKeys, valuesIn noise key = []) →
      parse (Text.joinLines (before ++ noise :: after)) =
        parse (Text.joinLines (before ++ after))) ∧
    (∀ before first second after,
      (∀ key ∈ knownKeys, valuesIn first key = [] ∨ valuesIn second key = []) →
      parse (Text.joinLines (before ++ first :: second :: after)) =
        parse (Text.joinLines (before ++ second :: first :: after))) ∧
    (∀ value ∈ valuesIn text "size", Numeral.int64? value = none →
      ∃ bad ∈ valuesIn text "size", Numeral.int64? bad = none ∧
        parse text = .error (.invalidSize bad)) := by
  refine ⟨parse_eq_resultOf text, fun other => parse_congr, fun other alike => ?_,
    fun before noise after silent => ?_, fun before first second after apart => ?_,
    fun value given => parse_of_badSize given⟩
  · exact parse_congr fun key _ => by rw [valuesIn, valuesIn, entriesIn, entriesIn, alike]
  · refine parse_congr fun key known => ?_
    rw [valuesIn_joinLines, valuesIn_joinLines, List.flatMap_append, List.flatMap_cons,
      silent key known, List.nil_append, List.flatMap_append]
  · refine parse_congr fun key known => ?_
    simp only [valuesIn_joinLines, List.flatMap_append, List.flatMap_cons]
    rcases apart key known with none | none <;> simp [none]

def plainText : String :=
  "pkgname = a\npkgver = 0\nsize = 7\nlicense = x\nlicense = y=z\npkgver = 1"

/-- The same values in another order, with other line ends and blanks, between a comment, a row
without a sign and an unknown key. -/
def shuffledText : String :=
  "license=x\r\n#size=b\r\n\tpkgver =0\r\n\r\nsize\r\nsize=7\r\npkgver= 1\r\nSize=b\r\n" ++
    "license=y=z \r\npkgname=a\r\n"

theorem values_decide_what_is_read_shuffledText :
    (∀ key ∈ knownKeys, valuesIn plainText key = valuesIn shuffledText key) ∧
    parse plainText = parse shuffledText ∧
    parse plainText =
      .ok { name := "a", version := "1", size := 7, license := ["x", "y=z"] } ∧
    ∃ bad, parse (plainText ++ "\nsize = big") = .error (.invalidSize bad) := by
  have plain : entriesIn plainText =
      ["pkgname = a", "pkgver = 0", "size = 7", "license = x", "license = y=z", "pkgver = 1"] := by
    decide +kernel
  have shuffled : entriesIn shuffledText =
      ["license=x", "pkgver =0", "size=7", "pkgver= 1", "Size=b", "license=y=z", "pkgname=a"] := by
    decide +kernel
  have same : ∀ key ∈ knownKeys, valuesIn plainText key = valuesIn shuffledText key := by
    simp only [valuesIn, plain, shuffled]
    decide +kernel
  obtain ⟨read, congr, -⟩ := values_decide_what_is_read plainText
  obtain ⟨-, -, -, -, -, refuse⟩ := values_decide_what_is_read (plainText ++ "\nsize = big")
  obtain ⟨bad, -, -, refused⟩ := refuse "big" (by decide +kernel) (by decide)
  exact ⟨same, congr shuffledText same, read.trans (by decide +kernel), bad, refused⟩

end PackageAssay.PackageInfo

import Mathlib.Data.List.Basic
import PackageAssay.Database.Decode
import PackageAssay.Database.Encode
import PackageAssay.Proofs.Lines
import PackageAssay.Proofs.Numerals
import PackageAssay.Proofs.Splits

set_option autoImplicit false

namespace PackageAssay

theorem toList_header (title : String) :
    (Section.header title).toList = '%' :: (title.toList ++ ['%']) := by
  simp [Section.header]

theorem titleOf_eq_some_iff (line title : String) :
    titleOf line = some title ↔ title ≠ "" ∧ line = Section.header title := by
  unfold titleOf
  cases lead : Text.withoutPrefix "%" line with
  | none =>
      simp only [reduceCtorEq, false_iff, not_and]
      -- A header would begin with a percent sign.
      rintro - rfl
      have := (Text.withoutPrefix_eq_some_iff "%" (Section.header title) (title ++ "%")).2
        (by simp [Section.header, String.append_assoc])
      simp [lead] at this
  | some rest =>
      obtain rfl := (Text.withoutPrefix_eq_some_iff "%" line rest).1 lead
      dsimp only
      cases ending : Text.withoutSuffix "%" rest with
      | none =>
          simp only [reduceCtorEq, false_iff, not_and]
          intro _ same
          have : rest = title ++ "%" := by
            simpa [Section.header, String.append_assoc] using same
          simp [(Text.withoutSuffix_eq_some_iff "%" rest title).2 this] at ending
      | some middle =>
          obtain rfl := (Text.withoutSuffix_eq_some_iff "%" rest middle).1 ending
          have same : "%" ++ (middle ++ "%") = Section.header title ↔ middle = title := by
            simp [Section.header, String.append_assoc]
          rw [same]
          by_cases empty : middle = ""
          · simp only [empty, if_true, reduceCtorEq, false_iff, not_and]
            exact fun named same => named same.symm
          · simp only [empty, if_false, Option.some.injEq]
            exact ⟨fun same => ⟨same ▸ empty, same⟩, fun both => both.2⟩

namespace Section

def lines (part : Section) : List String :=
  header part.title :: (Text.rows part.body ++ [""])

def Plain (part : Section) : Prop :=
  '\n' ∉ part.title.toList ∧ ∀ row ∈ Text.rows part.body, Text.IsLine row

theorem isLine_header (title : String) (whole : '\n' ∉ title.toList) :
    Text.IsLine (header title) := by
  simpa [Text.IsLine, toList_header, List.getLast?_cons] using whole

theorem isLine_of_mem_lines (part : Section) (plain : part.Plain) (line : String)
    (member : line ∈ part.lines) : Text.IsLine line := by
  simp only [lines, List.mem_cons, List.mem_append, List.not_mem_nil, or_false] at member
  rcases member with rfl | row | rfl
  · exact isLine_header part.title plain.1
  · exact plain.2 line row
  · exact Text.isLine_empty

theorem toList_text_append (part : Section) :
    part.text.toList ++ ['\n'] = Text.closed part.lines := by
  have body := Text.closed_rows part.body
  simp only [Text.closed] at body
  simp [text, lines, Text.closed, body]

theorem toList_render (parts : List Section) :
    (render parts).toList = Text.closed (parts.flatMap lines) := by
  cases parts with
  | nil => rfl
  | cons part rest =>
      rw [render, if_neg (by simp), Text.toList_joinLines_append _ (by simp),
        Text.closed, Text.closed, List.flatMap_map, List.flatMap_assoc]
      exact List.flatMap_congr fun part _ => toList_text_append part

theorem lines_render (parts : List Section) (plain : ∀ part ∈ parts, part.Plain) :
    Text.lines (render parts) = parts.flatMap lines := by
  rw [← String.ofList_toList (s := render parts), toList_render, Text.lines_ofList_closed]
  intro line member
  obtain ⟨part, held, inside⟩ := List.mem_flatMap.1 member
  exact isLine_of_mem_lines part (plain part held) line inside

end Section

theorem Field.listBody_items {items : List String} (present : ∀ item ∈ items, item ≠ "")
    (rest : List String) :
    Field.listBody (items ++ "" :: rest) = items ∧
      (items ++ "" :: rest).dropWhile (· ≠ "") = "" :: rest := by
  have taken : ∀ item ∈ items, decide (item ≠ "") = true := fun item member =>
    decide_eq_true (present item member)
  rw [Field.listBody, List.takeWhile_append_of_pos taken, List.dropWhile_append_of_pos taken]
  simp

section Reading

variable {file : SectionKey} {fields : String → Option Field}

theorem decodeLines_other (line : String) (rest : List String) (record : PackageRecord)
    (other : titleOf line = none) :
    decodeLines file fields (line :: rest) record = decodeLines file fields rest record := by
  rw [decodeLines, other]

theorem decodeLines_unknown (title : String) (rest : List String) (record : PackageRecord)
    (named : title ≠ "") (unknown : fields title = none) :
    decodeLines file fields (Section.header title :: rest) record =
      decodeLines file fields rest record := by
  rw [decodeLines, (titleOf_eq_some_iff _ _).2 ⟨named, rfl⟩]
  simp only [unknown]

theorem decodeLines_known (title : String) (field : Field) (rest : List String)
    (record filled : PackageRecord) (named : title ≠ "") (known : fields title = some field)
    (fills : field.fill file title rest record = .ok filled) :
    decodeLines file fields (Section.header title :: rest) record =
      decodeLines file fields (field.after rest) filled := by
  rw [decodeLines, (titleOf_eq_some_iff _ _).2 ⟨named, rfl⟩]
  simp only [known, fills]

theorem decodeLines_failed (title : String) (field : Field) (rest : List String)
    (record : PackageRecord) {error : Error} (named : title ≠ "") (known : fields title = some field)
    (fails : field.fill file title rest record = .error error) :
    decodeLines file fields (Section.header title :: rest) record = ⟨record, some error⟩ := by
  rw [decodeLines, (titleOf_eq_some_iff _ _).2 ⟨named, rfl⟩]
  simp only [known, fails]

theorem decodeLines_blank (rest : List String) (record : PackageRecord) :
    decodeLines file fields ("" :: rest) record = decodeLines file fields rest record :=
  decodeLines_other "" rest record (by decide)

variable (file fields) in
/-- Reading these sections of a file takes the one record to the other, whatever follows them. -/
def Reads (parts : List Section) (start result : PackageRecord) : Prop :=
  (∀ part ∈ parts, part.Plain) ∧ ∀ rest : List String,
    decodeLines file fields (parts.flatMap Section.lines ++ rest) start =
      decodeLines file fields rest result

theorem Reads.nil (record : PackageRecord) : Reads file fields [] record record :=
  ⟨by simp, fun _ => rfl⟩

theorem Reads.append {left right : List Section} {start middle result : PackageRecord}
    (first : Reads file fields left start middle) (second : Reads file fields right middle result) :
    Reads file fields (left ++ right) start result := by
  refine ⟨?_, fun rest => ?_⟩
  · intro part member
    rcases List.mem_append.1 member with here | there
    · exact first.1 part here
    · exact second.1 part there
  · rw [List.flatMap_append, List.append_assoc, first.2, second.2]

theorem Reads.decodeLines_render {parts : List Section} {start result : PackageRecord}
    (reads : Reads file fields parts start result) :
    decodeLines file fields (Text.lines (Section.render parts)) start = ⟨result, none⟩ := by
  have whole := reads.2 []
  rw [List.append_nil] at whole
  rw [Section.lines_render parts reads.1, whole, decodeLines]

theorem Reads.single {title body : String} {start result : PackageRecord}
    (title_whole : '\n' ∉ title.toList) (rows : ∀ row ∈ Text.rows body, Text.IsLine row)
    (reads : ∀ rest : List String,
      decodeLines file fields (Section.header title :: (Text.rows body ++ "" :: rest)) start =
        decodeLines file fields rest result) :
    Reads file fields (Section.always title body) start result := by
  refine ⟨?_, fun rest => ?_⟩
  · simpa [Section.always, Section.Plain] using ⟨title_whole, rows⟩
  · simpa [Section.always, Section.lines] using reads rest

/-! One lemma for each shape of a section. A section that is left out is read like one with the
value that the field had before. -/

variable (title : String) (proper : title ≠ "" ∧ '\n' ∉ title.toList)

include proper

theorem reads_unknown (value : String) (record : PackageRecord) (unknown : fields title = none)
    (line : Text.IsLine value) (other : titleOf value = none) :
    Reads file fields (Section.always title value) record record := by
  have rows := Text.rows_of_whole value line.1
  refine .single proper.2 (by simpa [rows] using line) fun rest => ?_
  rw [decodeLines_unknown _ _ _ proper.1 unknown, rows, List.singleton_append,
    decodeLines_other _ _ _ other, decodeLines_blank]

theorem reads_scalar {store : String → PackageRecord → PackageRecord}
    (known : fields title = some (.scalar store)) (value : String) (record : PackageRecord)
    (idle : store "" record = record) (line : Text.IsLine value) :
    Reads file fields (Section.scalar title value) record (store value record) := by
  by_cases empty : value = ""
  · rw [Section.scalar, if_pos empty, empty, idle]
    exact .nil record
  -- One line is taken for the value, and the blank one behind it is passed over.
  · rw [Section.scalar, if_neg empty]
    have rows := Text.rows_of_whole value line.1
    refine .single proper.2 (by simpa [rows] using line) fun rest => ?_
    rw [rows, List.singleton_append, decodeLines_known _ _ _ _ _ proper.1 known rfl]
    exact decodeLines_blank rest _

theorem reads_list {store : List String → PackageRecord → PackageRecord}
    (known : fields title = some (.list store)) (items : List String) (record : PackageRecord)
    (idle : store [] record = record) (lines : ∀ item ∈ items, item ≠ "" ∧ Text.IsLine item) :
    Reads file fields (Section.list title items) record (store items record) := by
  cases items with
  | nil =>
      rw [idle]
      exact .nil record
  | cons first others =>
      have rows := Text.rows_joinLines (first :: others) (by simp) fun item member =>
        (lines item member).2.1
      refine .single proper.2 (by rw [rows]; exact fun item member => (lines item member).2) ?_
      intro rest
      -- The items go up to the first empty line, which is the one behind the section.
      have ⟨body, remaining⟩ :=
        Field.listBody_items (fun item member => (lines item member).1) rest
      have after : (Field.list store).after (first :: others ++ "" :: rest) = rest := by
        rw [Field.after, remaining, List.drop_one, List.tail_cons]
      rw [rows, decodeLines_known _ _ _ _ _ proper.1 known rfl, after, body]

theorem reads_number (value : Int) (nonzero : value ≠ 0) (field : Field)
    (known : fields title = some field) (start result : PackageRecord)
    (fills : ∀ rest, field.fill file title (toString value :: rest) start = .ok result)
    (after : ∀ line rest, field.after (line :: rest) = rest) :
    Reads file fields (Section.integer title value) start result := by
  have line := Numeral.isLine_toString value
  have rows := Text.rows_of_whole _ line.1
  rw [Section.integer, if_neg nonzero]
  refine .single proper.2 (by rw [rows]; simpa only [List.mem_singleton, forall_eq] using line) ?_
  intro rest
  rw [rows, List.singleton_append, decodeLines_known _ _ _ _ _ proper.1 known (fills _), after]
  exact decodeLines_blank rest _

theorem reads_integer {store : Int64 → PackageRecord → PackageRecord}
    (known : fields title = some (.integer store)) (value : Int64) (record : PackageRecord)
    (idle : store 0 record = record) :
    Reads file fields (Section.integer title value.toInt) record (store value record) := by
  by_cases zero : value = 0
  · rw [zero, idle]
    exact .nil record
  · have nonzero : value.toInt ≠ 0 := fun same => zero (Int64.toInt_inj.1 same)
    refine reads_number title proper _ nonzero _ known _ _ (fun rest => ?_) fun _ _ => rfl
    simp only [Field.fill, Field.integerBody, Field.scalarBody, bind, Except.bind,
      Numeral.trim_toString, Numeral.int64?_toString]
    rfl

theorem reads_smallInteger {store : Int32 → PackageRecord → PackageRecord}
    (known : fields title = some (.smallInteger store)) (value : Int32) (record : PackageRecord)
    (idle : store 0 record = record) :
    Reads file fields (Section.integer title value.toInt) record (store value record) := by
  by_cases zero : value = 0
  · rw [zero, idle]
    exact .nil record
  · have nonzero : value.toInt ≠ 0 := fun same => zero (Int32.toInt_inj.1 same)
    refine reads_number title proper _ nonzero _ known _ _ (fun rest => ?_) fun _ _ => rfl
    simp only [Field.fill, Field.smallIntegerBody, Field.integerBody, Field.scalarBody, bind,
      Except.bind, Numeral.trim_toString, Numeral.int64?_toString_toInt, pure, Except.pure,
      Int32.toInt_toInt64, Numeral.toInt32?_toInt]
    rfl

theorem reads_flag {store : PackageRecord → PackageRecord}
    (known : fields title = some (.flag store)) (isSet : Bool) (record : PackageRecord) :
    Reads file fields (Section.flag title isSet) record
      (if isSet then store record else record) := by
  cases isSet with
  | false => exact .nil record
  | true =>
      have rows : Text.rows "" = [""] := rfl
      refine .single proper.2 (by simpa [rows] using Text.isLine_empty) fun rest => ?_
      rw [rows, decodeLines_known _ _ _ _ _ proper.1 known rfl]
      exact decodeLines_blank rest _

end Reading

end PackageAssay

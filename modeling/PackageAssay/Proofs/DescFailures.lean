import PackageAssay.Proofs.LineCuts
import PackageAssay.Proofs.SectionCodec

/-!
# Where the reading of a description stops

A description is read in parts: lines that are passed over, and headers with their bodies. It can
only fail at a header that comes after whole parts, and it leaves the record that these parts give.
-/

set_option autoImplicit false

namespace PackageAssay

namespace Field

def Body : Field → List String → Prop
  | .list _, body => ∃ items : List String, (∀ item ∈ items, item ≠ "") ∧ body = items ++ [""]
  | _, body => ∃ line : String, body = [line]

variable (field : Field) {file : SectionKey} {title : String} {body : List String}

theorem after_body (isBody : field.Body body) (rest : List String) :
    field.after (body ++ rest) = rest := by
  cases field with
  | list store =>
      obtain ⟨items, present, rfl⟩ := isBody
      rw [List.append_assoc, List.singleton_append, after, (listBody_items present rest).2]
      rfl
  | scalar store | integer store | smallInteger store | flag store =>
      obtain ⟨line, rfl⟩ := isBody
      rfl

theorem fill_body (isBody : field.Body body) (record : PackageRecord) (rest others : List String) :
    field.fill file title (body ++ rest) record =
      field.fill file title (body ++ others) record := by
  cases field with
  | list store =>
      obtain ⟨items, present, rfl⟩ := isBody
      simp [fill, (listBody_items present _).1]
  | scalar store | integer store | smallInteger store | flag store =>
      obtain ⟨line, rfl⟩ := isBody
      rfl

theorem exists_body {lines : List String} (more : field.after lines ≠ []) :
    ∃ body, field.Body body ∧ lines = body ++ field.after lines := by
  cases field with
  | list store =>
      have blank : "" ∈ lines := by
        induction lines with
        | nil => exact absurd rfl more
        | cons line others ih =>
            by_cases empty : line = ""
            · simp [empty]
            · exact List.mem_cons_of_mem _ (ih (by simpa [after, empty] using more))
      obtain ⟨items, rest, rfl, first⟩ := List.eq_append_cons_of_mem blank
      have isBody : (list store).Body (items ++ [""]) :=
        ⟨items, fun item member same => first (same ▸ member), rfl⟩
      have behind := after_body (.list store) isBody rest
      rw [List.append_assoc, List.singleton_append] at behind
      exact ⟨_, isBody, by rw [behind, List.append_assoc, List.singleton_append]⟩
  | scalar store | integer store | smallInteger store | flag store =>
      cases lines with
      | nil => exact absurd rfl more
      | cons line others => exact ⟨[line], ⟨line, rfl⟩, rfl⟩

end Field

def textTitles : List String :=
  ["DESC", "URL", "ARCH", "BUILDDATE", "INSTALLDATE", "PACKAGER", "SHA1SUM"]

def numberTitles : List String := ["SIZE", "CSIZE", "REASON"]

def lineTitles : List String := textTitles ++ numberTitles

def listTitles : List String := ["GROUPS", "LICENSE", "REPLACES"]

def flagTitles : List String := ["FORCE", "STICK"]

inductive DescPart : List String → Prop where
  | passed (line : String)
      (other : ∀ title ∈ lineTitles ++ flagTitles ++ listTitles, line ≠ Section.header title) :
      DescPart [line]
  | oneLine (title line : String) (named : title ∈ lineTitles ++ flagTitles) :
      DescPart [Section.header title, line]
  | items (title : String) (items : List String) (named : title ∈ listTitles)
      (present : ∀ item ∈ items, item ≠ "") : DescPart (Section.header title :: (items ++ [""]))

inductive DescParts : List String → Prop where
  | nil : DescParts []
  | cons {part rest : List String} (first : DescPart part) (others : DescParts rest) :
      DescParts (part ++ rest)

/-- The header stands behind whole parts, with these lines below it. -/
structure ReachedHeader (content front title : String) (rest : List String) : Prop where
  whole : Text.WholeLines front
  parts : DescParts (Text.lines front)
  below : ∃ back, content = front ++ back ∧ Text.lines back = Section.header title :: rest

def Unfinished (title : String) (rest : List String) : Prop :=
  rest = [] ∧ title ∈ lineTitles

/-- The body of the section is not a number that its field holds. -/
def Unreadable (title : String) (rest : List String) : Prop :=
  title ∈ numberTitles ∧ ∃ line others, rest = line :: others ∧
    (Numeral.int64? (Text.trim line) = none ∨
      title = "REASON" ∧ ∃ value, Numeral.int64? (Text.trim line) = some value ∧
        (value.toInt < Int32.minValue.toInt ∨ Int32.maxValue.toInt < value.toInt))

def Field.descTitles : Field → List String
  | .scalar _ => textTitles
  | .integer _ => ["SIZE", "CSIZE"]
  | .smallInteger _ => ["REASON"]
  | .list _ => listTitles
  | .flag _ => flagTitles

theorem mem_descTitles {title : String} {field : Field} (known : descField title = some field) :
    title ∈ field.descTitles := by
  unfold descField at known
  split at known <;> cases known <;> decide

theorem descField_oneLine {title : String} (named : title ∈ lineTitles ++ flagTitles) :
    ∃ field, descField title = some field ∧ ∀ line, field.Body [line] := by
  simp only [lineTitles, textTitles, numberTitles, flagTitles, List.cons_append, List.nil_append,
    List.mem_cons, List.not_mem_nil, or_false] at named
  rcases named with rfl | rfl | rfl | rfl | rfl | rfl | rfl | rfl | rfl | rfl | rfl | rfl <;>
    exact ⟨_, rfl, fun line => ⟨line, rfl⟩⟩

theorem descField_items {title : String} (named : title ∈ listTitles) :
    ∃ store, descField title = some (.list store) := by
  simp only [listTitles, List.mem_cons, List.not_mem_nil, or_false] at named
  rcases named with rfl | rfl | rfl <;> exact ⟨_, rfl⟩

theorem descField_known_iff (title : String) :
    (∃ field, descField title = some field) ↔ title ∈ lineTitles ++ flagTitles ++ listTitles := by
  constructor
  · rintro ⟨field, known⟩
    unfold descField at known
    split at known <;> cases known <;> decide
  · intro named
    rcases List.mem_append.1 named with single | several
    · obtain ⟨field, known, -⟩ := descField_oneLine single
      exact ⟨field, known⟩
    · obtain ⟨store, known⟩ := descField_items several
      exact ⟨_, known⟩

theorem named_of_descField {title : String} {field : Field}
    (known : descField title = some field) : title ≠ "" := by
  rintro rfl
  cases known

theorem descPart_of_body {title : String} {field : Field} {body : List String}
    (known : descField title = some field) (isBody : field.Body body) :
    DescPart (Section.header title :: body) := by
  have named := mem_descTitles known
  cases field with
  | list store =>
      obtain ⟨items, present, rfl⟩ := isBody
      exact .items title items named present
  | scalar store | integer store | smallInteger store | flag store =>
      obtain ⟨line, rfl⟩ := isBody
      refine .oneLine title line ?_
      simp only [Field.descTitles, lineTitles, numberTitles, flagTitles, List.mem_append,
        List.mem_cons, List.not_mem_nil, or_false] at named ⊢
      grind

theorem descPart_of_passed {line : String}
    (other : ∀ title, titleOf line = some title → descField title = none) : DescPart [line] := by
  refine .passed line fun title named same => ?_
  obtain ⟨field, known⟩ := (descField_known_iff title).2 named
  have titled := (titleOf_eq_some_iff line title).2 ⟨named_of_descField known, same⟩
  rw [other title titled] at known
  cases known

theorem not_unreadable_of_unfinished {title : String} {rest : List String}
    (unfinished : Unfinished title rest) : ¬Unreadable title rest := by
  obtain ⟨rfl, -⟩ := unfinished
  rintro ⟨-, line, others, same, -⟩
  cases same

theorem not_unfinished_cons (title line : String) (others : List String) :
    ¬Unfinished title (line :: others) :=
  fun unfinished => absurd unfinished.1 (List.cons_ne_nil line others)

theorem unreadable_cons_iff (title line : String) (others : List String) :
    Unreadable title (line :: others) ↔ title ∈ numberTitles ∧
      (Numeral.int64? (Text.trim line) = none ∨
        title = "REASON" ∧ ∃ value, Numeral.int64? (Text.trim line) = some value ∧
          (value.toInt < Int32.minValue.toInt ∨ Int32.maxValue.toInt < value.toInt)) := by
  simp [Unreadable]

inductive SectionOutcome {α : Type} (title : String) (rest : List String) :
    Except Error α → Prop where
  | taken (value : α) (finished : ¬Unfinished title rest) (readable : ¬Unreadable title rest) :
      SectionOutcome title rest (.ok value)
  | bodiless (unfinished : Unfinished title rest) :
      SectionOutcome title rest (.error (.malformedSection .desc title))
  | notNumber (value : String) (unreadable : Unreadable title rest) :
      SectionOutcome title rest (.error (.invalidInteger .desc title value))

theorem SectionOutcome.map {α β : Type} {title : String} {rest : List String}
    {body : Except Error α} (outcome : SectionOutcome title rest body) (change : α → β) :
    SectionOutcome title rest (body.map change) := by
  cases outcome with
  | taken value finished readable => exact .taken (change value) finished readable
  | bodiless unfinished => exact .bodiless unfinished
  | notNumber value unreadable => exact .notNumber value unreadable

theorem SectionOutcome.fault {α : Type} {title : String} {rest : List String} {error : Error}
    (outcome : @SectionOutcome α title rest (.error error)) :
    (Unfinished title rest ∨ Unreadable title rest) ∧
      (error = .malformedSection .desc title ↔ Unfinished title rest) ∧
      ((∃ value, error = .invalidInteger .desc title value) ↔ Unreadable title rest) := by
  cases outcome with
  | bodiless unfinished =>
      have readable := not_unreadable_of_unfinished unfinished
      simp [unfinished, readable]
  | notNumber value unreadable =>
      have finished := mt not_unreadable_of_unfinished (not_not.2 unreadable)
      simp [unreadable, finished]

theorem outcome_of_apart {title : String} (bodiless : title ∉ lineTitles) (rest : List String)
    (record : PackageRecord) : SectionOutcome title rest (.ok record) := by
  have textual : title ∉ numberTitles := fun numeric => bodiless (List.mem_append_right _ numeric)
  exact .taken record (fun fault => bodiless fault.2) fun fault => textual fault.1

theorem outcome_scalarBody {title : String} (named : title ∈ textTitles) (rest : List String) :
    SectionOutcome title rest (Field.scalarBody .desc title rest) := by
  have apart : ∀ title ∈ textTitles, title ∉ numberTitles := by decide
  cases rest with
  | nil => exact .bodiless ⟨rfl, List.mem_append_left _ named⟩
  | cons line others =>
      exact .taken line (not_unfinished_cons title line others) fun fault =>
        apart title named fault.1

theorem integerBody_cons (file : SectionKey) (title line : String) (others : List String) :
    Field.integerBody file title (line :: others) =
      match Numeral.int64? (Text.trim line) with
      | some value => .ok value
      | none => .error (.invalidInteger file title line) := by
  simp only [Field.integerBody, Field.scalarBody, bind, Except.bind]
  cases Numeral.int64? (Text.trim line) <;> rfl

theorem outcome_integerBody {title : String} (named : title ∈ ["SIZE", "CSIZE"])
    (rest : List String) : SectionOutcome title rest (Field.integerBody .desc title rest) := by
  have wide : title ≠ "REASON" := by
    rintro rfl
    revert named
    decide
  have numeric : title ∈ numberTitles := List.mem_append_left ["REASON"] named
  cases rest with
  | nil => exact .bodiless ⟨rfl, List.mem_append_right _ numeric⟩
  | cons line others =>
      rw [integerBody_cons]
      cases number : Numeral.int64? (Text.trim line) with
      | none => exact .notNumber line ⟨numeric, line, others, rfl, .inl number⟩
      | some value =>
          refine .taken value (not_unfinished_cons title line others) ?_
          simp [unreadable_cons_iff, number, wide]

theorem outcome_smallIntegerBody (rest : List String) :
    SectionOutcome "REASON" rest (Field.smallIntegerBody .desc "REASON" rest) := by
  have numeric : "REASON" ∈ numberTitles := by decide
  cases rest with
  | nil => exact .bodiless ⟨rfl, List.mem_append_right _ numeric⟩
  | cons line others =>
      rw [Field.smallIntegerBody, integerBody_cons]
      cases number : Numeral.int64? (Text.trim line) with
      | none => exact .notNumber line ⟨numeric, line, others, rfl, .inl number⟩
      | some value =>
          simp only [bind, Except.bind]
          cases small : Numeral.toInt32? value.toInt with
          | none =>
              have outside := (Numeral.toInt32?_eq_none_iff _).1 small
              exact .notNumber _ ⟨numeric, line, others, rfl, .inr ⟨rfl, value, number, outside⟩⟩
          | some reason =>
              refine .taken reason (not_unfinished_cons _ line others) ?_
              have inside := mt (Numeral.toInt32?_eq_none_iff value.toInt).2 (by simp [small])
              simp only [unreadable_cons_iff, number, reduceCtorEq, true_and, Option.some.injEq,
                exists_eq_left', false_or, not_and]
              exact fun _ => inside

theorem outcome_fill {title : String} {field : Field} (known : descField title = some field)
    (rest : List String) (record : PackageRecord) :
    SectionOutcome title rest (field.fill .desc title rest record) := by
  have named := mem_descTitles known
  cases field with
  | list store =>
      have apart : ∀ title ∈ listTitles, title ∉ lineTitles := by decide
      exact outcome_of_apart (apart title named) rest _
  | flag store =>
      have apart : ∀ title ∈ flagTitles, title ∉ lineTitles := by decide
      exact outcome_of_apart (apart title named) rest _
  | scalar store => exact (outcome_scalarBody named rest).map _
  | integer store => exact (outcome_integerBody named rest).map _
  | smallInteger store =>
      obtain rfl : title = "REASON" := by simpa [Field.descTitles] using named
      exact (outcome_smallIntegerBody rest).map _

theorem decodeLines_passed {line : String}
    (other : ∀ title ∈ lineTitles ++ flagTitles ++ listTitles, line ≠ Section.header title)
    (rest : List String) (record : PackageRecord) :
    decodeLines .desc descField (line :: rest) record =
      decodeLines .desc descField rest record := by
  cases titled : titleOf line with
  | none => exact decodeLines_other line rest record titled
  | some title =>
      obtain ⟨named, rfl⟩ := (titleOf_eq_some_iff line title).1 titled
      have unknown : descField title = none := by
        rw [Option.eq_none_iff_forall_ne_some]
        exact fun field known => other title ((descField_known_iff title).1 ⟨field, known⟩) rfl
      exact decodeLines_unknown title rest record named unknown

theorem decodeLines_section {title : String} {field : Field} {body : List String}
    (known : descField title = some field) (isBody : field.Body body) (record : PackageRecord) :
    (∃ filled, ∀ rest, decodeLines .desc descField (Section.header title :: body ++ rest) record =
      decodeLines .desc descField rest filled) ∨
    ∃ error, ∀ rest, decodeLines .desc descField (Section.header title :: body ++ rest) record =
      ⟨record, some error⟩ := by
  have named := named_of_descField known
  cases fills : field.fill .desc title (body ++ []) record with
  | error error =>
      refine .inr ⟨error, fun rest => ?_⟩
      rw [field.fill_body isBody record [] rest] at fills
      exact decodeLines_failed _ _ _ _ named known fills
  | ok filled =>
      refine .inl ⟨filled, fun rest => ?_⟩
      rw [field.fill_body isBody record [] rest] at fills
      rw [List.cons_append, decodeLines_known _ _ _ _ _ named known fills, field.after_body isBody]

theorem decodeLines_part {part : List String} (isPart : DescPart part) (record : PackageRecord) :
    (∃ filled, ∀ rest, decodeLines .desc descField (part ++ rest) record =
      decodeLines .desc descField rest filled) ∨
    ∃ error, ∀ rest, decodeLines .desc descField (part ++ rest) record = ⟨record, some error⟩ := by
  cases isPart with
  | passed line other => exact .inl ⟨record, fun rest => decodeLines_passed other rest record⟩
  | oneLine title line named =>
      obtain ⟨field, known, isBody⟩ := descField_oneLine named
      exact decodeLines_section known (isBody line) record
  | items title items named present =>
      obtain ⟨store, known⟩ := descField_items named
      exact decodeLines_section known ⟨items, present, rfl⟩ record

theorem decodeLines_parts {before : List String} (parts : DescParts before)
    {record left : PackageRecord} (done : decodeLines .desc descField before record = ⟨left, none⟩)
    (rest : List String) :
    decodeLines .desc descField (before ++ rest) record =
      decodeLines .desc descField rest left := by
  induction parts generalizing record with
  | nil =>
      rw [decodeLines] at done
      cases done
      rfl
  | cons first others ih =>
      rcases decodeLines_part first record with ⟨filled, reads⟩ | ⟨error, fails⟩
      · rw [reads] at done
        rw [List.append_assoc, reads]
        exact ih done
      · rw [fails] at done
        cases done

theorem exists_failed_section {lines : List String} {record left : PackageRecord} {error : Error}
    (failed : decodeLines .desc descField lines record = ⟨left, some error⟩) :
    ∃ before title field rest, lines = before ++ Section.header title :: rest ∧
      DescParts before ∧ decodeLines .desc descField before record = ⟨left, none⟩ ∧
      descField title = some field ∧ field.fill .desc title rest left = .error error := by
  -- A line that is passed over and a section that is taken each go before the parts as one more.
  fun_induction decodeLines .desc descField lines record with
  | case1 record => cases failed
  | case2 line others record other ih =>
      obtain ⟨before, title, field, rest, rfl, parts, done, fault⟩ := ih failed
      have part : DescPart [line] := descPart_of_passed fun title titled => by
        rw [other] at titled
        cases titled
      refine ⟨line :: before, title, field, rest, rfl, .cons part parts, ?_, fault⟩
      rw [decodeLines_other _ _ _ other, done]
  | case3 line others record title titled unknown ih =>
      obtain ⟨before, next, field, rest, rfl, parts, done, fault⟩ := ih failed
      have part : DescPart [line] := descPart_of_passed fun named same => by
        rw [titled] at same
        cases same
        exact unknown
      obtain ⟨named, rfl⟩ := (titleOf_eq_some_iff line title).1 titled
      refine ⟨_ :: before, next, field, rest, rfl, .cons part parts, ?_, fault⟩
      rw [decodeLines_unknown _ _ _ named unknown, done]
  | case4 line others record title titled field known error fails =>
      obtain ⟨-, rfl⟩ := (titleOf_eq_some_iff line title).1 titled
      cases failed
      exact ⟨[], title, field, others, rfl, .nil, by rw [decodeLines], known, fails⟩
  | case5 line others record title titled field known filled fills ih =>
      obtain ⟨named, rfl⟩ := (titleOf_eq_some_iff line title).1 titled
      -- The error comes from what is behind the section, so the section has its whole body.
      have more : field.after others ≠ [] := by
        intro none
        rw [none, decodeLines] at failed
        cases failed
      obtain ⟨body, isBody, parted⟩ := field.exists_body more
      obtain ⟨before, next, field', rest, below, parts, done, fault⟩ := ih failed
      refine ⟨Section.header title :: body ++ before, next, field', rest, ?_,
        .cons (descPart_of_body known isBody) parts, ?_, fault⟩
      · rw [List.cons_append, List.cons_append, List.append_assoc, ← below, ← parted]
      · rw [parted, field.fill_body isBody record _ before] at fills
        rw [List.cons_append, decodeLines_known _ _ _ _ _ named known fills,
          field.after_body isBody, done]

theorem sound_of_decodeLines {title : String} {rest : List String} {record : PackageRecord}
    (done : (decodeLines .desc descField (Section.header title :: rest) record).failure = none) :
    ¬Unfinished title rest ∧ ¬Unreadable title rest := by
  cases known : descField title with
  | none =>
      have unnamed : title ∉ lineTitles := fun named => by
        have listed := List.mem_append_left listTitles (List.mem_append_left flagTitles named)
        obtain ⟨field, found⟩ := (descField_known_iff title).2 listed
        rw [known] at found
        cases found
      exact ⟨fun fault => unnamed fault.2, fun fault => unnamed (List.mem_append_right _ fault.1)⟩
  | some field =>
      have outcome := outcome_fill known rest record
      cases fills : field.fill .desc title rest record with
      | error error =>
          rw [decodeLines_failed _ _ _ _ (named_of_descField known) known fills] at done
          cases done
      | ok filled =>
          rw [fills] at outcome
          cases outcome with
          | taken _ finished readable => exact ⟨finished, readable⟩

theorem exists_faulty_header {content : String} {record left : PackageRecord} {error : Error}
    (failed : decodeDesc content record = ⟨left, some error⟩) :
    ∃ front title rest, ReachedHeader content front title rest ∧
      decodeDesc front record = ⟨left, none⟩ ∧
      (Unfinished title rest ∨ Unreadable title rest) ∧
      (error = .malformedSection .desc title ↔ Unfinished title rest) ∧
      ((∃ value, error = .invalidInteger .desc title value) ↔ Unreadable title rest) := by
  obtain ⟨before, title, field, rest, parted, parts, done, known, fails⟩ :=
    exists_failed_section failed
  obtain ⟨front, back, rfl, whole, rfl, below⟩ :=
    Text.exists_cut_of_lines content before _ (by simp) parted
  have outcome := outcome_fill known rest left
  rw [fails] at outcome
  exact ⟨front, title, rest, ⟨whole, parts, back, rfl, below⟩, done, outcome.fault⟩

theorem sound_of_reached {content front title : String} {rest : List String}
    {record : PackageRecord} (reached : ReachedHeader content front title rest)
    (before : (decodeDesc front record).failure = none)
    (done : (decodeDesc content record).failure = none) :
    ¬Unfinished title rest ∧ ¬Unreadable title rest := by
  obtain ⟨back, rfl, below⟩ := reached.below
  have read : decodeLines .desc descField (Text.lines front) record =
      ⟨(decodeDesc front record).record, none⟩ := by
    rw [← before]
    rfl
  rw [decodeDesc, Text.lines_append reached.whole, below,
    decodeLines_parts reached.parts read] at done
  exact sound_of_decodeLines done

/-- A failing description is read up to a header whose section has no body that can be taken, and
what was read up to there is kept. -/
theorem failed_desc_stops_at_header (content : String) (record : PackageRecord) :
    (∀ left error, decodeDesc content record = ⟨left, some error⟩ →
      ∃ front title rest, ReachedHeader content front title rest ∧
        decodeDesc front record = ⟨left, none⟩ ∧
        (Unfinished title rest ∨ Unreadable title rest) ∧
        (error = .malformedSection .desc title ↔ Unfinished title rest) ∧
        ((∃ value, error = .invalidInteger .desc title value) ↔ Unreadable title rest)) ∧
    ((decodeDesc content record).failure = none ↔
      ∀ front title rest, ReachedHeader content front title rest →
        (decodeDesc front record).failure = none →
        ¬Unfinished title rest ∧ ¬Unreadable title rest) := by
  refine ⟨fun left error failed => exists_faulty_header failed, ?_, ?_⟩
  · exact fun done front title rest reached before => sound_of_reached reached before done
  · intro sound
    by_contra failed
    obtain ⟨error, found⟩ := Option.ne_none_iff_exists'.1 failed
    have stopped : decodeDesc content record =
        ⟨(decodeDesc content record).record, some error⟩ := by
      rw [← found]
    obtain ⟨front, title, rest, reached, done, fault, -⟩ := exists_faulty_header stopped
    have ⟨finished, readable⟩ := sound front title rest reached (by rw [done])
    exact fault.elim finished readable

/-- The value of the last section fits into 64 bits and not into 32. -/
theorem failed_desc_stops_at_header_wideReason :
    ∃ front title rest,
      ReachedHeader "%CSIZE%\n12\n%GROUPS%\n%DESC%\n\n%REASON%\n4294967296\n" front title rest ∧
        decodeDesc front {} =
          ⟨{ compressedSize := 12, size := 12, groups := ["%DESC%"] }, none⟩ ∧
        Unreadable title rest := by
  have stopped : decodeDesc "%CSIZE%\n12\n%GROUPS%\n%DESC%\n\n%REASON%\n4294967296\n" {} =
      ⟨{ compressedSize := 12, size := 12, groups := ["%DESC%"] },
        some (.invalidInteger .desc "REASON" "4294967296")⟩ := by
    decide +kernel
  obtain ⟨front, title, rest, reached, before, fault, malformed, -⟩ :=
    (failed_desc_stops_at_header _ _).1 _ _ stopped
  have finished : ¬Unfinished title rest := fun unfinished => by cases malformed.2 unfinished
  exact ⟨front, title, rest, reached, before, fault.resolve_left finished⟩

end PackageAssay

import PackageAssay.Proofs.LineCuts
import PackageAssay.Proofs.SectionCodec

/-!
# Files that are joined by a blank line

Wherever the end of a file cuts off the reading, a blank line brings the reader back to where a
section may begin. So the sections of a joined file are read as if each file were read in turn, and
a later section replaces an earlier one of the same title.
-/

set_option autoImplicit false

namespace PackageAssay

namespace Field

variable (field : Field) {file : SectionKey} {title : String}

theorem listBody_append_blank (lines rest : List String) :
    listBody (lines ++ "" :: rest) = listBody lines := by
  induction lines with
  | nil => simp [listBody]
  | cons line others ih =>
      simp only [listBody, List.cons_append, List.takeWhile_cons] at ih ⊢
      rw [ih]

theorem fill_append_blank {lines : List String} {record filled : PackageRecord}
    (fills : field.fill file title lines record = .ok filled) (rest : List String) :
    field.fill file title (lines ++ "" :: rest) record = .ok filled := by
  cases field with
  | list store => simpa [fill, listBody_append_blank] using fills
  | flag store => exact fills
  -- A body of one line is there already, or else the filling had failed.
  | scalar store | integer store | smallInteger store =>
      cases lines with
      | nil => cases fills
      | cons line others => exact fills

theorem after_append_blank (lines rest : List String) :
    field.after (lines ++ "" :: rest) = field.after lines ++ "" :: rest ∨
      field.after lines = [] ∧ field.after (lines ++ "" :: rest) = rest := by
  cases field with
  | list store =>
      induction lines with
      | nil => exact .inr ⟨rfl, by simp [after]⟩
      | cons line others ih =>
          by_cases blank : line = ""
          · exact .inl (by simp [after, blank])
          · simpa [after, blank] using ih
  | scalar store | integer store | smallInteger store | flag store =>
      cases lines with
      | nil => exact .inr ⟨rfl, rfl⟩
      | cons line others => exact .inl rfl

theorem after_suffix (lines : List String) : field.after lines <:+ lines := by
  cases field with
  | list store => exact (List.drop_suffix 1 _).trans (List.dropWhile_suffix _)
  | scalar store | integer store | smallInteger store | flag store => exact List.drop_suffix 1 lines

def Overwrites : Field → Prop
  | .scalar store => ∀ value other record, store value (store other record) = store value record
  | .list store => ∀ value other record, store value (store other record) = store value record
  | .integer store => ∀ value other record, store value (store other record) = store value record
  | .smallInteger store =>
      ∀ value other record, store value (store other record) = store value record
  | .flag store => ∀ record, store (store record) = store record

def emptied : Field → PackageRecord → PackageRecord
  | .scalar store, record => store "" record
  | .list store, record => store [] record
  | .integer store, record => store 0 record
  | .smallInteger store, record => store 0 record
  | .flag store, record => store record

variable {field}

theorem fill_congr (overwrites : field.Overwrites) {left right : PackageRecord}
    (same : field.emptied left = field.emptied right) (lines : List String) :
    field.fill file title lines left = field.fill file title lines right := by
  have stores {α : Type} {store : α → PackageRecord → PackageRecord} {none : α}
      (overwrites : ∀ value other record, store value (store other record) = store value record)
      (same : store none left = store none right) (value : α) :
      store value left = store value right := by
    rw [← overwrites value none left, same, overwrites]
  cases field with
  | scalar store | integer store | smallInteger store => simp only [fill, stores overwrites same]
  | list store => exact congrArg Except.ok (stores overwrites same _)
  | flag store => exact congrArg Except.ok same

theorem emptied_fill (overwrites : field.Overwrites) {lines : List String}
    {record filled : PackageRecord} (fills : field.fill file title lines record = .ok filled) :
    field.emptied filled = field.emptied record := by
  have stored {α : Type} (store : α → PackageRecord → PackageRecord) {none : α}
      (overwrites : ∀ value other record, store value (store other record) = store value record)
      {body : Except Error α} (fills : body.map (store · record) = .ok filled) :
      store none filled = store none record := by
    cases body with
    | error error => cases fills
    | ok value =>
        cases fills
        exact overwrites none value record
  cases field with
  | scalar store | integer store | smallInteger store => exact stored store overwrites fills
  | list store | flag store =>
      cases fills
      exact overwrites ..

end Field

structure Field.Sound (title : String) (field : Field) : Prop where
  named : title ≠ ""
  whole : '\n' ∉ title.toList
  overwrites : field.Overwrites

theorem sound_descField {title : String} {field : Field}
    (known : descField title = some field) : field.Sound title := by
  unfold descField at known
  split at known <;> cases known <;>
    exact ⟨by decide, by decide, by simp [Field.Overwrites]⟩

theorem sound_filesField {title : String} {field : Field}
    (known : filesField title = some field) : field.Sound title := by
  unfold filesField at known
  split at known <;> cases known <;>
    exact ⟨by decide, by decide, by simp [Field.Overwrites]⟩

theorem sound_dependsField {title : String} {field : Field}
    (known : dependsField title = some field) : field.Sound title := by
  unfold dependsField at known
  split at known <;> cases known <;>
    exact ⟨by decide, by decide, by simp [Field.Overwrites]⟩

section Lines

variable {file : SectionKey} {fields : String → Option Field}

theorem decodeLines_append_blank {lines : List String} {record result : PackageRecord}
    (done : decodeLines file fields lines record = ⟨result, none⟩) (rest : List String) :
    decodeLines file fields (lines ++ "" :: rest) record = decodeLines file fields rest result := by
  fun_induction decodeLines file fields lines record with
  | case1 record =>
      cases done
      exact decodeLines_blank rest result
  | case2 line others record other ih =>
      rw [List.cons_append, decodeLines_other _ _ _ other]
      exact ih done
  | case3 line others record title titled unknown ih =>
      obtain ⟨named, rfl⟩ := (titleOf_eq_some_iff line title).1 titled
      rw [List.cons_append, decodeLines_unknown _ _ _ named unknown]
      exact ih done
  | case4 line others record title titled field known error fills => cases done
  | case5 line others record title titled field known filled fills ih =>
      obtain ⟨named, rfl⟩ := (titleOf_eq_some_iff line title).1 titled
      rw [List.cons_append, decodeLines_known _ _ _ _ _ named known
        (field.fill_append_blank fills rest)]
      rcases field.after_append_blank others rest with inside | ⟨none, behind⟩
      · rw [inside]
        exact ih done
      -- Nothing of the first file is left behind this section.
      · rw [none, decodeLines] at done
        cases done
        rw [behind]

theorem decodeLines_header_congr {title : String} {field : Field}
    (known : fields title = some field) (sound : field.Sound title) {left right : PackageRecord}
    (same : field.emptied left = field.emptied right) (rest : List String) :
    (decodeLines file fields (Section.header title :: rest) left).result =
      (decodeLines file fields (Section.header title :: rest) right).result := by
  have fills : field.fill file title rest left = field.fill file title rest right :=
    Field.fill_congr sound.overwrites same rest
  cases filled : field.fill file title rest right with
  | error error =>
      rw [filled] at fills
      rw [decodeLines_failed _ _ _ _ sound.named known fills,
        decodeLines_failed _ _ _ _ sound.named known filled]
      rfl
  | ok record =>
      rw [filled] at fills
      rw [decodeLines_known _ _ _ _ _ sound.named known fills,
        decodeLines_known _ _ _ _ _ sound.named known filled]

theorem decodeLines_unread {lines : List String} (record : PackageRecord)
    (unread : ∀ line ∈ lines, ∀ other, titleOf line = some other → fields other = none) :
    decodeLines file fields lines record = ⟨record, none⟩ := by
  induction lines with
  | nil => rw [decodeLines]
  | cons line others ih =>
      have behind := ih fun next member => unread next (List.mem_cons_of_mem _ member)
      cases titled : titleOf line with
      | none => rw [decodeLines_other _ _ _ titled, behind]
      | some other =>
          have unknown := unread line List.mem_cons_self other titled
          obtain ⟨named, rfl⟩ := (titleOf_eq_some_iff line other).1 titled
          rw [decodeLines_unknown _ _ _ named unknown, behind]

theorem emptied_decodeLines {title : String} {field : Field} (known : fields title = some field)
    (overwrites : field.Overwrites) {lines : List String} {record : PackageRecord}
    (alone : ∀ line ∈ lines, ∀ other, titleOf line = some other →
      other = title ∨ fields other = none) :
    field.emptied (decodeLines file fields lines record).record = field.emptied record := by
  fun_induction decodeLines file fields lines record with
  | case1 record => rfl
  | case2 line others record other ih => exact ih fun next member => alone next (.tail _ member)
  | case3 line others record other titled unknown ih =>
      exact ih fun next member => alone next (.tail _ member)
  | case4 line others record other titled stored found error fills => rfl
  | case5 line others record other titled stored found filled fills ih =>
      obtain rfl | unknown := alone line (.head _) other titled
      · obtain rfl : stored = field := Option.some.inj (found.symm.trans known)
        rw [ih fun next member => alone next (.tail _ ((stored.after_suffix others).subset member))]
        exact Field.emptied_fill overwrites fills
      · rw [unknown] at found
        cases found

end Lines

theorem Section.lines_header_append (title rest : String) (whole : '\n' ∉ title.toList) :
    Text.lines (header title ++ "\n" ++ rest) = header title :: Text.lines rest := by
  have line := isLine_header title whole
  have ends : Text.WholeLines (header title ++ "\n") :=
    .inr (Text.endsWithChar_singleton_append '\n' _)
  rw [Text.lines_append ends, Text.lines_feed _ line.1, Text.dropLineEnd_line _ line.2,
    String.ofList_toList, List.singleton_append]

theorem lines_joined (first second : String) (plain : first.toList.getLast? ≠ some '\r') :
    ∃ gap, Text.lines (first ++ "\n\n" ++ second) = Text.lines first ++ "" :: gap ∧
      (gap = Text.lines second ∨ gap = "" :: Text.lines second) := by
  have ends : Text.WholeLines (first ++ "\n") := .inr (Text.endsWithChar_singleton_append '\n' _)
  have apart : first ++ "\n\n" ++ second = first ++ "\n" ++ ("\n" ++ second) :=
    String.toList_injective (by simp)
  have blank : Text.lines ("\n" ++ second) = "" :: Text.lines second :=
    Text.lines_append (.inr rfl) second
  rw [apart, Text.lines_append ends, blank]
  rcases Text.lines_append_feed first plain with same | more
  · exact ⟨_, by rw [same], .inl rfl⟩
  · exact ⟨_, by rw [more, List.append_assoc, List.singleton_append], .inr rfl⟩

theorem exists_file {decode : String → PackageRecord → Decoded} {fields : String → Option Field}
    (framed : (decode, fields) ∈ [(decodeDesc, descField), (decodeFiles, filesField),
      (decodeDepends, dependsField)]) :
    ∃ file, (∀ title field, fields title = some field → field.Sound title) ∧
      ∀ content record, decode content record = decodeLines file fields (Text.lines content) record := by
  simp only [List.mem_cons, List.not_mem_nil, or_false, Prod.mk.injEq] at framed
  rcases framed with ⟨rfl, rfl⟩ | ⟨rfl, rfl⟩ | ⟨rfl, rfl⟩
  · exact ⟨.desc, fun _ _ => sound_descField, fun _ _ => rfl⟩
  · exact ⟨.files, fun _ _ => sound_filesField, fun _ _ => rfl⟩
  · exact ⟨.depends, fun _ _ => sound_dependsField, fun _ _ => rfl⟩

/-- The second file goes on with the record that the first one left. What the first one left where
a section of the second goes has no say in what is read, so a first file that stores nowhere else can
as well be missing. -/
theorem joined_files_decode_in_turn (decode : String → PackageRecord → Decoded)
    (fields : String → Option Field)
    (framed : (decode, fields) ∈ [(decodeDesc, descField), (decodeFiles, filesField),
      (decodeDepends, dependsField)]) (first second : String)
    (record : PackageRecord) (plain : first.toList.getLast? ≠ some '\r')
    (done : (decode first record).failure = none) :
    decode (first ++ "\n\n" ++ second) record = decode second (decode first record).record ∧
    (∀ title field rest other, fields title = some field →
      second = Section.header title ++ "\n" ++ rest →
      field.emptied (decode first record).record = field.emptied other →
        (decode (first ++ "\n\n" ++ second) record).result = (decode second other).result) ∧
    ∀ title rest, second = Section.header title ++ "\n" ++ rest →
      (∀ line ∈ Text.lines first, ∀ other, titleOf line = some other →
        other = title ∨ fields other = none) →
        (decode (first ++ "\n\n" ++ second) record).result = (decode second record).result := by
  obtain ⟨file, sound, read⟩ := exists_file framed
  have before : decodeLines file fields (Text.lines first) record =
      ⟨(decode first record).record, none⟩ := by
    rw [← read, ← done]
  have inTurn : decode (first ++ "\n\n" ++ second) record =
      decode second (decode first record).record := by
    obtain ⟨gap, parted, same | blank⟩ := lines_joined first second plain
    · rw [read, parted, decodeLines_append_blank before, same, ← read]
    · rw [read, parted, decodeLines_append_blank before, blank, decodeLines_blank, ← read]
  have overwritten (title : String) (field : Field) (rest : String) (other : PackageRecord)
      (known : fields title = some field) (later : second = Section.header title ++ "\n" ++ rest)
      (same : field.emptied (decode first record).record = field.emptied other) :
      (decode (first ++ "\n\n" ++ second) record).result = (decode second other).result := by
    rw [inTurn, later, read (_ ++ rest), read (_ ++ rest),
      Section.lines_header_append title rest (sound title field known).whole]
    exact decodeLines_header_congr known (sound title field known) same _
  refine ⟨inTurn, overwritten, fun title rest later alone => ?_⟩
  cases known : fields title with
  | none =>
      -- No section of the first file is read at all.
      have unread : decode first record = ⟨record, none⟩ := by
        rw [read]
        refine decodeLines_unread record fun line member other titled => ?_
        obtain rfl | unknown := alone line member other titled
        exacts [known, unknown]
      rw [inTurn, unread]
  | some field =>
      refine overwritten title field rest record known later ?_
      rw [read]
      exact emptied_decodeLines known (sound title field known).overwrites alone

/-- The end of the first file cuts off the body of a flag, a number is given twice with other sections
around it, and a list is given again beside a section that nothing reads. -/
theorem joined_files_decode_in_turn_cutOffFile :
    decodeDesc ("%GROUPS%\nbase\n\n%FORCE%" ++ "\n\n" ++ "%DESC%\nlater") {} =
      decodeDesc "%DESC%\nlater" { groups := ["base"], force := true } ∧
    (decodeDesc ("%GROUPS%\nbase\n\n%CSIZE%\n7\n%URL%\nhere" ++ "\n\n" ++ "%CSIZE%\nbig")
      {}).result =
      (decodeDesc "%CSIZE%\nbig" { groups := ["base"], url := "here" }).result ∧
    (decodeDesc ("%GROUPS%\nbase\n\n%MD5SUM%\n0\n%GROUPS%" ++ "\n\n" ++ "%GROUPS%\nextra") {}).result =
      (decodeDesc "%GROUPS%\nextra" {}).result := by
  have cutOff : decodeDesc "%GROUPS%\nbase\n\n%FORCE%" {} =
      ⟨{ groups := ["base"], force := true }, none⟩ := by
    decide +kernel
  have sized : decodeDesc "%GROUPS%\nbase\n\n%CSIZE%\n7\n%URL%\nhere" {} =
      ⟨{ groups := ["base"], compressedSize := 7, size := 7, url := "here" }, none⟩ := by
    decide +kernel
  have titles : (Text.lines "%GROUPS%\nbase\n\n%MD5SUM%\n0\n%GROUPS%").filterMap titleOf =
      ["GROUPS", "MD5SUM", "GROUPS"] := by
    decide +kernel
  refine ⟨?_, ?_, ?_⟩
  · have inTurn := (joined_files_decode_in_turn decodeDesc descField (by simp)
      "%GROUPS%\nbase\n\n%FORCE%" "%DESC%\nlater" {} (by decide) (by rw [cutOff])).1
    rwa [cutOff] at inTurn
  · refine (joined_files_decode_in_turn decodeDesc descField (by simp)
      "%GROUPS%\nbase\n\n%CSIZE%\n7\n%URL%\nhere" "%CSIZE%\nbig" {} (by decide)
      (by rw [sized])).2.1 "CSIZE" _ "big" _ rfl rfl ?_
    rw [sized]
    rfl
  · refine (joined_files_decode_in_turn decodeDesc descField (by simp)
      "%GROUPS%\nbase\n\n%MD5SUM%\n0\n%GROUPS%" "%GROUPS%\nextra" {} (by decide)
      (by decide +kernel)).2.2 "GROUPS" "extra" rfl fun line member other titled => ?_
    have listed : other ∈ ["GROUPS", "MD5SUM", "GROUPS"] :=
      titles ▸ List.mem_filterMap.2 ⟨line, member, titled⟩
    simp only [List.mem_cons, List.not_mem_nil, or_false] at listed
    rcases listed with rfl | rfl | rfl
    exacts [.inl rfl, .inr rfl, .inl rfl]

end PackageAssay

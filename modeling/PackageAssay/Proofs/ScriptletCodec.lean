import Mathlib.Data.List.Basic
import PackageAssay.Database.Decode
import PackageAssay.Database.Encode
import PackageAssay.Proofs.Lines
import PackageAssay.Proofs.Splits

set_option autoImplicit false

namespace PackageAssay

theorem Hook.ofName?_name (hook : Hook) : Hook.ofName? hook.name = some hook := by
  cases hook <;> rfl

theorem Hook.mem_all (hook : Hook) : hook ∈ Hook.all := by
  cases hook <;> simp [Hook.all]

namespace Scriptlets

theorem ext_body {left right : Scriptlets} (same : ∀ hook, left.body hook = right.body hook) :
    left = right := by
  obtain ⟨_, _, _, _, _, _⟩ := left
  obtain ⟨_, _, _, _, _, _⟩ := right
  have preInstall := same .preInstall
  have postInstall := same .postInstall
  have preRemove := same .preRemove
  have postRemove := same .postRemove
  have preUpgrade := same .preUpgrade
  have postUpgrade := same .postUpgrade
  simp_all [body]

theorem mem_present (scriptlets : Scriptlets) (hook : Hook) :
    hook ∈ scriptlets.present ↔ scriptlets.body hook ≠ "" := by
  simp [present, Hook.mem_all]

theorem isEmpty_eq_false_iff (scriptlets : Scriptlets) :
    scriptlets.isEmpty = false ↔ ∃ hook, scriptlets.body hook ≠ "" := by
  rw [isEmpty, List.isEmpty_eq_false_iff_exists_mem]
  simp only [mem_present]

/-- Whether no row of a body ends the function that the body is written in, or ends in a carriage
return. -/
def Storable (scriptlets : Scriptlets) : Prop :=
  ∀ hook, ∀ row ∈ Text.rows (scriptlets.body hook),
    row ≠ "\x7d" ∧ row.toList.getLast? ≠ some '\r'

instance (scriptlets : Scriptlets) : Decidable scriptlets.Storable :=
  decidable_of_iff (∀ hook ∈ Hook.all, ∀ row ∈ Text.rows (scriptlets.body hook),
      row ≠ "\x7d" ∧ row.toList.getLast? ≠ some '\r')
    ⟨fun each hook => each hook hook.mem_all, fun each hook _ => each hook⟩

end Scriptlets

def functionLines (hook : Hook) (body : String) : List String :=
  (hook.name ++ "() \x7b") :: (Text.rows body ++ ["\x7d"])

theorem toList_shellFunction_append (hook : Hook) (body : String) :
    (shellFunction hook body).toList ++ ['\n'] = Text.closed (functionLines hook body) := by
  have rows := Text.closed_rows body
  simp only [Text.closed] at rows
  simp [shellFunction, functionLines, Text.closed, rows]

theorem toList_encodeInstall (scriptlets : Scriptlets) :
    (encodeInstall scriptlets).toList = Text.closed
      (scriptlets.present.flatMap fun hook => functionLines hook (scriptlets.body hook)) := by
  unfold encodeInstall Scriptlets.isEmpty
  split
  · next none => simp [List.isEmpty_iff.1 none, Text.closed]
  · next some =>
      rw [Text.toList_joinLines_append _ (by simpa using some), Text.closed, Text.closed,
        List.flatMap_map, List.flatMap_assoc]
      exact List.flatMap_congr fun hook _ => toList_shellFunction_append hook _

theorem whole_of_mem_functionLines (hook : Hook) (body line : String)
    (member : line ∈ functionLines hook body) : '\n' ∉ line.toList := by
  simp only [functionLines, List.mem_cons, List.mem_append, List.not_mem_nil, or_false] at member
  rcases member with rfl | row | rfl
  · cases hook <;> decide
  · exact Text.whole_of_mem_rows _ line row
  · decide

theorem isLine_of_mem_functionLines (scriptlets : Scriptlets) (storable : scriptlets.Storable)
    (hook : Hook) (line : String) (member : line ∈ functionLines hook (scriptlets.body hook)) :
    Text.IsLine line := by
  refine ⟨whole_of_mem_functionLines hook _ line member, ?_⟩
  simp only [functionLines, List.mem_cons, List.mem_append, List.not_mem_nil, or_false] at member
  rcases member with rfl | row | rfl
  · simp
  · exact (storable hook line row).2
  · decide

theorem lines_encodeInstall (scriptlets : Scriptlets) (storable : scriptlets.Storable) :
    Text.lines (encodeInstall scriptlets) =
      scriptlets.present.flatMap fun hook => functionLines hook (scriptlets.body hook) := by
  rw [← String.ofList_toList (s := encodeInstall scriptlets), toList_encodeInstall,
    Text.lines_ofList_closed]
  intro line member
  obtain ⟨hook, _, inside⟩ := List.mem_flatMap.1 member
  exact isLine_of_mem_functionLines scriptlets storable hook line inside

theorem readScriptlets_function (hook : Hook) (body : String) (rest : List String)
    (scriptlets : Scriptlets) (inside : "\x7d" ∉ Text.rows body) :
    readScriptlets (functionLines hook body ++ rest) scriptlets =
      readScriptlets rest (scriptlets.setBody hook body) := by
  have opening : functionOpening (hook.name ++ "() \x7b") = some hook.name :=
    (Text.withoutSuffix_eq_some_iff _ _ _).2 rfl
  have before : ∀ row ∈ Text.rows body, decide (row ≠ "\x7d") = true := by
    intro row member
    rw [decide_eq_true_eq]
    rintro rfl
    exact inside member
  rw [functionLines, List.cons_append, List.append_assoc, List.singleton_append, readScriptlets,
    opening]
  simp only [List.takeWhile_append_of_pos before, List.dropWhile_append_of_pos before,
    Hook.ofName?_name]
  simp [Text.joinLines_rows]

theorem readScriptlets_functions (source start : Scriptlets) (hooks : List Hook)
    (storable : source.Storable) :
    readScriptlets (hooks.flatMap fun hook => functionLines hook (source.body hook)) start =
      hooks.foldl (fun filled hook => filled.setBody hook (source.body hook)) start := by
  -- One function is read to its end, so that the next one begins a line.
  induction hooks generalizing start with
  | nil => rw [List.flatMap_nil, readScriptlets, List.foldl_nil]
  | cons hook rest ih =>
      rw [List.flatMap_cons, readScriptlets_function, ih, List.foldl_cons]
      intro closing
      exact (storable hook _ closing).1 rfl

theorem body_foldl_setBody (source start : Scriptlets) (hooks : List Hook) (other : Hook) :
    (hooks.foldl (fun filled hook => filled.setBody hook (source.body hook)) start).body other =
      if other ∈ hooks then source.body other else start.body other := by
  induction hooks generalizing start with
  | nil => simp
  | cons hook rest ih =>
      rw [List.foldl_cons, ih, Scriptlets.body_setBody]
      by_cases later : other ∈ rest <;> by_cases here : other = hook <;> simp [later, here]

theorem decodeInstall_encodeInstall (scriptlets : Scriptlets) (storable : scriptlets.Storable)
    (record : PackageRecord) (empty : record.scriptlets = {}) :
    decodeInstall (encodeInstall scriptlets) record = { record with scriptlets := scriptlets } := by
  have read : readScriptlets (Text.lines (encodeInstall scriptlets)) {} = scriptlets := by
    rw [lines_encodeInstall scriptlets storable, readScriptlets_functions _ _ _ storable]
    refine Scriptlets.ext_body fun hook => ?_
    rw [body_foldl_setBody]
    split
    · rfl
    -- A hook without a function keeps the empty body that it also has in the source.
    · next absent =>
        rw [Scriptlets.mem_present, not_not] at absent
        rw [absent]
        cases hook <;> rfl
  rw [decodeInstall, empty, read]

theorem row_of_functionBody (lines : List String) (whole : ∀ line ∈ lines, '\n' ∉ line.toList)
    (row : String) (member : row ∈ Text.rows (Text.joinLines (lines.takeWhile (· ≠ "\x7d")))) :
    row = "" ∨ row ∈ lines ∧ row ≠ "\x7d" := by
  have inside : ∀ line ∈ lines.takeWhile (· ≠ "\x7d"), line ∈ lines :=
    fun line member => (List.takeWhile_prefix _).subset member
  rcases Text.mem_rows_joinLines _ (fun line member => whole line (inside line member)) row member
    with empty | taken
  · exact .inl empty
  · have other := List.all_eq_true.1 List.all_takeWhile row taken
    exact .inr ⟨inside row taken, of_decide_eq_true other⟩

/-- What stands in a body was there before, or it is a line that was read and that did not close
the function. -/
theorem row_of_readScriptlets (lines : List String) (start : Scriptlets)
    (whole : ∀ line ∈ lines, '\n' ∉ line.toList) (hook : Hook) (row : String)
    (member : row ∈ Text.rows ((readScriptlets lines start).body hook)) :
    row ∈ Text.rows (start.body hook) ∨ row = "" ∨ row ∈ lines ∧ row ≠ "\x7d" := by
  fun_induction readScriptlets lines start with
  | case1 start => exact .inl member
  | case2 line rest start other ih =>
      have later := ih (fun item inside => whole item (List.mem_cons_of_mem _ inside)) member
      exact later.imp_right (Or.imp_right (And.imp_left (List.mem_cons_of_mem _)))
  | case3 line rest start name opening body filled ih =>
      -- The body is stored if the name is that of a hook, and the reading goes on behind the line
      -- that closes the function.
      have wholeRest : ∀ item ∈ rest, '\n' ∉ item.toList :=
        fun item inside => whole item (List.mem_cons_of_mem _ inside)
      have behind : ∀ item ∈ (rest.dropWhile (· ≠ "\x7d")).drop 1, item ∈ rest :=
        fun item inside => (List.dropWhile_suffix _).subset ((List.drop_suffix 1 _).subset inside)
      rcases ih (fun item inside => wholeRest item (behind item inside)) member with
        held | empty | ⟨inside, other⟩
      · have new (member : row ∈ Text.rows body) : row = "" ∨ row ∈ line :: rest ∧ row ≠ "\x7d" :=
          (row_of_functionBody rest wholeRest row member).imp_right
            (And.imp_left (List.mem_cons_of_mem _))
        revert held
        simp only [filled]
        cases Hook.ofName? name with
        | none => exact .inl
        | some named =>
            simp only [Scriptlets.body_setBody]
            split
            · exact fun held => .inr (new held)
            · exact .inl
      · exact .inr (.inl empty)
      · exact .inr (.inr ⟨List.mem_cons_of_mem _ (behind row inside), other⟩)

theorem mem_lines_encodeInstall (scriptlets : Scriptlets) (line : String)
    (member : line ∈ Text.lines (encodeInstall scriptlets)) :
    ∃ hook, ∃ written ∈ functionLines hook (scriptlets.body hook),
      line.toList = Text.dropLineEnd (written.toList ++ ['\n']) := by
  rw [← String.ofList_toList (s := encodeInstall scriptlets), toList_encodeInstall,
    Text.lines_closed] at member
  · obtain ⟨written, inside, rfl⟩ := List.mem_map.1 member
    obtain ⟨hook, -, inside⟩ := List.mem_flatMap.1 inside
    exact ⟨hook, written, inside, by simp⟩
  · intro written inside
    obtain ⟨hook, -, inside⟩ := List.mem_flatMap.1 inside
    exact whole_of_mem_functionLines hook _ written inside

theorem longer_row_of_mem_lines (scriptlets : Scriptlets) (line : String)
    (member : line ∈ Text.lines (encodeInstall scriptlets))
    (ends : Text.endsWithChar '\r' line = true) :
    ∃ hook, line ++ "\r" ∈ Text.rows (scriptlets.body hook) := by
  obtain ⟨hook, written, inside, same⟩ := mem_lines_encodeInstall scriptlets line member
  have last : line.toList.getLast? = some '\r' := by simpa [Text.endsWithChar] using ends
  have longer := Text.eq_dropLineEnd_append written.toList (by rw [← same, last])
  rw [← same] at longer
  have whole : written = line ++ "\r" := String.toList_injective (by simp [longer])
  refine ⟨hook, ?_⟩
  rw [← whole]
  have returns : written.toList.getLast? = some '\r' := by simp [longer]
  simp only [functionLines, List.mem_cons, List.mem_append, List.not_mem_nil, or_false] at inside
  rcases inside with rfl | row | rfl
  · simp at returns
  · exact row
  · exact absurd returns (by decide)

theorem storable_of_read_back (scriptlets : Scriptlets)
    (same : readScriptlets (Text.lines (encodeInstall scriptlets)) {} = scriptlets) :
    scriptlets.Storable := by
  have whole : ∀ line ∈ Text.lines (encodeInstall scriptlets), '\n' ∉ line.toList := by
    intro line member
    obtain ⟨hook, written, inside, same⟩ := mem_lines_encodeInstall scriptlets line member
    rw [same]
    exact Text.notMem_dropLineEnd _ (whole_of_mem_functionLines hook _ written inside)
  have rows : ∀ hook, ∀ row ∈ Text.rows (scriptlets.body hook),
      row = "" ∨ row ∈ Text.lines (encodeInstall scriptlets) ∧ row ≠ "\x7d" := by
    intro hook row member
    rw [← same] at member
    refine (row_of_readScriptlets _ _ whole hook row member).elim (fun start => .inl ?_) id
    have empty : Scriptlets.body {} hook = "" := by cases hook <;> rfl
    rw [empty] at start
    simpa [Text.rows, Text.pieces] using start
  intro hook row member
  constructor
  · rcases rows hook row member with rfl | ⟨-, other⟩
    · decide
    · exact other
  · -- Of all rows the longest one with a carriage return would need a longer one.
    have plain := Text.not_endsWithChar_of_longer '\r'
      (Hook.all.flatMap fun hook => Text.rows (scriptlets.body hook)) (fun row held ends => by
        obtain ⟨hook, -, member⟩ := List.mem_flatMap.1 held
        rcases rows hook row member with rfl | ⟨line, -⟩
        · exact absurd ends (by decide)
        · obtain ⟨other, longer⟩ := longer_row_of_mem_lines scriptlets row line ends
          exact List.mem_flatMap.2 ⟨other, other.mem_all, longer⟩) row
      (List.mem_flatMap.2 ⟨hook, hook.mem_all, member⟩)
    simpa [Text.endsWithChar] using plain

/-- Scriptlets come back from their file exactly if no row of a body closes the function that the
body is written in, or ends in a carriage return, which would count as part of the line end. -/
theorem scriptlets_come_back_iff_storable (scriptlets : Scriptlets) (record : PackageRecord) :
    decodeInstall (encodeInstall scriptlets) { record with scriptlets := {} } =
        { record with scriptlets := scriptlets } ↔
      ∀ hook, ∀ row ∈ Text.rows (scriptlets.body hook),
        row ≠ "\x7d" ∧ row.toList.getLast? ≠ some '\r' := by
  constructor
  · intro same
    exact storable_of_read_back scriptlets (congrArg PackageRecord.scriptlets same)
  · intro storable
    exact decodeInstall_encodeInstall scriptlets storable _ rfl

end PackageAssay

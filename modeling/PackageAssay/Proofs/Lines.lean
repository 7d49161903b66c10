import Mathlib.Data.List.Basic
import PackageAssay.Text.Lines
import PackageAssay.Text.Split

set_option autoImplicit false

namespace PackageAssay.Text

/-- A text that can stand on a line of its own: it holds no line feed and does not end in a
carriage return. -/
def IsLine (text : String) : Prop :=
  '\n' ∉ text.toList ∧ text.toList.getLast? ≠ some '\r'

instance (text : String) : Decidable (IsLine text) := inferInstanceAs (Decidable (_ ∧ _))

theorem isLine_empty : IsLine "" := by decide

def closed (items : List String) : List Char :=
  items.flatMap fun item => item.toList ++ ['\n']

theorem segments_line_append (line rest : List Char) (whole : '\n' ∉ line) :
    segments (line ++ '\n' :: rest) = (line ++ ['\n']) :: segments rest := by
  induction line with
  | nil =>
      simp only [List.nil_append, segments, List.foldr_cons]
      cases List.foldr prependToSegments [] rest <;> simp [prependToSegments]
  | cons head tail ih =>
      have inside : head ≠ '\n' := fun same => whole (by simp [same])
      have split := ih fun member => whole (List.mem_cons_of_mem _ member)
      simp only [List.cons_append, segments, List.foldr_cons] at split ⊢
      rw [split]
      simp [prependToSegments, inside]

theorem dropLineEnd_feed (line : List Char) :
    dropLineEnd (line ++ ['\n']) = (['\r'].isSuffixOf? line).getD line := by
  have feed : ['\n'].isSuffixOf? (line ++ ['\n']) = some line := by simp
  rw [dropLineEnd, feed]

theorem dropLineEnd_line (line : List Char) (plain : line.getLast? ≠ some '\r') :
    dropLineEnd (line ++ ['\n']) = line := by
  -- Behind the line feed a carriage return would go as well.
  have noReturn : ['\r'].isSuffixOf? line = none := by
    rw [Option.eq_none_iff_forall_ne_some]
    intro before found
    rw [List.isSuffixOf?_eq_some_iff_append_eq] at found
    exact plain (by simp [← found])
  rw [dropLineEnd_feed, noReturn, Option.getD_none]

theorem eq_dropLineEnd_append (line : List Char)
    (more : (dropLineEnd (line ++ ['\n'])).getLast? = some '\r') :
    line = dropLineEnd (line ++ ['\n']) ++ ['\r'] := by
  by_cases plain : line.getLast? = some '\r'
  · obtain ⟨before, rfl⟩ := List.getLast?_eq_some_iff.1 plain
    have found : ['\r'].isSuffixOf? (before ++ ['\r']) = some before :=
      List.isSuffixOf?_eq_some_iff_append_eq.2 rfl
    rw [dropLineEnd_feed, found, Option.getD_some]
  · rw [dropLineEnd_line line plain] at more
    exact absurd more plain

theorem notMem_dropLineEnd (line : List Char) (whole : '\n' ∉ line) :
    '\n' ∉ dropLineEnd (line ++ ['\n']) := by
  rw [dropLineEnd_feed]
  cases found : ['\r'].isSuffixOf? line with
  | none => exact whole
  | some before =>
      rw [List.isSuffixOf?_eq_some_iff_append_eq] at found
      subst found
      exact fun feed => whole (List.mem_append_left _ feed)

theorem lines_closed (items : List String) (whole : ∀ item ∈ items, '\n' ∉ item.toList) :
    lines (String.ofList (closed items)) =
      items.map fun item => String.ofList (dropLineEnd (item.toList ++ ['\n'])) := by
  -- Each item closes one segment, so that the others are found behind it.
  induction items with
  | nil => simp [lines, closed, segments]
  | cons item rest ih =>
      have later := ih fun other member => whole other (by simp [member])
      simp only [lines, String.toList_ofList, closed, List.flatMap_cons, List.append_assoc,
        List.singleton_append] at later ⊢
      rw [segments_line_append _ _ (whole item (by simp)), List.map_cons, later, List.map_cons]

theorem lines_ofList_closed (items : List String) (each : ∀ item ∈ items, IsLine item) :
    lines (String.ofList (closed items)) = items := by
  rw [lines_closed items fun item member => (each item member).1]
  refine (List.map_congr_left fun item member => ?_).trans (List.map_id items)
  rw [dropLineEnd_line _ (each item member).2, String.ofList_toList, id]

theorem toList_joinLines_append (items : List String) (some : items ≠ []) :
    (joinLines items ++ "\n").toList = closed items := by
  induction items with
  | nil => contradiction
  | cons item rest ih =>
      cases rest with
      | nil => simp [joinLines, closed]
      | cons next rest =>
          have later := ih (by simp)
          simp only [joinLines, String.intercalate_cons_cons, String.toList_append,
            List.append_assoc] at later ⊢
          rw [later]
          simp [closed]

theorem infix_cut_iff {α : Type} {separator : α} {pattern : List α} (plain : separator ∉ pattern)
    (front rest : List α) :
    pattern <:+: front ++ separator :: rest ↔ pattern <:+: front ∨ pattern <:+: rest := by
  -- An occurrence that reaches beyond the front would hold the separator.
  have nothing {lead : List α} (part : lead ⊆ pattern) (leads : lead <+: separator :: rest) :
      lead = [] := by
    cases lead with
    | nil => rfl
    | cons head tail =>
        rw [(List.cons_prefix_cons.1 leads).1] at part
        exact absurd (part List.mem_cons_self) plain
  rw [List.infix_append_iff]
  constructor
  · rintro (inFront | inRest | ⟨before, after, rfl, ends, starts⟩)
    · exact .inl inFront
    · rcases List.infix_cons_iff.1 inRest with starts | later
      · rw [nothing (List.Subset.refl _) starts]
        exact .inl List.nil_infix
      · exact .inr later
    · rw [nothing (List.subset_append_right _ _) starts, List.append_nil]
      exact .inl ends.isInfix
  · rintro (inFront | inRest)
    · exact .inl inFront
    · exact .inr (.inl (List.infix_cons inRest))

section Pieces

variable {α : Type} [DecidableEq α] {separator : α}

theorem pieces_ne_nil (items : List α) : pieces separator items ≠ [] := by
  cases items with
  | nil => simp [pieces]
  | cons head tail =>
      simp only [pieces]
      split
      · simp
      · split <;> simp

theorem pieces_of_notMem (items : List α) (whole : separator ∉ items) :
    pieces separator items = [items] := by
  induction items with
  | nil => rfl
  | cons head tail ih =>
      have inside : head ≠ separator := fun same => whole (by simp [same])
      simp [pieces, inside, ih fun member => whole (List.mem_cons_of_mem _ member)]

theorem pieces_append (left right : List α) :
    pieces separator (left ++ separator :: right) =
      pieces separator left ++ pieces separator right := by
  induction left with
  | nil => simp [pieces]
  | cons head tail ih =>
      simp only [List.cons_append, pieces]
      split
      · rw [ih, List.cons_append]
      · rw [ih]
        cases found : pieces separator tail with
        | nil => exact absurd found (pieces_ne_nil tail)
        | cons first rest => rfl

theorem notMem_of_mem_pieces (items piece : List α) (member : piece ∈ pieces separator items) :
    separator ∉ piece := by
  induction items generalizing piece with
  | nil => simp_all [pieces]
  | cons head tail ih =>
      simp only [pieces] at member
      split at member
      · rcases List.mem_cons.1 member with rfl | later
        · simp
        · exact ih piece later
      · next inside =>
          split at member
          · next none => exact absurd none (pieces_ne_nil tail)
          · next first rest found =>
              rcases List.mem_cons.1 member with rfl | later
              · have := ih first (by simp [found])
                simp [this, Ne.symm inside]
              · exact ih piece (by simp [found, later])

theorem flatMap_pieces (items : List α) :
    ((pieces separator items).flatMap fun piece => piece ++ [separator]) =
      items ++ [separator] := by
  induction items with
  | nil => rfl
  | cons head tail ih =>
      simp only [pieces]
      split
      · next same => simp [ih, same]
      · split
        · next none => exact absurd none (pieces_ne_nil tail)
        · next first rest found =>
            rw [found] at ih
            simp only [List.flatMap_cons, List.cons_append] at ih ⊢
            rw [ih]

@[elab_as_elim]
theorem cut_induction (separator : α) {motive : List α → Prop}
    (whole : ∀ items, separator ∉ items → motive items)
    (cut : ∀ front rest, separator ∉ front → motive rest → motive (front ++ separator :: rest))
    (items : List α) : motive items := by
  induction length : items.length using Nat.strongRecOn generalizing items with
  | _ size ih =>
      by_cases found : separator ∈ items
      · obtain ⟨front, rest, rfl, first⟩ := List.eq_append_cons_of_mem found
        have shorter : rest.length < size := by
          rw [← length, List.length_append, List.length_cons]
          omega
        exact cut front rest first (ih rest.length shorter rest rfl)
      · exact whole items found

theorem infix_iff_exists_piece {pattern : List α} (plain : separator ∉ pattern) (items : List α) :
    pattern <:+: items ↔ ∃ piece ∈ pieces separator items, pattern <:+: piece := by
  induction items using cut_induction separator with
  | whole items whole => simp [pieces_of_notMem items whole]
  | cut front rest first ih =>
      rw [infix_cut_iff plain, ih, pieces_append, pieces_of_notMem front first]
      simp

end Pieces

def rows (text : String) : List String :=
  (pieces '\n' text.toList).map String.ofList

theorem rows_of_whole (text : String) (whole : '\n' ∉ text.toList) : rows text = [text] := by
  simp [rows, pieces_of_notMem _ whole]

theorem whole_of_mem_rows (text row : String) (member : row ∈ rows text) :
    '\n' ∉ row.toList := by
  obtain ⟨piece, found, rfl⟩ := List.mem_map.1 member
  simpa using notMem_of_mem_pieces _ piece found

theorem closed_rows (text : String) : closed (rows text) = text.toList ++ ['\n'] := by
  have parted : ((pieces '\n' text.toList).flatMap fun piece => piece ++ ['\n']) = _ :=
    flatMap_pieces text.toList
  rw [← parted]
  simp [closed, rows, List.flatMap_map]

theorem intercalate_pieces (separator : Char) (text : String) :
    (String.singleton separator).intercalate ((pieces separator text.toList).map String.ofList) =
      text := by
  have joined (items : List (List Char)) (some : items ≠ []) :
      [separator].intercalate items ++ [separator] =
        items.flatMap fun item => item ++ [separator] := by
    induction items with
    | nil => contradiction
    | cons item rest ih =>
        cases rest with
        | nil => simp
        | cons next rest => simp [List.intercalate_cons_cons, ih]
  have whole := (joined _ (pieces_ne_nil text.toList)).trans (flatMap_pieces text.toList)
  apply String.toList_injective
  rw [String.toList_intercalate, List.map_map]
  simpa using List.append_cancel_right whole

theorem joinLines_rows (text : String) : joinLines (rows text) = text :=
  intercalate_pieces '\n' text

theorem pieces_intercalate (separator : Char) (items : List String) (some : items ≠ [])
    (whole : ∀ item ∈ items, separator ∉ item.toList) :
    (pieces separator ((String.singleton separator).intercalate items).toList).map String.ofList =
      items := by
  induction items with
  | nil => contradiction
  | cons item rest ih =>
      have here := whole item (by simp)
      cases rest with
      | nil => simp [pieces_of_notMem _ here]
      | cons next rest =>
          have later := ih (by simp) fun other member => whole other (by simp [member])
          rw [String.intercalate_cons_cons, String.toList_append, String.toList_append,
            List.append_assoc, String.toList_singleton, List.singleton_append, pieces_append,
            pieces_of_notMem _ here, List.singleton_append, List.map_cons, later,
            String.ofList_toList]

theorem rows_joinLines (items : List String) (some : items ≠ [])
    (whole : ∀ item ∈ items, '\n' ∉ item.toList) : rows (joinLines items) = items :=
  pieces_intercalate '\n' items some whole

theorem mem_rows_joinLines (items : List String)
    (whole : ∀ item ∈ items, '\n' ∉ item.toList) (row : String)
    (member : row ∈ rows (joinLines items)) : row = "" ∨ row ∈ items := by
  by_cases none : items = []
  · subst none
    exact .inl (by simpa [joinLines, rows, pieces] using member)
  · rw [rows_joinLines items none whole] at member
    exact .inr member

end PackageAssay.Text

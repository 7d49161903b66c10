import PackageAssay.Proofs.Lines
import PackageAssay.Proofs.Splits

set_option autoImplicit false

namespace PackageAssay.Text

def WholeLines (text : String) : Prop := text = "" ∨ endsWithChar '\n' text = true

instance (text : String) : Decidable (WholeLines text) := inferInstanceAs (Decidable (_ ∨ _))

theorem wholeLines_append {front back : String} (first : WholeLines front) (second : WholeLines back) :
    WholeLines (front ++ back) := by
  by_cases none : back = ""
  · simpa [none] using first
  · have ends := second.resolve_left none
    rw [← endsWithChar_append '\n' front back none] at ends
    exact .inr ends

theorem segments_cons (head : Char) (tail : List Char) :
    segments (head :: tail) = prependToSegments head (segments tail) := rfl

theorem segments_cons_ne_nil (head : Char) (tail : List Char) : segments (head :: tail) ≠ [] := by
  rw [segments_cons]
  cases segments tail with
  | nil => simp [prependToSegments]
  | cons segment rest => by_cases feed : head = '\n' <;> simp [prependToSegments, feed]

theorem segments_append (front back : List Char) (ends : front.getLast? = some '\n') :
    segments (front ++ back) = segments front ++ segments back := by
  induction front with
  | nil => simp at ends
  | cons head tail ih =>
      rw [List.cons_append, segments_cons, segments_cons]
      cases tail with
      | nil =>
          obtain rfl : head = '\n' := by simpa using ends
          rw [List.nil_append]
          cases segments back <;> simp [segments, prependToSegments]
      | cons next rest =>
          -- The head joins the first segment of the tail, which is there on both sides.
          obtain ⟨segment, others, found⟩ :=
            List.exists_cons_of_ne_nil (segments_cons_ne_nil next rest)
          rw [ih (by simpa using ends), found]
          by_cases feed : head = '\n' <;> simp [prependToSegments, feed]

theorem segments_of_whole (line : List Char) (whole : '\n' ∉ line) (some : line ≠ []) :
    segments line = [line] := by
  induction line with
  | nil => contradiction
  | cons head tail ih =>
      have other : head ≠ '\n' := fun same => whole (by simp [same])
      cases tail with
      | nil => simp [segments, prependToSegments]
      | cons next rest =>
          have later := ih (fun member => whole (List.mem_cons_of_mem _ member)) (by simp)
          rw [segments_cons, later]
          simp [prependToSegments, other]

theorem lines_append {front : String} (closed : WholeLines front) (back : String) :
    lines (front ++ back) = lines front ++ lines back := by
  rcases closed with rfl | ends
  · rw [String.empty_append]
    rfl
  · rw [endsWithChar, beq_iff_eq] at ends
    simp [lines, segments_append _ _ ends]

section OneLine

variable (line : String) (whole : '\n' ∉ line.toList)

include whole

theorem lines_feed :
    lines (line ++ "\n") = [String.ofList (dropLineEnd (line.toList ++ ['\n']))] := by
  have single := lines_closed [line] (by simpa using whole)
  have same : line ++ "\n" = String.ofList (closed [line]) :=
    String.toList_injective (by simp [closed])
  rw [same, single, List.map_singleton]

theorem lines_of_whole : lines line = if line = "" then [] else [line] := by
  by_cases empty : line = ""
  · rw [if_pos empty, empty]
    rfl
  · have unfed : ['\n'].isSuffixOf? line.toList = none := by
      rw [Option.eq_none_iff_forall_ne_some]
      intro before found
      rw [List.isSuffixOf?_eq_some_iff_append_eq] at found
      exact whole (by simp [← found])
    rw [if_neg empty, lines, segments_of_whole _ whole (by simpa using empty)]
    simp [dropLineEnd, unfed]

end OneLine

theorem pieces_closed (items : List String) (whole : ∀ item ∈ items, '\n' ∉ item.toList) :
    pieces '\n' (closed items) = items.map String.toList ++ [[]] := by
  induction items with
  | nil => rfl
  | cons item rest ih =>
      have later := ih fun other member => whole other (List.mem_cons_of_mem _ member)
      simp only [closed, List.flatMap_cons, List.append_assoc, List.singleton_append] at later ⊢
      rw [pieces_append, pieces_of_notMem _ (whole item List.mem_cons_self), later]
      rfl

theorem closed_inj {items others : List String} (whole : ∀ item ∈ items, '\n' ∉ item.toList)
    (otherWhole : ∀ item ∈ others, '\n' ∉ item.toList) (same : closed items = closed others) :
    items = others := by
  have parted := congrArg (pieces '\n') same
  rw [pieces_closed items whole, pieces_closed others otherWhole] at parted
  have injective : Function.Injective String.toList := fun _ _ same => String.toList_injective same
  exact List.map_injective_iff.2 injective (List.append_cancel_right parted)

theorem exists_last_line (text : String) :
    ∃ front line : String, text = front ++ line ∧ WholeLines front ∧ '\n' ∉ line.toList := by
  -- What follows the first line feed is cut by induction on its length.
  induction length : text.length using Nat.strong_induction_on generalizing text with
  | _ size ih =>
      by_cases feed : '\n' ∈ text.toList
      · obtain ⟨first, rest, rfl, -⟩ := exists_cut_of_mem '\n' text feed
        have shorter : rest.length < size := by
          rw [← length, String.length_append, String.length_append, String.length_singleton]
          omega
        obtain ⟨front, line, rfl, closed, whole⟩ := ih rest.length shorter rest rfl
        refine ⟨first ++ String.singleton '\n' ++ front, line, ?_, ?_, whole⟩
        · simp [String.append_assoc]
        · exact wholeLines_append (.inr (endsWithChar_singleton_append '\n' first)) closed
      · exact ⟨"", text, by simp, .inl rfl, feed⟩

theorem lines_append_feed (text : String) (plain : text.toList.getLast? ≠ some '\r') :
    lines (text ++ "\n") = lines text ∨ lines (text ++ "\n") = lines text ++ [""] := by
  obtain ⟨front, line, rfl, closed, whole⟩ := exists_last_line text
  have lineEnd : line.toList.getLast? ≠ some '\r' := by
    intro last
    refine plain ?_
    rw [String.toList_append, List.getLast?_append, last]
    rfl
  rw [String.append_assoc, lines_append closed, lines_append closed, lines_feed line whole,
    dropLineEnd_line _ lineEnd, String.ofList_toList, lines_of_whole line whole]
  by_cases empty : line = ""
  · exact .inr (by simp [empty])
  · exact .inl (by simp [empty])

theorem exists_cut_of_lines (text : String) (before after : List String) (some : after ≠ [])
    (parted : lines text = before ++ after) :
    ∃ front back : String, text = front ++ back ∧ WholeLines front ∧ lines front = before ∧
      lines back = after := by
  induction before generalizing text with
  | nil => exact ⟨"", text, by simp, .inl rfl, rfl, by simpa using parted⟩
  | cons line others ih =>
      by_cases feed : '\n' ∈ text.toList
      · obtain ⟨first, rest, rfl, whole⟩ := exists_cut_of_mem '\n' text feed
        have ends : WholeLines (first ++ String.singleton '\n') :=
          .inr (endsWithChar_singleton_append '\n' first)
        have single := lines_feed first whole
        change lines (first ++ String.singleton '\n') = _ at single
        rw [lines_append ends, single, List.singleton_append, List.cons_append,
          List.cons.injEq] at parted
        obtain ⟨front, back, rfl, closed, here, there⟩ := ih rest parted.2
        refine ⟨first ++ String.singleton '\n' ++ front, back, by simp [String.append_assoc],
          wholeLines_append ends closed, ?_, there⟩
        rw [lines_append ends, single, here, ← parted.1]
        rfl
      -- A text without a line feed has one line at most.
      · rw [lines_of_whole text feed] at parted
        split at parted <;> simp [some] at parted

end PackageAssay.Text

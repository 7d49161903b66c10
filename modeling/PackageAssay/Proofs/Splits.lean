import Mathlib.Data.Finset.Max
import Mathlib.Data.List.Basic
import PackageAssay.Text.Split

set_option autoImplicit false

namespace PackageAssay.Text

theorem withoutPrefix_eq_some_iff (lead text rest : String) :
    withoutPrefix lead text = some rest ↔ text = lead ++ rest := by
  simp only [withoutPrefix, Option.map_eq_some_iff, List.isPrefixOf?_eq_some_iff_append_eq]
  constructor
  · rintro ⟨chars, same, rfl⟩
    exact String.toList_injective (by simp [← same])
  · rintro rfl
    exact ⟨rest.toList, by simp, String.ofList_toList⟩

theorem withoutSuffix_eq_some_iff (ending text rest : String) :
    withoutSuffix ending text = some rest ↔ text = rest ++ ending := by
  simp only [withoutSuffix, Option.map_eq_some_iff, List.isSuffixOf?_eq_some_iff_append_eq]
  constructor
  · rintro ⟨chars, same, rfl⟩
    exact String.toList_injective (by simp [← same])
  · rintro rfl
    exact ⟨rest.toList, by simp, String.ofList_toList⟩

theorem endsWithChar_append (last : Char) (text ending : String) (some : ending ≠ "") :
    endsWithChar last (text ++ ending) = endsWithChar last ending := by
  have chars : ending.toList ≠ [] := by simpa using some
  simp [endsWithChar, List.getLast?_append_of_ne_nil _ chars]

theorem endsWithChar_singleton_append (last : Char) (text : String) :
    endsWithChar last (text ++ String.singleton last) = true := by
  simp [endsWithChar]

theorem withoutSuffix_singleton_eq_none_iff (last : Char) (text : String) :
    withoutSuffix (String.singleton last) text = none ↔ endsWithChar last text = false := by
  rw [Option.eq_none_iff_forall_ne_some, Bool.eq_false_iff]
  constructor
  · intro uncut ends
    rw [endsWithChar, beq_iff_eq, List.getLast?_eq_some_iff] at ends
    obtain ⟨front, cut⟩ := ends
    refine uncut (String.ofList front) ((withoutSuffix_eq_some_iff _ _ _).2 ?_)
    exact String.toList_injective (by simp [cut])
  · intro ends front cut
    rw [(withoutSuffix_eq_some_iff _ _ _).1 cut] at ends
    exact ends (endsWithChar_singleton_append last front)

/-- No list of texts holds, for each one that ends in a character, the text with one more of it. -/
theorem not_endsWithChar_of_longer (last : Char) (texts : List String)
    (longer : ∀ text ∈ texts, endsWithChar last text = true →
      text ++ String.singleton last ∈ texts)
    (text : String) (member : text ∈ texts) : endsWithChar last text = false := by
  rw [Bool.eq_false_iff]
  intro ends
  -- The longest of these texts would not be the longest.
  obtain ⟨longest, held, most⟩ := Finset.exists_max_image
    (texts.filter (endsWithChar last)).toFinset String.length ⟨text, by simp [member, ends]⟩
  simp only [List.mem_toFinset, List.mem_filter] at held most
  have bound := most _ ⟨longer longest held.1 held.2, endsWithChar_singleton_append last longest⟩
  rw [String.length_append, String.length_singleton] at bound
  omega

theorem occursIn_iff_infix (pattern text : List Char) :
    occursIn pattern text = true ↔ pattern <:+: text := by
  induction text with
  | nil => rw [occursIn, List.isEmpty_iff, List.infix_nil]
  | cons head tail ih =>
      rw [occursIn, Bool.or_eq_true, List.isPrefixOf_iff_prefix, ih, List.infix_cons_iff]

theorem isPrefixOf?_eq_none_iff (lead text : List Char) :
    lead.isPrefixOf? text = none ↔ ¬lead <+: text := by
  rw [Option.eq_none_iff_forall_ne_some]
  simp only [ne_eq, List.isPrefixOf?_eq_some_iff_append_eq, ← not_exists]
  rfl

theorem splitFirstChars_eq_none_iff (separator text : List Char) :
    splitFirstChars separator text = none ↔ ¬separator <:+: text := by
  induction text with
  | nil => simp [splitFirstChars]
  | cons head tail ih =>
      rw [splitFirstChars, List.infix_cons_iff, not_or, ← isPrefixOf?_eq_none_iff, ← ih]
      cases separator.isPrefixOf? (head :: tail) <;> simp

theorem splitFirstChars_eq_some {separator text before after : List Char}
    (nonempty : separator ≠ []) (found : splitFirstChars separator text = some (before, after)) :
    text = before ++ separator ++ after ∧ ¬separator <:+: before := by
  induction text generalizing before with
  | nil => simp [splitFirstChars, nonempty] at found
  | cons head tail ih =>
      rw [splitFirstChars] at found
      cases starts : separator.isPrefixOf? (head :: tail) with
      | some rest =>
          simp only [starts, Option.some.injEq, Prod.mk.injEq] at found
          obtain ⟨rfl, rfl⟩ := found
          have cut := List.isPrefixOf?_eq_some_iff_append_eq.1 starts
          exact ⟨by simp [cut], by simpa using nonempty⟩
      | none =>
          simp only [starts, Option.map_eq_some_iff] at found
          obtain ⟨⟨front, back⟩, later, same⟩ := found
          obtain ⟨rfl, rfl⟩ := Prod.mk.inj same
          obtain ⟨cut, absent⟩ := ih later
          refine ⟨by simp [cut], ?_⟩
          rw [List.infix_cons_iff, not_or]
          refine ⟨fun lead => (isPrefixOf?_eq_none_iff _ _).1 starts ?_, absent⟩
          exact lead.trans (by simp [cut])

theorem length_le_of_splitFirstChars {separator text before after : List Char}
    (found : splitFirstChars separator text = some (before, after)) (front back : List Char)
    (cut : text = front ++ separator ++ back) : before.length ≤ front.length := by
  induction text generalizing before front with
  | nil =>
      rw [splitFirstChars] at found
      split at found <;> cases found
      exact Nat.zero_le _
  | cons head tail ih =>
      rw [splitFirstChars] at found
      cases starts : separator.isPrefixOf? (head :: tail) with
      | some rest =>
          simp only [starts, Option.some.injEq, Prod.mk.injEq] at found
          rw [← found.1]
          exact Nat.zero_le _
      | none =>
          simp only [starts, Option.map_eq_some_iff] at found
          obtain ⟨⟨shorter, _⟩, later, same⟩ := found
          cases same
          -- The text does not begin with the separator, so both cuts lie behind its first character.
          cases front with
          | nil => exact absurd ⟨back, cut.symm⟩ ((isPrefixOf?_eq_none_iff _ _).1 starts)
          | cons first front =>
              obtain ⟨-, cut⟩ := List.cons.inj cut
              exact Nat.succ_le_succ (ih later front cut)

/-- No occurrence of the separator in the joined text starts before the one in the middle. -/
def IsFirstCut (separator before after : String) : Prop :=
  ∀ front back : String, before ++ separator ++ after = front ++ separator ++ back →
    before.length ≤ front.length

theorem splitFirst_eq_none_iff (separator text : String) :
    splitFirst separator text = none ↔ ¬separator.toList <:+: text.toList := by
  rw [splitFirst, Option.map_eq_none_iff, splitFirstChars_eq_none_iff]

theorem splitFirstChars_of_splitFirst {separator text before after : String}
    (found : splitFirst separator text = some (before, after)) :
    splitFirstChars separator.toList text.toList = some (before.toList, after.toList) := by
  obtain ⟨⟨front, back⟩, cut, same⟩ := Option.map_eq_some_iff.1 found
  cases same
  rw [cut, String.toList_ofList, String.toList_ofList]

theorem isFirstCut_of_splitFirst {separator text before after : String}
    (nonempty : separator ≠ "") (found : splitFirst separator text = some (before, after)) :
    text = before ++ separator ++ after ∧ IsFirstCut separator before after := by
  have chars := splitFirstChars_of_splitFirst found
  have cut : text = before ++ separator ++ after := by
    apply String.toList_injective
    rw [(splitFirstChars_eq_some (by simpa using nonempty) chars).1]
    simp
  refine ⟨cut, fun front back same => ?_⟩
  have least := length_le_of_splitFirstChars chars front.toList back.toList (by
    rw [cut, same]
    simp)
  rwa [String.length_toList, String.length_toList] at least

theorem splitFirst_of_isFirstCut {separator before after : String} (nonempty : separator ≠ "")
    (first : IsFirstCut separator before after) :
    splitFirst separator (before ++ separator ++ after) = some (before, after) := by
  cases found : splitFirst separator (before ++ separator ++ after) with
  | none =>
      refine absurd ⟨before.toList, after.toList, ?_⟩ ((splitFirst_eq_none_iff _ _).1 found)
      simp
  | some parts =>
      obtain ⟨front, back⟩ := parts
      obtain ⟨cut, earliest⟩ := isFirstCut_of_splitFirst nonempty found
      -- Each of the two cuts is the first one, so that they lie at the same place.
      have same : before.length = front.length :=
        Nat.le_antisymm (first front back cut) (earliest before after cut.symm)
      have chars := congrArg String.toList cut
      simp only [String.toList_append, List.append_assoc] at chars
      obtain ⟨lead, rest⟩ := List.append_inj chars
        (by rwa [String.length_toList, String.length_toList])
      rw [String.toList_injective lead, String.toList_injective (List.append_cancel_left rest)]

theorem splitFirstChars_append (separator : Char) (before after : List Char)
    (first : separator ∉ before) :
    splitFirstChars [separator] (before ++ separator :: after) = some (before, after) := by
  induction before with
  | nil => simp [splitFirstChars, List.isPrefixOf?]
  | cons head tail ih =>
      have other : separator ≠ head := fun same => first (by simp [same])
      have later := ih fun member => first (List.mem_cons_of_mem _ member)
      simp [splitFirstChars, List.isPrefixOf?, other, later]

theorem splitFirstChars_of_notMem (separator : Char) (text : List Char)
    (absent : separator ∉ text) : splitFirstChars [separator] text = none :=
  (splitFirstChars_eq_none_iff _ _).2 fun found => absent (found.subset List.mem_cons_self)

theorem splitFirst_append (separator : Char) (before after : String)
    (first : separator ∉ before.toList) :
    splitFirst (String.singleton separator) (before ++ String.singleton separator ++ after) =
      some (before, after) := by
  simp [splitFirst, splitFirstChars_append _ _ _ first]

theorem splitFirst_of_notMem (separator : Char) (text : String)
    (absent : separator ∉ text.toList) :
    splitFirst (String.singleton separator) text = none := by
  simp [splitFirst, splitFirstChars_of_notMem _ _ absent]

theorem exists_cut_of_mem (separator : Char) (text : String) (found : separator ∈ text.toList) :
    ∃ before after : String, text = before ++ String.singleton separator ++ after ∧
      separator ∉ before.toList := by
  obtain ⟨before, after, cut, first⟩ := List.eq_append_cons_of_mem found
  refine ⟨String.ofList before, String.ofList after, ?_, by simpa using first⟩
  exact String.toList_injective (by simp [cut])

theorem splitLast_append (separator : Char) (before after : String)
    (last : separator ∉ after.toList) :
    splitLast (String.singleton separator) (before ++ String.singleton separator ++ after) =
      some (before, after) := by
  have first : separator ∉ after.toList.reverse := by simpa using last
  simp [splitLast, splitFirstChars_append _ _ _ first]

theorem splitLast_eq_none_iff (separator : Char) (text : String) :
    splitLast (String.singleton separator) text = none ↔ separator ∉ text.toList := by
  rw [splitLast, Option.map_eq_none_iff, splitFirstChars_eq_none_iff, String.toList_singleton,
    List.reverse_singleton, List.singleton_infix_iff, List.mem_reverse]

theorem notMem_of_splitLast (separator : Char) {text before after : String}
    (found : splitLast (String.singleton separator) text = some (before, after)) :
    separator ∉ after.toList := by
  obtain ⟨⟨back, front⟩, cut, same⟩ := Option.map_eq_some_iff.1 found
  cases same
  have absent := (splitFirstChars_eq_some (by simp) cut).2
  rw [String.toList_singleton, List.reverse_singleton, List.singleton_infix_iff] at absent
  rwa [String.toList_ofList, List.mem_reverse]

theorem eq_of_splitLast {separator text before after : String} (nonempty : separator ≠ "")
    (found : splitLast separator text = some (before, after)) :
    text = before ++ separator ++ after := by
  obtain ⟨⟨back, front⟩, cut, same⟩ := Option.map_eq_some_iff.1 found
  cases same
  have whole := (splitFirstChars_eq_some (by simpa using nonempty) cut).1
  apply String.toList_injective
  rw [← List.reverse_reverse text.toList, whole]
  simp

end PackageAssay.Text

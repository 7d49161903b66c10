import Mathlib.Data.List.Basic
import PackageAssay.Files.Path
import PackageAssay.Proofs.Lines
import PackageAssay.Proofs.Splits

set_option autoImplicit false

namespace PackageAssay

/-- A text that names something in a directory, neither the directory itself nor the one above. -/
structure IsName (text : String) : Prop where
  some : text ≠ ""
  whole : '/' ∉ text.toList
  notDot : text ≠ "."
  notDots : text ≠ ".."

theorem IsName.notMark {text : String} (name : IsName text) :
    ¬ (text = Path.dotMark ∨ text = Path.slashMark) := by
  rintro (rfl | rfl)
  · exact name.notDot rfl
  · exact name.whole (by decide)

namespace Path

def components (text : String) : List String :=
  (Text.pieces '/' text.toList).map String.ofList

theorem components_ne_nil (text : String) : components text ≠ [] := by
  simp [components, Text.pieces_ne_nil]

theorem intercalate_components (text : String) : "/".intercalate (components text) = text :=
  Text.intercalate_pieces '/' text

theorem components_slash (lead rest : String) :
    components (lead ++ "/" ++ rest) = components lead ++ components rest := by
  have cut : Text.pieces '/' (lead.toList ++ '/' :: rest.toList) = _ :=
    Text.pieces_append lead.toList rest.toList
  simp [components, cut]

theorem components_closed (lead : String) : components (lead ++ "/") = components lead ++ [""] := by
  have parted := components_slash lead ""
  rwa [String.append_empty] at parted

theorem exists_of_endsInSlash {text : String} (slash : Text.endsWithChar '/' text = true) :
    ∃ lead, text = lead ++ "/" := by
  obtain ⟨chars, split⟩ :=
    List.getLast?_eq_some_iff.1 (by simpa [Text.endsWithChar] using slash)
  exact ⟨String.ofList chars, String.toList_injective (by simp [split])⟩

theorem endsInSlash_closed (lead : String) : Text.endsWithChar '/' (lead ++ "/") = true := by
  simp [Text.endsWithChar]

theorem parts_eq (path : Path) :
    path.parts = (components path.text).filter fun part => part ≠ "" := rfl

theorem parts_ne_nil {path : Path} (some : path.text ≠ "") (unclosed : path.endsInSlash = false) :
    path.parts ≠ [] := by
  obtain ⟨last, member, filled⟩ : ∃ last, last ∈ components path.text ∧ last ≠ "" := by
    have joined := intercalate_components path.text
    rw [← List.dropLast_concat_getLast (components_ne_nil path.text)] at joined
    refine ⟨_, List.getLast_mem (components_ne_nil path.text), fun empty => ?_⟩
    rw [empty] at joined
    by_cases only : (components path.text).dropLast = []
    · rw [only, List.nil_append, String.intercalate_singleton] at joined
      exact some joined.symm
    -- With nothing behind the last slash the text would end in it.
    · rw [String.intercalate_append_of_ne_nil only (by simp), String.intercalate_singleton,
        String.append_empty] at joined
      rw [endsInSlash, ← joined, endsInSlash_closed] at unclosed
      cases unclosed
  exact List.ne_nil_of_mem (List.mem_filter.2 ⟨member, by simpa using filled⟩)

theorem steps_ne_nil {path : Path} (some : path.text ≠ "") : path.steps ≠ [] := by
  rw [steps]
  cases dot : path.endsInDot with
  | true => simp [dots, dot]
  | false =>
      cases slash : path.endsInSlash with
      | true => simp
      | false =>
          -- The last part is no dot, and so it is a name.
          have last := List.getLast_mem (parts_ne_nil some slash)
          have named : path.parts.getLast (parts_ne_nil some slash) ∈ path.names := by
            refine List.mem_filter.2 ⟨last, ?_⟩
            rw [endsInDot, beq_eq_false_iff_ne,
              List.getLast?_eq_some_getLast (parts_ne_nil some slash)] at dot
            simpa using dot
          simpa using List.ne_nil_of_mem named

theorem join_empty {base : Path} (empty : base.text = "") (text : String) :
    base.join text = ⟨text⟩ := by
  simp [join, empty]

section Relative

variable (base : Path) {text : String} (relative : (Path.mk text).isAbsolute = false)

include relative

theorem parts_join_relative : (base.join text).parts = base.parts ++ (Path.mk text).parts := by
  obtain ⟨lead⟩ := base
  by_cases empty : lead = ""
  · rw [join_empty empty, empty]
    rfl
  · rw [join, relative]
    simp only [Bool.false_eq_true, if_false, empty, false_or]
    -- A slash at the end of the path joins the text, where else one is put between them.
    split
    · next slash =>
        obtain ⟨before, rfl⟩ := exists_of_endsInSlash slash
        simp only [parts_eq, components_slash, components_closed, List.filter_append]
        rw [List.filter_singleton]
        simp
    · simp only [parts_eq, components_slash, List.filter_append]

theorem names_join_relative : (base.join text).names = base.names ++ (Path.mk text).names := by
  rw [names, parts_join_relative base relative, List.filter_append, ← names, ← names]

theorem isAbsolute_join_relative : (base.join text).isAbsolute = base.isAbsolute := by
  obtain ⟨lead⟩ := base
  by_cases empty : lead = ""
  · rw [join_empty empty, relative, empty]
    rfl
  · have chars : lead.toList ≠ [] := by simpa using empty
    rw [join, relative]
    simp only [Bool.false_eq_true, if_false]
    split <;> simp [isAbsolute, List.head?_append_of_ne_nil _ chars]

end Relative

def glue (base : Path) : String :=
  if base.text = "" ∨ Text.endsWithChar '/' base.text = true then "" else "/"

section Join

variable (base : Path) {text : String} (name : IsName text)

include name

theorem not_isAbsolute_of_isName : (Path.mk text).isAbsolute = false := by
  simp only [isAbsolute, beq_eq_false_iff_ne]
  intro head
  exact name.whole (List.mem_of_head? head)

theorem join_name : base.join text = ⟨base.text ++ base.glue ++ text⟩ := by
  simp only [join, glue, not_isAbsolute_of_isName name, Bool.false_eq_true, if_false]
  split <;> simp

theorem parts_of_isName : (Path.mk text).parts = [text] := by
  simp [parts, Text.pieces_of_notMem _ name.whole, name.some]

theorem parts_join : (base.join text).parts = base.parts ++ [text] := by
  rw [parts_join_relative base (not_isAbsolute_of_isName name), parts_of_isName name]

theorem names_join : (base.join text).names = base.names ++ [text] := by
  simp [names, parts_join base name, name.notDot]

theorem endsInDot_join : (base.join text).endsInDot = false := by
  simp [endsInDot, parts_join base name, name.notDot]

theorem dots_join : (base.join text).dots = [] := by
  simp [dots, endsInDot_join base name]

theorem endsInSlash_join : (base.join text).endsInSlash = false := by
  have last : Text.endsWithChar '/' text = false := by
    simp only [Text.endsWithChar, beq_eq_false_iff_ne]
    intro found
    exact name.whole (List.mem_of_getLast? found)
  rw [endsInSlash, join_name base name, Text.endsWithChar_append _ _ _ name.some, last]

theorem steps_join : (base.join text).steps = base.names ++ [text] := by
  simp [steps, names_join base name, endsInDot_join base name, endsInSlash_join base name]

theorem isAbsolute_join : (base.join text).isAbsolute = base.isAbsolute :=
  isAbsolute_join_relative base (not_isAbsolute_of_isName name)

theorem text_join : (base.join text).text = base.text ++ text ∨
    (base.join text).text = base.text ++ "/" ++ text := by
  rw [join_name base name, glue]
  split
  · exact .inl (by rw [String.append_empty])
  · exact .inr rfl

theorem nul_notMem_join (plainBase : '\x00' ∉ base.text.toList) (plain : '\x00' ∉ text.toList) :
    '\x00' ∉ (base.join text).text.toList := by
  rcases text_join base name with joined | joined <;> simp [joined, plainBase, plain]

theorem utf8ByteSize_join_le :
    (base.join text).text.utf8ByteSize ≤ base.text.utf8ByteSize + 1 + text.utf8ByteSize := by
  have slash : "/".utf8ByteSize = 1 := by decide
  rcases text_join base name with joined | joined <;>
    rw [joined] <;> simp only [String.utf8ByteSize_append, slash] <;> omega

end Join

/-- What a text must be for the file system to look it up. -/
def Sound (path : Path) : Prop :=
  '\x00' ∉ path.text.toList ∧ path.text ≠ "" ∧ path.text.utf8ByteSize ≤ maxLength

theorem check_eq_ok_iff (path : Path) : path.check = .ok () ↔ path.Sound := by
  unfold check Sound
  by_cases nul : '\x00' ∈ path.text.toList
  · simp [nul]
  · by_cases empty : path.text = ""
    · simp [empty]
    · by_cases long : maxLength < path.text.utf8ByteSize
      · simp [nul, empty, long]
      · simp [nul, empty, long, Nat.le_of_not_lt long]

theorem check_ne_notFound {path : Path} (some : path.text ≠ "") :
    path.check ≠ .error .notFound := by
  rw [check, if_neg some]
  split
  · simp
  · split <;> simp

theorem Sound.of_join {base : Path} {text : String} (name : IsName text)
    (some : base.text ≠ "") (sound : (base.join text).Sound) : base.Sound := by
  obtain ⟨plain, -, short⟩ := sound
  rw [join_name base name] at plain short
  simp only [String.toList_append, List.mem_append, String.utf8ByteSize_append] at plain short
  exact ⟨fun nul => plain (Or.inl (Or.inl nul)), some, by omega⟩

theorem Sound.join_of_join {base : Path} {short long : String} (shortName : IsName short)
    (longName : IsName long) (plain : '\x00' ∉ short.toList)
    (size : short.utf8ByteSize ≤ long.utf8ByteSize) (sound : (base.join long).Sound) :
    (base.join short).Sound := by
  obtain ⟨bare, -, fits⟩ := sound
  rw [join_name base longName] at bare fits
  rw [join_name base shortName]
  simp only [String.toList_append, List.mem_append, String.utf8ByteSize_append] at bare fits
  refine ⟨?_, by simp [shortName.some], ?_⟩
  · simp only [String.toList_append, List.mem_append]
    rintro (nul | nul)
    · exact bare (Or.inl nul)
    · exact plain nul
  · simp only [String.utf8ByteSize_append]
    omega

/-- A path whose end exists once it has been made, and not before. -/
def Forward (path : Path) : Prop :=
  path.text ≠ "" ∧ ".." ∉ path.names

instance (path : Path) : Decidable path.Forward := inferInstanceAs (Decidable (_ ∧ _))

theorem whole_of_mem_parts {path : Path} {part : String} (member : part ∈ path.parts) :
    part ≠ "" ∧ '/' ∉ part.toList := by
  obtain ⟨piece, some⟩ := List.mem_filter.1 member
  obtain ⟨chars, cut, rfl⟩ := List.mem_map.1 piece
  exact ⟨by simpa using some, by simpa using Text.notMem_of_mem_pieces _ chars cut⟩

theorem mem_names_iff (path : Path) (name : String) :
    name ∈ path.names ↔ name ∈ path.parts ∧ name ≠ "." := by
  simp [names]

theorem isName_of_mem_names {path : Path} {name : String} (member : name ∈ path.names)
    (notDots : name ≠ "..") : IsName name := by
  obtain ⟨part, notDot⟩ := (mem_names_iff path name).1 member
  obtain ⟨some, whole⟩ := whole_of_mem_parts part
  exact ⟨some, whole, notDot, notDots⟩

theorem Forward.isName {path : Path} (forward : path.Forward) (name : String)
    (member : name ∈ path.names) : IsName name :=
  isName_of_mem_names member fun dots => forward.2 (dots ▸ member)

/-- A relative path that does not lead back. What it leads to from a directory is inside. -/
def Inward (path : Path) : Prop :=
  path.isAbsolute = false ∧ ".." ∉ path.names

instance (path : Path) : Decidable path.Inward := inferInstanceAs (Decidable (_ ∧ _))

theorem Inward.isName {path : Path} (inward : path.Inward) :
    ∀ name ∈ path.names, IsName name :=
  fun _ member => isName_of_mem_names member fun dots => inward.2 (dots ▸ member)

end Path

end PackageAssay

import Mathlib.Data.List.Basic
import PackageAssay.Json.Parse
import PackageAssay.Json.Pretty
import PackageAssay.Proofs.Numerals

set_option autoImplicit false

namespace PackageAssay

namespace Json

theorem hexDigit?_digitChar : ∀ digit < 16, hexDigit? (Nat.digitChar digit) = some digit := by
  decide

theorem hexCode?_hexDigits (code : Nat) (short : code < 0x10000) :
    hexCode? (hexDigits code) = some code := by
  have digit (value : Nat) : hexDigit? (Nat.digitChar (value % 16)) = some (value % 16) :=
    hexDigit?_digitChar _ (Nat.mod_lt _ (by decide))
  have sum : 16 * (16 * (16 * (16 * 0 + code / 4096 % 16) + code / 256 % 16) + code / 16 % 16) +
      code % 16 = code := by omega
  simp only [hexDigits, hexCode?, List.map_cons, List.map_nil, List.foldlM_cons, List.foldlM_nil,
    digit, Option.map_some, Option.bind_eq_bind, Option.bind_some, sum]
  rfl

theorem readString_cons (c : Char) (rest : List Char) (notQuote : c ≠ '"') (notEscape : c ≠ '\\')
    (visible : 0x20 ≤ c.toNat) :
    readString (c :: rest) =
      (readString rest).map fun (codes, after) => (c.toNat :: codes, after) := by
  rw [readString.eq_def]
  split
  · contradiction
  · next same => cases same; contradiction
  · next same => cases same; contradiction
  · next same => cases same; contradiction
  · next same =>
      cases same
      rw [if_neg (Nat.not_lt.2 visible)]
      cases readString rest <;> rfl

theorem toNat_ofNat_of_valid (code : Nat) (valid : code.isValidChar) :
    (Char.ofNat code).toNat = code := by
  rw [Char.ofNat, dif_pos valid]
  rfl

theorem readString_escape (escape : Char) (code : Nat) (rest : List Char) (notCode : escape ≠ 'u')
    (means : escapeCode? escape = some code) :
    readString ('\\' :: escape :: rest) =
      (readString rest).map fun (codes, after) => (code :: codes, after) := by
  rw [readString.eq_def]
  split
  · next same => cases same
  · next same => cases same
  · next same => cases same; contradiction
  · next same =>
      cases same
      rw [means]
      cases readString rest <;> rfl
  · next other same =>
      cases same
      exact absurd rfl (other _ _ rfl)

theorem readString_hexDigits (code : Nat) (rest : List Char) (short : code < 0x10000) :
    readString ('\\' :: 'u' :: hexDigits code ++ rest) =
      (readString rest).map fun (codes, after) => (code :: codes, after) := by
  change readString ('\\' :: 'u' :: _ :: _ :: _ :: _ :: rest) = _
  rw [readString]
  change (hexCode? (hexDigits code)).bind _ = _
  rw [hexCode?_hexDigits code short]
  cases readString rest <;> rfl

theorem readString_writeCode (code : Nat) (rest : List Char) (small : code < 0x110000) :
    readString (writeCode code ++ rest) =
      (readString rest).map fun (codes, after) => (code :: codes, after) := by
  -- One case for each code that the writer escapes in a way of its own.
  unfold writeCode
  split
  · next same => subst same; exact readString_escape '"' 0x22 rest (by decide) rfl
  split
  · next same => subst same; exact readString_escape '\\' 0x5c rest (by decide) rfl
  split
  · next same => subst same; exact readString_escape 'b' 0x08 rest (by decide) rfl
  split
  · next same => subst same; exact readString_escape 'f' 0x0c rest (by decide) rfl
  split
  · next same => subst same; exact readString_escape 'n' 0x0a rest (by decide) rfl
  split
  · next same => subst same; exact readString_escape 'r' 0x0d rest (by decide) rfl
  split
  · next same => subst same; exact readString_escape 't' 0x09 rest (by decide) rfl
  split
  · next hidden => exact readString_hexDigits code rest (by omega)
  · next notQuote notEscape _ _ _ _ _ shown =>
      have valid : code.isValidChar := by
        simp only [Nat.isValidChar]
        omega
      have back : (Char.ofNat code).toNat = code := toNat_ofNat_of_valid code valid
      have visible : 0x20 ≤ (Char.ofNat code).toNat := by omega
      rw [List.singleton_append, readString_cons _ rest _ _ visible, back]
      · intro same
        rw [same] at back
        exact notQuote back.symm
      · intro same
        rw [same] at back
        exact notEscape back.symm

theorem readString_writeString (codes : List Nat) (rest : List Char)
    (small : ∀ code ∈ codes, code < 0x110000) :
    readString (codes.flatMap writeCode ++ '"' :: rest) = some (codes, rest) := by
  induction codes with
  | nil => rfl
  | cons code codes ih =>
      rw [List.flatMap_cons, List.append_assoc,
        readString_writeCode code _ (small code List.mem_cons_self),
        ih fun other member => small other (List.mem_cons_of_mem _ member)]
      rfl

/-- What follows a value in the text of a document, which is the beginning of no value. -/
def Ends (rest : List Char) : Prop := ∀ c ∈ rest.head?, c = ',' ∨ c = '\n'

theorem Ends.notDigit {rest : List Char} (ends : Ends rest) :
    ∀ c ∈ rest.head?, c.isDigit = false := by
  intro c first
  rcases ends c first with rfl | rfl <;> rfl

theorem splitDigits_append (digits rest : List Char) (each : ∀ c ∈ digits, c.isDigit = true)
    (ends : Ends rest) : splitDigits (digits ++ rest) = (digits, rest) := by
  have none : rest.takeWhile Char.isDigit = [] ∧ rest.dropWhile Char.isDigit = rest := by
    cases rest with
    | nil => exact ⟨rfl, rfl⟩
    | cons head tail => simp [ends.notDigit head rfl]
  rw [splitDigits, List.takeWhile_append_of_pos each, List.dropWhile_append_of_pos each, none.1,
    none.2, List.append_nil]

theorem head?_toDigits (value : Nat) (positive : 0 < value) :
    (Nat.toDigits 10 value).head? ≠ some '0' := by
  induction value using Nat.strongRecOn with
  | ind value ih =>
      by_cases single : value < 10
      · have notZero : ∀ digit < 10, 0 < digit → [Nat.digitChar digit].head? ≠ some '0' := by decide
        rw [Nat.toDigits_of_lt_base single]
        exact notZero value single positive
      · rw [Nat.toDigits_of_base_le (by decide) (Nat.le_of_not_lt single),
          List.head?_append_of_ne_nil _ Nat.toDigits_ne_nil]
        exact ih (value / 10) (by omega) (by omega)

theorem readWhole_toDigits (value : Nat) (rest : List Char) (ends : Ends rest) :
    readWhole (Nat.toDigits 10 value ++ rest) = some (Nat.toDigits 10 value, rest) := by
  have digits : ∀ c ∈ Nat.toDigits 10 value, c.isDigit = true :=
    fun c member => Nat.isDigit_of_mem_toDigits (by decide) (by decide) member
  rw [readWhole, splitDigits_append _ rest digits ends]
  refine if_neg ?_
  rintro (empty | ⟨zero, long⟩)
  · exact Nat.toDigits_ne_nil empty
  · rcases Nat.eq_zero_or_pos value with rfl | positive
    · exact long rfl
    · exact head?_toDigits value positive zero

theorem readFraction_of_ends (rest : List Char) (ends : Ends rest) :
    readFraction rest = some ([], rest) := by
  cases rest with
  | nil => rfl
  | cons head tail => rcases ends head rfl with rfl | rfl <;> rfl

theorem readExponent_of_ends (rest : List Char) (ends : Ends rest) :
    readExponent rest = some ([], rest) := by
  cases rest with
  | nil => rfl
  | cons head tail => rcases ends head rfl with rfl | rfl <;> rfl

theorem readNumber_toString (value : Int) (rest : List Char) (ends : Ends rest) :
    readNumber ((toString value).toList ++ rest) = some (.ofInt value, rest) := by
  have sign : ∃ sign,
      (toString value).toList = sign ++ Nat.toDigits 10 value.natAbs ∧
      readSign ((toString value).toList ++ rest) =
        (sign, Nat.toDigits 10 value.natAbs ++ rest) := by
    rw [Numeral.toList_toString]
    split
    · refine ⟨[], rfl, ?_⟩
      cases digits : Nat.toDigits 10 value.natAbs with
      | nil => exact absurd digits Nat.toDigits_ne_nil
      | cons head tail =>
          have digit : head.isDigit = true :=
            Nat.isDigit_of_mem_toDigits (by decide) (by decide) (digits ▸ List.mem_cons_self)
          have notMinus : head ≠ '-' := by
            rintro rfl
            exact absurd digit (by decide)
          simp [readSign, notMinus]
    · exact ⟨['-'], rfl, rfl⟩
  obtain ⟨sign, written, read⟩ := sign
  simp only [readNumber, read, Option.bind_eq_bind, Option.bind_some,
    readWhole_toDigits value.natAbs rest ends, readFraction_of_ends rest ends,
    readExponent_of_ends rest ends, List.append_nil, ← written, String.ofList_toList]
  rfl

/-- The documents whose text reads back: their numbers are integers, and their strings hold no code
beyond the last one of Unicode. -/
inductive Writable : Json → Prop
  | null : Writable .null
  | bool (value : Bool) : Writable (.bool value)
  | integer (value : Int) : Writable (.ofInt value)
  | string (codes : List Nat) (small : ∀ code ∈ codes, code < 0x110000) : Writable (.string codes)
  | array (items : List Json) (each : ∀ item ∈ items, Writable item) : Writable (.array items)
  | object (members : List (List Nat × Json))
      (names : ∀ member ∈ members, ∀ code ∈ member.1, code < 0x110000)
      (each : ∀ member ∈ members, Writable member.2) : Writable (.object members)

theorem skipGaps_append (gaps text : List Char) (each : ∀ c ∈ gaps, isGap c = true) :
    skipGaps (gaps ++ text) = skipGaps text :=
  List.dropWhile_append_of_pos each

theorem isGap_newLine (level : Nat) : ∀ c ∈ newLine level, isGap c = true := by
  intro c member
  rcases List.mem_cons.1 member with rfl | later
  · rfl
  · rw [List.eq_of_mem_replicate later]
    rfl

theorem skipGaps_newLine (level : Nat) (text : List Char) :
    skipGaps (newLine level ++ text) = skipGaps text :=
  skipGaps_append _ text (isGap_newLine level)

theorem readValue_append (fuel : Nat) (gaps text : List Char) (each : ∀ c ∈ gaps, isGap c = true) :
    readValue fuel (gaps ++ text) = readValue fuel text := by
  cases fuel with
  | zero => rfl
  | succ fuel => rw [readValue, readValue, skipGaps_append gaps text each]

theorem readItems_newLine (fuel level : Nat) (text : List Char) :
    readItems fuel (newLine level ++ text) = readItems fuel text := by
  cases fuel with
  | zero => rfl
  | succ fuel => rw [readItems, readItems, readValue_append _ _ _ (isGap_newLine level)]

theorem readMembers_newLine (fuel level : Nat) (text : List Char) :
    readMembers fuel (newLine level ++ text) = readMembers fuel text := by
  cases fuel with
  | zero => rfl
  | succ fuel => rw [readMembers, readMembers, skipGaps_newLine]

theorem write_eq_cons {value : Json} (writable : Writable value) (level : Nat) :
    ∃ head tail, write level value = head :: tail ∧ isGap head = false ∧ head ≠ ']' := by
  cases writable with
  | null => exact ⟨_, _, rfl, rfl, by decide⟩
  | bool value => cases value <;> exact ⟨_, _, rfl, rfl, by decide⟩
  | string codes small => exact ⟨_, _, rfl, rfl, by decide⟩
  | array items each => cases items <;> exact ⟨_, _, rfl, rfl, by decide⟩
  | object members names each =>
      rcases members with _ | ⟨⟨name, value⟩, members⟩ <;> exact ⟨_, _, rfl, rfl, by decide⟩
  | integer value =>
      have printed := Numeral.mem_toString value
      change ∃ head tail, (toString value).toList = _ ∧ _
      cases written : (toString value).toList with
      | nil =>
          rw [Numeral.toList_toString] at written
          split at written
          · exact absurd written Nat.toDigits_ne_nil
          · cases written
      | cons head tail =>
          refine ⟨head, tail, rfl, ?_⟩
          rcases printed head (written ▸ List.mem_cons_self) with rfl | digit
          · decide
          · constructor
            · rw [Bool.eq_false_iff]
              intro gap
              simp only [isGap, Bool.or_eq_true, beq_iff_eq] at gap
              rcases gap with ((rfl | rfl) | rfl) | rfl <;> exact absurd digit (by decide)
            · rintro rfl
              exact absurd digit (by decide)

def ReadsBack (value : Json) : Prop :=
  ∀ level fuel rest, 2 * (write level value).length ≤ fuel → Ends rest →
    readValue fuel (write level value ++ rest) = some (value, rest)

theorem readItems_write (level outer : Nat) (rest : List Char) (items : List Json) :
    ∀ (item : Json) (fuel : Nat), (∀ held ∈ item :: items, ReadsBack held) →
      2 * (write level item ++ writeItems level items).length + 1 ≤ fuel →
      readItems fuel
          (write level item ++ (writeItems level items ++ (newLine outer ++ ']' :: rest))) =
        some (item :: items, rest) := by
  induction items with
  | nil =>
      intro item fuel each enough
      obtain ⟨fuel, rfl⟩ : ∃ less, fuel = less + 1 := ⟨fuel - 1, by omega⟩
      simp only [writeItems, List.append_nil, List.nil_append] at enough ⊢
      rw [readItems, each item List.mem_cons_self level fuel _ (by omega)
        (by rintro c ⟨⟩; exact .inr rfl)]
      simp only [Option.bind_eq_bind, Option.bind_some, skipGaps_newLine]
      rfl
  | cons next items ih =>
      intro item fuel each enough
      obtain ⟨fuel, rfl⟩ : ∃ less, fuel = less + 1 := ⟨fuel - 1, by omega⟩
      have later := ih next fuel (fun held member => each held (List.mem_cons_of_mem _ member)) (by
        simp only [writeItems, List.length_append, List.length_cons] at enough ⊢
        omega)
      rw [readItems, each item List.mem_cons_self level fuel _
        (by simp only [List.length_append] at enough; omega)
        (by rintro c ⟨⟩; exact .inl rfl)]
      simp only [Option.bind_eq_bind, Option.bind_some, writeItems, List.cons_append,
        List.append_assoc]
      change (readItems fuel (newLine level ++ _)).bind _ = _
      rw [readItems_newLine, later]
      rfl

def writeMember (level : Nat) (member : List Nat × Json) : List Char :=
  writeString member.1 ++ [':', ' '] ++ write level member.2

theorem readMembers_writeMember (level fuel : Nat) (member : List Nat × Json) (rest : List Char)
    (small : ∀ code ∈ member.1, code < 0x110000) (back : ReadsBack member.2)
    (enough : 2 * (writeMember level member).length ≤ fuel) (ends : Ends rest) :
    readMembers (fuel + 1) (writeMember level member ++ rest) =
      match skipGaps rest with
      | '\x7d' :: after => some ([member], after)
      | ',' :: rest => do
          let (members, after) ← readMembers fuel rest
          return (member :: members, after)
      | _ => none := by
  obtain ⟨name, value⟩ := member
  have named := readString_writeString name ([':', ' '] ++ (write level value ++ rest)) small
  simp only [writeMember, List.length_append] at enough back
  have valued := back level fuel rest (by omega) ends
  simp only [writeMember, writeString, List.append_assoc, List.cons_append,
    List.nil_append] at named ⊢
  rw [readMembers]
  change (readString (name.flatMap writeCode ++ '"' :: ':' :: ' ' :: _)).bind _ = _
  rw [named]
  change (readValue fuel ([' '] ++ (write level value ++ rest))).bind _ = _
  have gap : ∀ c ∈ [' '], isGap c = true := by simp [isGap]
  rw [readValue_append _ _ _ gap, valued]
  rfl

theorem writeMembers_cons (level : Nat) (member : List Nat × Json)
    (members : List (List Nat × Json)) :
    writeMembers level (member :: members) =
      ',' :: newLine level ++ writeMember level member ++ writeMembers level members := by
  simp only [writeMembers, writeMember, List.append_assoc]

theorem readMembers_write (level outer : Nat) (rest : List Char)
    (members : List (List Nat × Json)) :
    ∀ (member : List Nat × Json) (fuel : Nat),
      (∀ held ∈ member :: members, (∀ code ∈ held.1, code < 0x110000) ∧ ReadsBack held.2) →
      2 * (writeMember level member ++ writeMembers level members).length + 1 ≤ fuel →
      readMembers fuel
          (writeMember level member ++ (writeMembers level members ++
            (newLine outer ++ '\x7d' :: rest))) =
        some (member :: members, rest) := by
  induction members with
  | nil =>
      intro member fuel each enough
      obtain ⟨fuel, rfl⟩ : ∃ less, fuel = less + 1 := ⟨fuel - 1, by omega⟩
      obtain ⟨small, back⟩ := each member List.mem_cons_self
      simp only [writeMembers, List.append_nil, List.nil_append] at enough ⊢
      rw [readMembers_writeMember level fuel member _ small back (by omega)
        (by rintro c ⟨⟩; exact .inr rfl), skipGaps_newLine]
      rfl
  | cons next members ih =>
      intro member fuel each enough
      obtain ⟨fuel, rfl⟩ : ∃ less, fuel = less + 1 := ⟨fuel - 1, by omega⟩
      obtain ⟨small, back⟩ := each member List.mem_cons_self
      have later := ih next fuel
        (fun held belongs => each held (List.mem_cons_of_mem _ belongs)) (by
          simp only [writeMembers_cons, List.length_append, List.length_cons] at enough ⊢
          omega)
      rw [readMembers_writeMember level fuel member _ small back
        (by simp only [List.length_append] at enough; omega)
        (by rw [writeMembers_cons]; rintro c ⟨⟩; exact .inl rfl), writeMembers_cons]
      simp only [List.cons_append, List.append_assoc]
      change (readMembers fuel (newLine level ++ _)).bind _ = _
      rw [readMembers_newLine, later]
      rfl

theorem readValue_array (fuel level : Nat) (head : Char) (tail : List Char)
    (solid : isGap head = false) (inside : head ≠ ']') :
    readValue (fuel + 1) ('[' :: newLine level ++ head :: tail) =
      (readItems fuel (head :: tail)).map fun (items, after) => (array items, after) := by
  have opened (rest : List Char) : skipGaps ('[' :: rest) = '[' :: rest := rfl
  have kept : skipGaps (head :: tail) = head :: tail := by simp [skipGaps, solid]
  simp only [readValue, List.cons_append, opened, skipGaps_newLine, kept]
  split
  · next same => cases same; contradiction
  · rfl

theorem readValue_object (fuel level : Nat) (tail : List Char) :
    readValue (fuel + 1) ('\x7b' :: newLine level ++ '"' :: tail) =
      (readMembers fuel ('"' :: tail)).map fun (members, after) => (object members, after) := by
  have opened (rest : List Char) : skipGaps ('\x7b' :: rest) = '\x7b' :: rest := rfl
  have kept : skipGaps ('"' :: tail) = '"' :: tail := rfl
  simp only [readValue, List.cons_append, opened, skipGaps_newLine, kept]
  rfl

theorem readValue_integer (fuel : Nat) (value : Int) (rest : List Char) (ends : Ends rest) :
    readValue (fuel + 1) ((toString value).toList ++ rest) = some (.ofInt value, rest) := by
  obtain ⟨head, tail, written, solid, -⟩ := write_eq_cons (.integer value) 0
  have printed := Numeral.mem_toString value head (by
    change head ∈ write 0 (.ofInt value)
    rw [written]
    exact List.mem_cons_self)
  have number := readNumber_toString value rest ends
  change (toString value).toList = _ at written
  rw [written] at number ⊢
  have kept : skipGaps (head :: tail ++ rest) = head :: tail ++ rest := by
    simp [skipGaps, solid]
  rw [readValue, kept]
  have starts (c : Char) (text : List Char) (same : head :: tail ++ rest = c :: text) :
      c = '-' ∨ c.isDigit = true := (List.cons.inj same).1 ▸ printed
  -- A sign or a digit begins nothing but a number.
  split
  case h_7 => exact number
  all_goals next same => exact absurd (starts _ _ same) (by decide)

theorem exists_fuel {value : Json} (writable : Writable value) {level fuel : Nat}
    (enough : 2 * (write level value).length ≤ fuel) : ∃ less, fuel = less + 1 := by
  obtain ⟨head, tail, written, -, -⟩ := write_eq_cons writable level
  rw [written, List.length_cons] at enough
  exact ⟨fuel - 1, by omega⟩

theorem readsBack_of_writable {value : Json} (writable : Writable value) : ReadsBack value := by
  -- By the shape of the document. Twice the length of what is written is fuel enough, since every
  -- step takes a character or goes into what the character has opened.
  induction writable with
  | null =>
      intro level fuel rest enough ends
      obtain ⟨fuel, rfl⟩ := exists_fuel .null enough
      rfl
  | bool value =>
      intro level fuel rest enough ends
      obtain ⟨fuel, rfl⟩ := exists_fuel (.bool value) enough
      cases value <;> rfl
  | integer value =>
      intro level fuel rest enough ends
      obtain ⟨fuel, rfl⟩ := exists_fuel (.integer value) enough
      exact readValue_integer fuel value rest ends
  | string codes small =>
      intro level fuel rest enough ends
      obtain ⟨fuel, rfl⟩ := exists_fuel (.string codes small) enough
      have read := readString_writeString codes rest small
      simp only [write, writeString, List.cons_append, List.append_assoc, List.nil_append]
      change (readString _).map _ = _
      rw [read]
      rfl
  | array items each ih =>
      intro level fuel rest enough ends
      obtain ⟨fuel, rfl⟩ := exists_fuel (.array items each) enough
      cases items with
      | nil => rfl
      | cons item items =>
          obtain ⟨head, tail, written, solid, inside⟩ :=
            write_eq_cons (each item List.mem_cons_self) (level + 1)
          have read := readItems_write (level + 1) level rest items item fuel ih (by
            simp only [write, List.length_append, List.length_cons] at enough ⊢
            omega)
          rw [written] at read
          simp only [write, List.cons_append, List.append_assoc, List.nil_append, written] at read ⊢
          exact (readValue_array fuel (level + 1) head _ solid inside).trans (by rw [read]; rfl)
  | object members names each ih =>
      intro level fuel rest enough ends
      obtain ⟨fuel, rfl⟩ := exists_fuel (.object members names each) enough
      cases members with
      | nil => rfl
      | cons member members =>
          have read := readMembers_write (level + 1) level rest members member fuel
            (fun held belongs => ⟨names held belongs, ih held belongs⟩) (by
              simp only [write, writeMember, List.length_append, List.length_cons] at enough ⊢
              omega)
          simp only [write, writeMember, writeString, List.cons_append, List.append_assoc,
            List.nil_append] at read ⊢
          exact (readValue_object fuel (level + 1) _).trans (by rw [read]; rfl)

theorem parse?_pretty {value : Json} (writable : Writable value) :
    parse? (pretty value) = some value := by
  have read := readsBack_of_writable writable 0 (2 * (write 0 value).length + 1) [] (by omega)
    (by rintro c ⟨⟩)
  rw [List.append_nil] at read
  rw [parse?, pretty, String.toList_ofList, String.length_ofList, read]
  rfl

end Json

end PackageAssay

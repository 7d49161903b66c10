import Mathlib.Data.List.Basic
import PackageAssay.Proofs.Lines
import PackageAssay.Text.Blank
import PackageAssay.Text.Numeral

set_option autoImplicit false

namespace PackageAssay

namespace Text

theorem trimChars_of_noBlank (text : List Char) (solid : ∀ c ∈ text, isBlank c = false) :
    trimChars text = text := by
  have keep (chars : List Char) (each : ∀ c ∈ chars, isBlank c = false) :
      chars.dropWhile isBlank = chars := by
    cases chars with
    | nil => rfl
    | cons head tail => simp [each head (by simp)]
  rw [trimChars, keep text solid, keep text.reverse (by simpa using solid), List.reverse_reverse]

theorem not_isBlank_of_isDigit (c : Char) (digit : c.isDigit = true) : isBlank c = false := by
  have bounds : 48 ≤ c.toNat ∧ c.toNat ≤ 57 := by
    simp only [Char.isDigit, Bool.and_eq_true, decide_eq_true_eq, UInt32.le_iff_toNat_le] at digit
    exact digit
  simp only [isBlank, Bool.or_eq_false_iff, Bool.and_eq_false_iff, decide_eq_false_iff_not,
    beq_eq_false_iff_ne]
  omega

end Text

namespace Numeral

theorem natural?_toDigits (value : Nat) : natural? (Nat.toDigits 10 value) = some value := by
  have digits : (Nat.toDigits 10 value).all Char.isDigit = true := by
    rw [List.all_eq_true]
    intro c member
    exact Nat.isDigit_of_mem_toDigits (by decide) (by decide) member
  have some : Nat.toDigits 10 value ≠ [] := Nat.toDigits_ne_nil
  simp [natural?, digits, some, Nat.ofDigitChars_ten_toDigits]

theorem integer?_of_isDigit (digits : List Char) (each : ∀ c ∈ digits, c.isDigit = true) :
    integer? digits = (natural? digits).map fun value => (value : Int) := by
  cases digits with
  | nil => rfl
  | cons head tail =>
      have digit := each head (by simp)
      by_cases minus : head = '-'
      · subst minus; exact absurd digit (by decide)
      · by_cases plus : head = '+'
        · subst plus; exact absurd digit (by decide)
        · simp [integer?, minus, plus]

theorem toList_toString (value : Int) :
    (toString value).toList =
      if 0 ≤ value then Nat.toDigits 10 value.natAbs
      else '-' :: Nat.toDigits 10 value.natAbs := by
  rw [Int.toString_eq_repr, Int.repr_eq_if]
  split
  · next nonneg =>
      have magnitude : value.toNat = value.natAbs := by omega
      simp [magnitude]
  · next negative =>
      have magnitude : (-value).toNat = value.natAbs := by omega
      simp [magnitude]

theorem integer?_toString (value : Int) : integer? (toString value).toList = some value := by
  rw [toList_toString]
  split
  · next nonneg =>
      have digits : ∀ c ∈ Nat.toDigits 10 value.natAbs, c.isDigit = true :=
        fun c member => Nat.isDigit_of_mem_toDigits (by decide) (by decide) member
      rw [integer?_of_isDigit _ digits, natural?_toDigits]
      simp [Int.natAbs_of_nonneg nonneg]
  · next negative =>
      have magnitude : -(value.natAbs : Int) = value := by omega
      rw [integer?, natural?_toDigits]
      exact congrArg some magnitude

theorem mem_toString (value : Int) (c : Char) (member : c ∈ (toString value).toList) :
    c = '-' ∨ c.isDigit = true := by
  have digit : ∀ c ∈ Nat.toDigits 10 value.natAbs, c.isDigit = true :=
    fun c member => Nat.isDigit_of_mem_toDigits (by decide) (by decide) member
  rw [toList_toString] at member
  split at member
  · exact .inr (digit c member)
  · rcases List.mem_cons.1 member with minus | later
    · exact .inl minus
    · exact .inr (digit c later)

theorem trim_toString (value : Int) : Text.trim (toString value) = toString value := by
  have solid : ∀ c ∈ (toString value).toList, Text.isBlank c = false := by
    intro c member
    rcases mem_toString value c member with rfl | digit
    · decide
    · exact Text.not_isBlank_of_isDigit c digit
  rw [Text.trim, Text.trimChars_of_noBlank _ solid, String.ofList_toList]

theorem isLine_toString (value : Int) : Text.IsLine (toString value) := by
  have printed : ∀ c ∈ (toString value).toList, c ≠ '\n' ∧ c ≠ '\r' := by
    intro c member
    rcases mem_toString value c member with rfl | digit
    · decide
    · constructor <;> rintro rfl <;> exact absurd digit (by decide)
  constructor
  · intro member
    exact (printed _ member).1 rfl
  · intro last
    exact (printed _ (List.mem_of_getLast? last)).2 rfl

theorem toInt64?_toInt (value : Int64) : toInt64? value.toInt = some value := by
  have least := value.minValue_le_toInt
  have greatest := value.toInt_le
  rw [toInt64?, if_pos ⟨least, greatest⟩, Int64.ofInt_toInt]

theorem toInt32?_toInt (value : Int32) : toInt32? value.toInt = some value := by
  have least := value.minValue_le_toInt
  have greatest := value.toInt_le
  rw [toInt32?, if_pos ⟨least, greatest⟩, Int32.ofInt_toInt]

theorem toInt32?_eq_none_iff (value : Int) :
    toInt32? value = none ↔ value < Int32.minValue.toInt ∨ Int32.maxValue.toInt < value := by
  by_cases inside : Int32.minValue.toInt ≤ value ∧ value ≤ Int32.maxValue.toInt
  · rw [toInt32?, if_pos inside]
    simp only [reduceCtorEq, false_iff]
    omega
  · rw [toInt32?, if_neg inside]
    simp only [true_iff]
    omega

theorem int64?_toString (value : Int64) : int64? (toString value.toInt) = some value := by
  rw [int64?, integer?_toString]
  exact toInt64?_toInt value

theorem int64?_toString_toInt (value : Int32) :
    int64? (toString value.toInt) = some value.toInt64 := by
  rw [← Int32.toInt_toInt64, int64?_toString]

end Numeral

end PackageAssay

import Mathlib.Data.List.Basic

/-!
# The order of texts is that of their bytes

Texts are compared by their characters. The bytes of a greater character are greater from the
first one on in which the two differ, and no character's bytes begin with another's, so the bytes
of two texts stand in the order of the texts.
-/

set_option autoImplicit false

namespace PackageAssay.Text

def BytesBefore (left right : String) : Prop :=
  left.toUTF8.data.toList < right.toUTF8.data.toList

theorem toUTF8_eq_flatMap (text : String) :
    text.toUTF8.data.toList = text.toList.flatMap String.utf8EncodeChar := by
  have encoded : text.toUTF8 = text.toList.utf8Encode :=
    calc text.toByteArray
      _ = (String.ofList text.toList).toByteArray := by rw [String.ofList_toList]
      _ = text.toList.utf8Encode := String.toByteArray_ofList
  rw [encoded, List.utf8Encode, List.toList_data_toByteArray]

theorem utf8EncodeChar_append_lt {left right : Char} (less : left < right)
    (leftRest rightRest : List UInt8) :
    String.utf8EncodeChar left ++ leftRest < String.utf8EncodeChar right ++ rightRest := by
  have below : left.val.toNat < right.val.toNat := less
  have bound := right.valid
  -- One case for each pair of lengths; digits to the base 64 decide between equal lengths.
  simp only [String.utf8EncodeChar]
  split_ifs <;>
    simp (disch := omega) only [List.cons_append, List.nil_append, List.cons_lt_cons_iff,
      UInt8.lt_iff_toNat_lt, ← UInt8.toNat_inj, UInt8.toNat_ofNat', Nat.mod_eq_of_lt] <;>
    omega

theorem flatMap_utf8EncodeChar_lt {left right : List Char} (less : left < right) :
    left.flatMap String.utf8EncodeChar < right.flatMap String.utf8EncodeChar := by
  induction less with
  | @nil head tail =>
      have long : 0 < (String.utf8EncodeChar head).length := by
        rw [String.length_utf8EncodeChar]
        exact head.utf8Size_pos
      obtain ⟨byte, rest, encoded⟩ := List.exists_cons_of_length_pos long
      rw [List.flatMap_cons, encoded]
      exact List.nil_lt_cons _ _
  | rel below =>
      rw [List.flatMap_cons, List.flatMap_cons]
      exact utf8EncodeChar_append_lt below _ _
  | cons _ ih =>
      rw [List.flatMap_cons, List.flatMap_cons]
      exact List.append_left_lt ih

theorem bytesBefore_of_lt {left right : String} (less : left < right) :
    BytesBefore left right := by
  rw [BytesBefore, toUTF8_eq_flatMap, toUTF8_eq_flatMap]
  exact flatMap_utf8EncodeChar_lt (String.lt_iff.1 less)

end PackageAssay.Text

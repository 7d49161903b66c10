import Mathlib.Tactic.IntervalCases
import PackageAssay.Proofs.ByteOrder
import PackageAssay.Proofs.Lines
import PackageAssay.Text.Lossy

/-!
# Texts of bytes that may not be UTF-8

No character goes over the end of a line. So the text of some bytes is made of the texts of their
lines, even where a character breaks off at the end of one.
-/

set_option autoImplicit false

namespace PackageAssay.Text

def opened (byte : UInt8) : List Char × Option Begun :=
  if byte < 0x80 then ([Char.ofNat byte.toNat], none)
  else
    match begin? byte with
    | some begun => ([], some begun)
    | none => ([replacement], none)

/-- The characters that a byte completes or breaks off, and what has begun behind it. -/
def advanced : Option Begun → UInt8 → List Char × Option Begun
  | none, byte => opened byte
  | some held, byte =>
      if held.low ≤ byte ∧ byte ≤ held.high then
        let code := 0x40 * held.code + byte.toNat % 0x40
        if held.missing = 1 then ([Char.ofNat code], none)
        else ([], some { code := code, missing := held.missing - 1 })
      else (replacement :: (opened byte).1, (opened byte).2)

theorem decodeFrom_opened (byte : UInt8) (rest : List UInt8) :
    decodeFrom none (byte :: rest) = (opened byte).1 ++ decodeFrom (opened byte).2 rest := by
  rw [decodeFrom, opened]
  split
  · rfl
  · cases begin? byte <;> rfl

theorem decodeFrom_cons (begun : Option Begun) (byte : UInt8) (rest : List UInt8) :
    decodeFrom begun (byte :: rest) =
      (advanced begun byte).1 ++ decodeFrom (advanced begun byte).2 rest := by
  cases begun with
  | none => exact decodeFrom_opened byte rest
  | some held =>
      have fresh := decodeFrom_opened byte rest
      simp only [decodeFrom] at fresh ⊢
      rw [advanced]
      split
      · split <;> rfl
      · rw [fresh, List.cons_append]

/-- What has begun can only become a character beyond the first 0x80, from bytes beyond them. -/
structure Begun.Sound (held : Begun) : Prop where
  low : 0x80 ≤ held.low.toNat
  high : held.high.toNat < 0xc0
  wide : (if held.missing = 1 then 0x80 else 2) ≤ 0x40 * held.code + held.low.toNat % 0x40

theorem sound_of_begin? {byte : UInt8} {begun : Begun} (begins : begin? byte = some begun) :
    begun.Sound := by
  simp only [begin?] at begins
  split_ifs at begins
  all_goals
    cases begins
    simp only [UInt8.le_iff_toNat_le, ← UInt8.toNat_inj, UInt8.reduceToNat] at *
    constructor <;> simp <;> omega

theorem sound_of_opened {byte : UInt8} {begun : Begun} (begins : (opened byte).2 = some begun) :
    begun.Sound := by
  rw [opened] at begins
  split at begins
  · cases begins
  · split at begins
    · next found =>
        cases begins
        exact sound_of_begin? found
    · cases begins

theorem Begun.Sound.advanced {begun : Option Begun} (sound : ∀ held ∈ begun, held.Sound)
    (byte : UInt8) : ∀ held ∈ (Text.advanced begun byte).2, held.Sound := by
  cases begun with
  | none => exact fun held => sound_of_opened
  | some before =>
      obtain ⟨low, high, wide⟩ := sound before rfl
      intro held later
      rw [Text.advanced] at later
      split at later
      · next inside =>
          rw [UInt8.le_iff_toNat_le, UInt8.le_iff_toNat_le] at inside
          dsimp only at later
          split at later
          · cases later
          · next more =>
              rw [if_neg more] at wide
              cases later
              constructor <;> simp
              split <;> omega
      · exact sound_of_opened later

theorem ofNat_ne_feed {code : Nat} (other : code ≠ 0x0a) : Char.ofNat code ≠ '\n' := by
  by_cases valid : code.isValidChar
  · rw [Char.ofNat, dif_pos valid]
    exact fun same => other (congrArg Char.toNat same)
  · rw [Char.ofNat, dif_neg valid]
    decide

theorem opened_feed : opened 0x0a = (['\n'], none) := rfl

theorem feed_notMem_opened {byte : UInt8} (other : byte ≠ 0x0a) : '\n' ∉ (opened byte).1 := by
  rw [opened]
  split
  · rw [List.mem_singleton]
    exact (ofNat_ne_feed fun same => other (UInt8.toNat_inj.1 same)).symm
  · split
    · exact List.not_mem_nil
    · rw [List.mem_singleton]
      decide

theorem feed_notMem_advanced {begun : Option Begun} (sound : ∀ held ∈ begun, held.Sound)
    {byte : UInt8} (other : byte ≠ 0x0a) : '\n' ∉ (advanced begun byte).1 := by
  cases begun with
  | none => exact feed_notMem_opened other
  | some held =>
      obtain ⟨low, high, wide⟩ := sound held rfl
      rw [advanced]
      split
      · next inside =>
          rw [UInt8.le_iff_toNat_le, UInt8.le_iff_toNat_le] at inside
          dsimp only
          split
          · next last =>
              rw [if_pos last] at wide
              rw [List.mem_singleton]
              exact (ofNat_ne_feed (by omega)).symm
          · exact List.not_mem_nil
      · rw [List.mem_cons, not_or]
        exact ⟨by decide, feed_notMem_opened other⟩

theorem decodeFrom_of_lead {begun : Option Begun} (sound : ∀ held ∈ begun, held.Sound)
    {byte : UInt8} (lead : byte.toNat < 0x80 ∨ 0xc0 ≤ byte.toNat) (rest : List UInt8) :
    decodeFrom begun (byte :: rest) = decodeFrom begun [] ++ decodeFrom none (byte :: rest) := by
  cases begun with
  | none => rfl
  | some held =>
      obtain ⟨low, high, -⟩ := sound held rfl
      have outside : ¬(held.low ≤ byte ∧ byte ≤ held.high) := by
        rw [UInt8.le_iff_toNat_le, UInt8.le_iff_toNat_le]
        omega
      rw [decodeFrom_cons, advanced, if_neg outside, decodeFrom_opened]
      rfl

theorem decodeFrom_append_feed {begun : Option Begun} (sound : ∀ held ∈ begun, held.Sound)
    (before after : List UInt8) :
    decodeFrom begun (before ++ 0x0a :: after) =
      decodeFrom begun before ++ '\n' :: decodeFrom none after := by
  induction before generalizing begun with
  | nil =>
      rw [List.nil_append, decodeFrom_of_lead sound (by decide), decodeFrom_opened, opened_feed]
      rfl
  | cons byte rest ih =>
      rw [List.cons_append, decodeFrom_cons, decodeFrom_cons, ih (Begun.Sound.advanced sound byte),
        List.append_assoc]

theorem feed_notMem_decodeFrom {begun : Option Begun} (sound : ∀ held ∈ begun, held.Sound)
    {bytes : List UInt8} (whole : 0x0a ∉ bytes) : '\n' ∉ decodeFrom begun bytes := by
  induction bytes generalizing begun with
  | nil => cases begun <;> simp [decodeFrom, replacement]
  | cons byte rest ih =>
      rw [decodeFrom_cons, List.mem_append, not_or]
      exact ⟨feed_notMem_advanced sound fun same => whole (by simp [same]),
        ih (Begun.Sound.advanced sound byte) fun member => whole (List.mem_cons_of_mem _ member)⟩

theorem pieces_decodeLossy_of_notMem {line : List UInt8} (whole : 0x0a ∉ line) :
    pieces '\n' (decodeLossy line) = [decodeLossy line] :=
  pieces_of_notMem _ (feed_notMem_decodeFrom (by simp) whole)

theorem pieces_decodeLossy (bytes : List UInt8) :
    pieces '\n' (decodeLossy bytes) = (pieces 0x0a bytes).map decodeLossy := by
  induction bytes using cut_induction (0x0a : UInt8) with
  | whole line whole =>
      rw [pieces_decodeLossy_of_notMem whole, pieces_of_notMem line whole, List.map_singleton]
  | cut front rest first ih =>
      have parted : decodeLossy (front ++ 0x0a :: rest) =
          decodeLossy front ++ '\n' :: decodeLossy rest :=
        decodeFrom_append_feed (by simp) front rest
      rw [parted, pieces_append, ih, pieces_decodeLossy_of_notMem first, pieces_append,
        pieces_of_notMem front first, List.map_append, List.map_singleton]

section Lead

variable {digit : Nat} (rest : List UInt8)

theorem decodeFrom_one (most : digit < 0x80) :
    decodeFrom none (UInt8.ofNat digit :: rest) = Char.ofNat digit :: decodeFrom none rest := by
  have value : (UInt8.ofNat digit).toNat = digit := by
    rw [UInt8.toNat_ofNat']
    omega
  have small : UInt8.ofNat digit < 0x80 := by
    rw [UInt8.lt_iff_toNat_lt, value]
    exact most
  rw [decodeFrom_opened, opened, if_pos small, value]
  rfl

theorem decodeFrom_two (least : 2 ≤ digit) (most : digit < 0x20) :
    decodeFrom none (UInt8.ofNat (digit + 0xc0) :: rest) =
      decodeFrom (some { code := digit, missing := 1 }) rest := by
  rw [decodeFrom_opened]
  interval_cases digit <;> rfl

theorem decodeFrom_three (most : digit < 0x10) :
    decodeFrom none (UInt8.ofNat (digit + 0xe0) :: rest) =
      decodeFrom (some {
        code := digit
        missing := 2
        low := if digit = 0 then 0xa0 else 0x80
        high := if digit = 13 then 0x9f else 0xbf }) rest := by
  rw [decodeFrom_opened]
  interval_cases digit <;> rfl

theorem decodeFrom_four (most : digit < 5) :
    decodeFrom none (UInt8.ofNat (digit + 0xf0) :: rest) =
      decodeFrom (some {
        code := digit
        missing := 3
        low := if digit = 0 then 0x90 else 0x80
        high := if digit = 4 then 0x8f else 0xbf }) rest := by
  rw [decodeFrom_opened]
  interval_cases digit <;> rfl

theorem decodeFrom_within {held : Begun} (low : held.low.toNat ≤ digit + 0x80)
    (high : digit + 0x80 ≤ held.high.toNat) (most : digit < 0x40) :
    decodeFrom (some held) (UInt8.ofNat (digit + 0x80) :: rest) =
      if held.missing = 1 then Char.ofNat (0x40 * held.code + digit) :: decodeFrom none rest
      else decodeFrom (some {
        code := 0x40 * held.code + digit
        missing := held.missing - 1 }) rest := by
  have value : (UInt8.ofNat (digit + 0x80)).toNat = digit + 0x80 := by
    rw [UInt8.toNat_ofNat']
    omega
  have inside : held.low ≤ UInt8.ofNat (digit + 0x80) ∧
      UInt8.ofNat (digit + 0x80) ≤ held.high := by
    rw [UInt8.le_iff_toNat_le, UInt8.le_iff_toNat_le, value]
    exact ⟨low, high⟩
  have last : (digit + 0x80) % 0x40 = digit := by omega
  rw [decodeFrom_cons, advanced, if_pos inside, value, last]
  split <;> rfl

theorem decodeFrom_next (code missing : Nat) {low high : UInt8} (least : low.toNat ≤ digit + 0x80)
    (greatest : digit + 0x80 ≤ high.toNat) (most : digit < 0x40) :
    decodeFrom (some ⟨code, missing + 2, low, high⟩) (UInt8.ofNat (digit + 0x80) :: rest) =
      decodeFrom (some { code := 0x40 * code + digit, missing := missing + 1 }) rest := by
  rw [decodeFrom_within rest least greatest most, if_neg (by simp)]
  rfl

theorem decodeFrom_last (code : Nat) (most : digit < 0x40) :
    decodeFrom (some { code := code, missing := 1 }) (UInt8.ofNat (digit + 0x80) :: rest) =
      Char.ofNat (0x40 * code + digit) :: decodeFrom none rest := by
  rw [decodeFrom_within rest (by simp) (by simp; omega) most, if_pos rfl]

end Lead

theorem decodeFrom_utf8EncodeChar (c : Char) (rest : List UInt8) :
    decodeFrom none (String.utf8EncodeChar c ++ rest) = c :: decodeFrom none rest := by
  have valid : c.val.toNat < 0xd800 ∨ 0xdfff < c.val.toNat ∧ c.val.toNat < 0x110000 := c.valid
  have back : Char.ofNat c.val.toNat = c := Char.ofNat_toNat c
  simp only [String.utf8EncodeChar]
  generalize c.val.toNat = code at valid back ⊢
  subst back
  -- One case for each number of bytes; the digits of the code to the base 64 come back in turn.
  split
  · exact decodeFrom_one rest (by omega)
  split <;> [skip; split] <;> simp only [List.cons_append, List.nil_append]
  · have first : code / 64 % 32 = code / 64 := by omega
    have whole : 0x40 * (code / 64) + code % 64 = code := by omega
    rw [first, decodeFrom_two _ (by omega) (by omega), decodeFrom_last _ _ (by omega), whole]
  · have first : code / 4096 % 16 = code / 4096 := by omega
    have whole : 0x40 * (0x40 * (code / 4096) + code / 64 % 64) + code % 64 = code := by omega
    rw [first, decodeFrom_three _ (by omega),
      decodeFrom_next _ _ 0 (by split <;> simp; omega) (by split <;> (simp; omega)) (by omega),
      decodeFrom_last _ _ (by omega), whole]
  · have first : code / 262144 % 8 = code / 262144 := by omega
    have whole : 0x40 * (0x40 * (0x40 * (code / 262144) + code / 4096 % 64) + code / 64 % 64) +
        code % 64 = code := by omega
    rw [first, decodeFrom_four _ (by omega),
      decodeFrom_next _ _ 1 (by split <;> simp; omega) (by split <;> (simp; omega)) (by omega),
      decodeFrom_next _ _ 0 (by simp) (by simp; omega) (by omega), decodeFrom_last _ _ (by omega),
      whole]

theorem exists_lead (c : Char) : ∃ lead rest, String.utf8EncodeChar c = lead :: rest ∧
    (lead.toNat < 0x80 ∨ 0xc0 ≤ lead.toNat) := by
  simp only [String.utf8EncodeChar]
  generalize c.val.toNat = code
  split
  · exact ⟨_, _, rfl, .inl (by simp; omega)⟩
  split <;> [skip; split] <;> exact ⟨_, _, rfl, .inr (by simp; omega)⟩

theorem decodeFrom_flatMap_utf8EncodeChar (text : List Char) (rest : List UInt8) :
    decodeFrom none (text.flatMap String.utf8EncodeChar ++ rest) =
      text ++ decodeFrom none rest := by
  induction text with
  | nil => rfl
  | cons c text ih =>
      rw [List.flatMap_cons, List.append_assoc, decodeFrom_utf8EncodeChar, ih, List.cons_append]

theorem decodeLossy_toUTF8 (text : String) :
    decodeLossy text.toUTF8.data.toList = text.toList := by
  have decoded := decodeFrom_flatMap_utf8EncodeChar text.toList []
  rwa [List.append_nil, ← toUTF8_eq_flatMap, decodeFrom, List.append_nil] at decoded

theorem infix_decodeFrom {begun : Option Begun} (sound : ∀ held ∈ begun, held.Sound)
    (text : List Char) (before after : List UInt8) :
    text <:+: decodeFrom begun (before ++ text.flatMap String.utf8EncodeChar ++ after) := by
  induction before generalizing begun with
  | nil =>
      cases text with
      | nil => exact List.nil_infix
      | cons c text =>
          -- The first byte of a character breaks off what has begun in front of it.
          obtain ⟨lead, others, bytes, starts⟩ := exists_lead c
          refine ⟨decodeFrom begun [], decodeFrom none after, ?_⟩
          have decoded := decodeFrom_flatMap_utf8EncodeChar (c :: text) after
          rw [List.flatMap_cons, bytes] at decoded ⊢
          simp only [List.cons_append, List.nil_append] at decoded ⊢
          rw [decodeFrom_of_lead sound starts, decoded, List.append_assoc, List.cons_append]
  | cons byte rest ih =>
      rw [List.cons_append, List.cons_append, decodeFrom_cons]
      exact List.infix_append_of_infix_right (ih (Begun.Sound.advanced sound byte))

theorem infix_decodeLossy {text : String} {bytes : List UInt8}
    (inside : text.toUTF8.data.toList <:+: bytes) : text.toList <:+: decodeLossy bytes := by
  obtain ⟨before, after, rfl⟩ := inside
  rw [toUTF8_eq_flatMap]
  exact infix_decodeFrom (by simp) text.toList before after

end PackageAssay.Text

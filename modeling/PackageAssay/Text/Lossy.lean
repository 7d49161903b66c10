/-!
# Text from bytes that may not be UTF-8

Every longest beginning of a character that breaks off, and every byte that begins no character,
shows as one replacement character.
-/

set_option autoImplicit false

namespace PackageAssay.Text

def replacement : Char := '\ufffd'

/-- A character that has begun: its code so far, how many bytes are missing, and between what
bounds the next of them has to lie. -/
structure Begun where
  code : Nat
  missing : Nat
  low : UInt8 := 0x80
  high : UInt8 := 0xbf

def begin? (byte : UInt8) : Option Begun :=
  let code := byte.toNat
  if 0xc2 ≤ byte ∧ byte ≤ 0xdf then some { code := code % 0x20, missing := 1 }
  else if byte = 0xe0 then some { code := 0, missing := 2, low := 0xa0 }
  else if byte = 0xed then some { code := 0xd, missing := 2, high := 0x9f }
  else if 0xe1 ≤ byte ∧ byte ≤ 0xef then some { code := code % 0x10, missing := 2 }
  else if byte = 0xf0 then some { code := 0, missing := 3, low := 0x90 }
  else if byte = 0xf4 then some { code := 4, missing := 3, high := 0x8f }
  else if 0xf1 ≤ byte ∧ byte ≤ 0xf3 then some { code := code % 8, missing := 3 }
  else none

def decodeFrom : Option Begun → List UInt8 → List Char
  | none, [] => []
  | some _, [] => [replacement]
  | begun, byte :: rest =>
      let fresh : List Char :=
        if byte < 0x80 then Char.ofNat byte.toNat :: decodeFrom none rest
        else
          match begin? byte with
          | some begun => decodeFrom (some begun) rest
          | none => replacement :: decodeFrom none rest
      match begun with
      | none => fresh
      | some held =>
          if held.low ≤ byte ∧ byte ≤ held.high then
            let code := 0x40 * held.code + byte.toNat % 0x40
            if held.missing = 1 then Char.ofNat code :: decodeFrom none rest
            else decodeFrom (some { code := code, missing := held.missing - 1 }) rest
          else replacement :: fresh

def decodeLossy (bytes : List UInt8) : List Char := decodeFrom none bytes

end PackageAssay.Text

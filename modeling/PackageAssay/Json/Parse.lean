import PackageAssay.Json.Value

set_option autoImplicit false

namespace PackageAssay.Json

def isGap (c : Char) : Bool :=
  c == ' ' || c == '\n' || c == '\r' || c == '\t'

def skipGaps (text : List Char) : List Char := text.dropWhile isGap

def hexDigit? (c : Char) : Option Nat :=
  if c.isDigit then some (c.toNat - '0'.toNat)
  else if 'a' ≤ c ∧ c ≤ 'f' then some (c.toNat - 'a'.toNat + 10)
  else if 'A' ≤ c ∧ c ≤ 'F' then some (c.toNat - 'A'.toNat + 10)
  else none

def hexCode? (digits : List Char) : Option Nat :=
  digits.foldlM (fun code digit => (hexDigit? digit).map (16 * code + ·)) 0

def escapeCode? : Char → Option Nat
  | '"' => some 0x22
  | '\\' => some 0x5c
  | '/' => some 0x2f
  | 'b' => some 0x08
  | 'f' => some 0x0c
  | 'n' => some 0x0a
  | 'r' => some 0x0d
  | 't' => some 0x09
  | _ => none

def readString : List Char → Option (List Nat × List Char)
  | [] => none
  | '"' :: rest => some ([], rest)
  | '\\' :: 'u' :: a :: b :: c :: d :: rest => do
      let code ← hexCode? [a, b, c, d]
      let (codes, after) ← readString rest
      return (code :: codes, after)
  | '\\' :: escape :: rest => do
      let code ← escapeCode? escape
      let (codes, after) ← readString rest
      return (code :: codes, after)
  | c :: rest =>
      if c.toNat < 0x20 then none
      else do
        let (codes, after) ← readString rest
        return (c.toNat :: codes, after)

def splitDigits (text : List Char) : List Char × List Char :=
  (text.takeWhile Char.isDigit, text.dropWhile Char.isDigit)

def readSign : List Char → List Char × List Char
  | '-' :: rest => (['-'], rest)
  | text => ([], text)

def readWhole (text : List Char) : Option (List Char × List Char) :=
  let (digits, rest) := splitDigits text
  if digits = [] ∨ (digits.head? = some '0' ∧ digits.length ≠ 1) then none
  else some (digits, rest)

def readFraction : List Char → Option (List Char × List Char)
  | '.' :: text =>
      let (digits, rest) := splitDigits text
      if digits = [] then none else some ('.' :: digits, rest)
  | text => some ([], text)

def readExponent : List Char → Option (List Char × List Char)
  | [] => some ([], [])
  | mark :: text =>
      if mark = 'e' ∨ mark = 'E' then
        let (sign, text) := match text with
          | '+' :: text => (['+'], text)
          | text => readSign text
        let (digits, rest) := splitDigits text
        if digits = [] then none else some (mark :: sign ++ digits, rest)
      else some ([], mark :: text)

def readNumber (text : List Char) : Option (Json × List Char) := do
  let (sign, rest) := readSign text
  let (whole, rest) ← readWhole rest
  let (fraction, rest) ← readFraction rest
  let (exponent, rest) ← readExponent rest
  return (.number (String.ofList (sign ++ whole ++ fraction ++ exponent)), rest)

mutual

/-- A value and the text after it. The fuel bounds the number of steps into the text. -/
def readValue : Nat → List Char → Option (Json × List Char)
  | 0, _ => none
  | fuel + 1, text =>
      match skipGaps text with
      | '"' :: rest => (readString rest).map fun (codes, after) => (.string codes, after)
      | '[' :: rest =>
          match skipGaps rest with
          | ']' :: after => some (.array [], after)
          | rest => (readItems fuel rest).map fun (items, after) => (.array items, after)
      | '\x7b' :: rest =>
          match skipGaps rest with
          | '\x7d' :: after => some (.object [], after)
          | rest => (readMembers fuel rest).map fun (members, after) => (.object members, after)
      | 'n' :: 'u' :: 'l' :: 'l' :: after => some (.null, after)
      | 't' :: 'r' :: 'u' :: 'e' :: after => some (.bool true, after)
      | 'f' :: 'a' :: 'l' :: 's' :: 'e' :: after => some (.bool false, after)
      | rest => readNumber rest

def readItems : Nat → List Char → Option (List Json × List Char)
  | 0, _ => none
  | fuel + 1, text => do
      let (item, rest) ← readValue fuel text
      match skipGaps rest with
      | ']' :: after => return ([item], after)
      | ',' :: rest =>
          let (items, after) ← readItems fuel rest
          return (item :: items, after)
      | _ => none

def readMembers : Nat → List Char → Option (List (List Nat × Json) × List Char)
  | 0, _ => none
  | fuel + 1, text =>
      match skipGaps text with
      | '"' :: rest => do
          let (name, rest) ← readString rest
          match skipGaps rest with
          | ':' :: rest =>
              let (value, rest) ← readValue fuel rest
              match skipGaps rest with
              | '\x7d' :: after => return ([(name, value)], after)
              | ',' :: rest =>
                  let (members, after) ← readMembers fuel rest
                  return ((name, value) :: members, after)
              | _ => none
          | _ => none
      | _ => none

end

def parse? (text : String) : Option Json :=
  match readValue (2 * text.length + 1) text.toList with
  | some (value, rest) => if skipGaps rest = [] then some value else none
  | none => none

end PackageAssay.Json

import PackageAssay.Text.Numeral

/-!
# JSON documents

A document keeps its numbers as they are written and its strings as lists of codes, so that it can
hold everything the grammar admits: an escape may name half of a surrogate pair, which is a code
but no character.
-/

set_option autoImplicit false

namespace PackageAssay

inductive Json where
  | null
  | bool (value : Bool)
  | number (numeral : String)
  | string (codes : List Nat)
  | array (items : List Json)
  | object (members : List (List Nat × Json))

namespace Json

def codesOf (text : String) : List Nat := text.toList.map Char.toNat

def ofString (text : String) : Json := .string (codesOf text)

def ofInt (value : Int) : Json := .number (toString value)

def ofStrings (texts : List String) : Json := .array (texts.map ofString)

def ofMembers (members : List (String × Json)) : Json :=
  .object (members.map fun member => (codesOf member.1, member.2))

/-- The characters that codes stand for; two halves of a surrogate pair stand for one. -/
def characters? : List Nat → Option (List Char)
  | [] => some []
  | code :: rest =>
      if code < 0xd800 ∨ 0xdfff < code then
        (characters? rest).map (Char.ofNat code :: ·)
      else
        match rest with
        | low :: rest =>
            if code < 0xdc00 ∧ 0xdc00 ≤ low ∧ low ≤ 0xdfff then
              (characters? rest).map
                (Char.ofNat (0x10000 + (code - 0xd800) * 0x400 + (low - 0xdc00)) :: ·)
            else none
        | [] => none

def textOf? (codes : List Nat) : Option String :=
  (characters? codes).map String.ofList

def string? : Json → Option String
  | .string codes => textOf? codes
  | _ => none

def bool? : Json → Option Bool
  | .bool value => some value
  | _ => none

/-- The value of a numeral that is written as an integer; minus zero is not. -/
def int? : Json → Option Int
  | .number numeral => if numeral = "-0" then none else Numeral.integer? numeral.toList
  | _ => none

def int64? (value : Json) : Option Int64 := value.int?.bind Numeral.toInt64?

def int32? (value : Json) : Option Int32 := value.int?.bind Numeral.toInt32?

def list? {α : Type} (item? : Json → Option α) : Json → Option (List α)
  | .array items => items.mapM item?
  | _ => none

def strings? : Json → Option (List String) := list? string?

def members? : Json → Option (List (String × Json))
  | .object members => members.mapM fun member => (textOf? member.1).map (·, member.2)
  | _ => none

/-- The values of the named fields, in the order of the names. An object has each field once and
may have others; an array has the values alone. -/
def fields? (names : List String) (value : Json) : Option (List Json) :=
  match value with
  | .array items => if items.length = names.length then some items else none
  | value =>
      value.members?.bind fun members =>
        names.mapM fun name =>
          match members.filter fun member => member.1 == name with
          | [member] => some member.2
          | _ => none

end Json

end PackageAssay

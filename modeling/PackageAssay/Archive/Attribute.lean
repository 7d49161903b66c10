import PackageAssay.Text.Numeral
import PackageAssay.Text.Split

/-!
# Attributes of archive entries

A list of attributes announces an entry. Each attribute has a line of its own, which tells how many
bytes it has, the line feed included.
-/

set_option autoImplicit false

namespace PackageAssay.Tar

structure Attribute where
  key : List UInt8
  value : List UInt8

def cut? (separator : UInt8) (bytes : List UInt8) : Option (List UInt8 × List UInt8) :=
  match bytes.span (· ≠ separator) with
  | (_, []) => none
  | (before, _ :: after) => some (before, after)

def decimal? (digits : List UInt8) : Option Nat :=
  Numeral.unsigned64? 10 (digits.map fun digit => Char.ofNat digit.toNat)

namespace Attribute

def ofLine? (line : List UInt8) : Option Attribute := do
  let (length, text) ← cut? 0x20 line
  if (← decimal? length) ≠ line.length + 1 then none
  let (key, value) ← cut? 0x3d text
  return ⟨key, value⟩

/-- The attributes of a list, with nothing for a malformed line. An empty line ends the list. -/
def ofBytes (bytes : ByteArray) : List (Option Attribute) :=
  ((Text.pieces 0x0a bytes.data.toList).takeWhile (· ≠ [])).map ofLine?

def bytesOf (text : String) : List UInt8 := text.toUTF8.data.toList

def path? (attributes : List (Option Attribute)) : Option (List UInt8) :=
  (attributes.filterMap id).findSome? fun given =>
    if given.key = bytesOf "path" then some given.value else none

def size? : List (Option Attribute) → Option Nat
  | some given :: rest => if given.key = bytesOf "size" then decimal? given.value else size? rest
  | _ => none

end Attribute

end PackageAssay.Tar

/-!
# Numerals

A numeral is an optional sign and at least one ASCII digit. Reading one into a word of fixed
width refuses the values that the word does not hold.
-/

set_option autoImplicit false

namespace PackageAssay.Numeral

def natural? (digits : List Char) : Option Nat :=
  if digits ≠ [] ∧ digits.all Char.isDigit then some (Nat.ofDigitChars 10 digits 0) else none

def integer? : List Char → Option Int
  | '-' :: digits => (natural? digits).map fun value => -(value : Int)
  | '+' :: digits => (natural? digits).map fun value => (value : Int)
  | digits => (natural? digits).map fun value => (value : Int)

def toInt64? (value : Int) : Option Int64 :=
  if Int64.minValue.toInt ≤ value ∧ value ≤ Int64.maxValue.toInt then some (Int64.ofInt value)
  else none

def toInt32? (value : Int) : Option Int32 :=
  if Int32.minValue.toInt ≤ value ∧ value ≤ Int32.maxValue.toInt then some (Int32.ofInt value)
  else none

def int64? (text : String) : Option Int64 :=
  (integer? text.toList).bind toInt64?

def int32? (text : String) : Option Int32 :=
  (integer? text.toList).bind toInt32?

def isDigitIn (base : Nat) (c : Char) : Bool :=
  '0' ≤ c && c.toNat < '0'.toNat + base

/-- The value of a numeral in a base up to ten, if 64 bits hold it; its sign can only be a plus. -/
def unsigned64? (base : Nat) (text : List Char) : Option Nat :=
  let digits := (['+'].isPrefixOf? text).getD text
  let value := Nat.ofDigitChars base digits 0
  if digits ≠ [] ∧ digits.all (isDigitIn base) ∧ value < UInt64.size then some value else none

end PackageAssay.Numeral

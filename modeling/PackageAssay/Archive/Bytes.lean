set_option autoImplicit false

namespace PackageAssay

/-- The one comparison of bytes, whatever others the libraries in scope declare. -/
instance (priority := high) decidableEqBytes : DecidableEq ByteArray := ByteArray.instDecidableEq

def byteAt (bytes : ByteArray) (position : Nat) : Nat :=
  (bytes[position]?.getD 0).toNat

def littleEndian (width value : Nat) : ByteArray :=
  ⟨((List.range width).map fun i => UInt8.ofNat (value >>> (8 * i))).toArray⟩

def littleEndianAt (bytes : ByteArray) (start width : Nat) : Nat :=
  (List.range width).foldr (fun i value => 256 * value + byteAt bytes (start + i)) 0

def bigEndianAt (bytes : ByteArray) (start width : Nat) : Nat :=
  (List.range width).foldl (fun value i => 256 * value + byteAt bytes (start + i)) 0

end PackageAssay

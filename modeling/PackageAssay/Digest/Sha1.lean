import PackageAssay.Text.Hex

/-!
# The secure hash algorithm SHA-1

The hasher takes the message byte by byte and compresses a block whenever 64 bytes are there, so
it does not matter in what pieces the message arrives.
-/

set_option autoImplicit false

namespace PackageAssay.Sha1

structure Chain where
  a : UInt32
  b : UInt32
  c : UInt32
  d : UInt32
  e : UInt32
deriving DecidableEq

def Chain.initial : Chain :=
  ⟨0x67452301, 0xefcdab89, 0x98badcfe, 0x10325476, 0xc3d2e1f0⟩

def Chain.add (left right : Chain) : Chain :=
  ⟨left.a + right.a, left.b + right.b, left.c + right.c, left.d + right.d, left.e + right.e⟩

def rotateLeft (word amount : UInt32) : UInt32 :=
  (word <<< amount) ||| (word >>> (32 - amount))

def blockWords (block : ByteArray) : Array UInt32 :=
  (Array.range 16).map fun i =>
    (List.range 4).foldl (fun word j => (word <<< 8) ||| (block[4 * i + j]?.getD 0).toUInt32) 0

def schedule (block : ByteArray) : Array UInt32 :=
  (List.range 64).foldl (fun words k =>
    words.push (rotateLeft (words.getD (k + 13) 0 ^^^ words.getD (k + 8) 0 ^^^
      words.getD (k + 2) 0 ^^^ words.getD k 0) 1)) (blockWords block)

def mix (round : Nat) (b c d : UInt32) : UInt32 × UInt32 :=
  if round < 20 then ((b &&& c) ||| (~~~b &&& d), 0x5a827999)
  else if round < 40 then (b ^^^ c ^^^ d, 0x6ed9eba1)
  else if round < 60 then ((b &&& c) ||| (b &&& d) ||| (c &&& d), 0x8f1bbcdc)
  else (b ^^^ c ^^^ d, 0xca62c1d6)

def Chain.step (words : Array UInt32) (chain : Chain) (round : Nat) : Chain :=
  let (mixed, constant) := mix round chain.b chain.c chain.d
  let first := rotateLeft chain.a 5 + mixed + chain.e + constant + words.getD round 0
  ⟨first, chain.a, rotateLeft chain.b 30, chain.c, chain.d⟩

def Chain.compress (chain : Chain) (block : ByteArray) : Chain :=
  chain.add ((List.range 80).foldl (Chain.step (schedule block)) chain)

structure Hasher where
  chain : Chain
  pending : ByteArray
  length : Nat

namespace Hasher

def initial : Hasher := ⟨.initial, .empty, 0⟩

def absorb (hasher : Hasher) (byte : UInt8) : Hasher :=
  let pending := hasher.pending.push byte
  if pending.size = 64 then ⟨hasher.chain.compress pending, .empty, hasher.length + 1⟩
  else ⟨hasher.chain, pending, hasher.length + 1⟩

def update (hasher : Hasher) (piece : ByteArray) : Hasher :=
  piece.data.foldl absorb hasher

theorem update_append (hasher : Hasher) (left right : ByteArray) :
    hasher.update (left ++ right) = (hasher.update left).update right := by
  simp [update, ByteArray.data_append]

end Hasher

/-- What is added to a message of the given length: a mark, zeros up to eight bytes before the end
of a block, and the length in bits. -/
def padding (length : Nat) : List UInt8 :=
  [0x80] ++ List.replicate ((119 - length % 64) % 64) 0 ++
    (List.range 8).map fun i => UInt8.ofNat (8 * length / Nat.pow 2 (8 * (7 - i)))

def bytesOfWord (word : UInt32) : List UInt8 :=
  (List.range 4).map fun i => (word >>> UInt32.ofNat (8 * (3 - i))).toUInt8

def Chain.bytes (chain : Chain) : List UInt8 :=
  [chain.a, chain.b, chain.c, chain.d, chain.e].flatMap bytesOfWord

def Hasher.finish (hasher : Hasher) : List UInt8 :=
  ((padding hasher.length).foldl absorb hasher).chain.bytes

def hex (message : ByteArray) : String :=
  Text.hexOfBytes (Hasher.initial.update message).finish

end PackageAssay.Sha1

import PackageAssay.Digest.Sha1

/-!
# Digests of files that are read in pieces

A file is read into one buffer, again and again, until a read brings nothing more. A read may bring
less than the buffer takes; behind its bytes there lies what earlier reads have left.
-/

set_option autoImplicit false

namespace PackageAssay.Sha1

def blockSize : Nat := 1 <<< 20

def freshBuffer : ByteArray := ⟨Array.replicate blockSize 0⟩

def readInto (buffer piece : ByteArray) : Nat × ByteArray :=
  let count := min piece.size buffer.size
  (count, piece.copySlice 0 buffer 0 count)

/-- Hands on what one read after the other brings to the buffer, until one brings nothing. There is
no result as long as no read has come back empty. -/
def foldReads {σ : Type} (update : σ → ByteArray → σ) (buffer : ByteArray) (state : σ) :
    List ByteArray → Option σ
  | [] => none
  | piece :: later =>
      let (count, buffer) := readInto buffer piece
      if count = 0 then some state
      else foldReads update buffer (update state (buffer.extract 0 count)) later

def hexOfReads (reads : List ByteArray) : Option String :=
  (foldReads Hasher.update freshBuffer .initial reads).map fun hasher =>
    Text.hexOfBytes hasher.finish

/-- The content cut into pieces that fill the buffer, a shorter one, and an empty one. -/
def blocks (content : ByteArray) : List ByteArray :=
  (List.range (content.size / blockSize + 2)).map fun i =>
    content.extract (i * blockSize) ((i + 1) * blockSize)

end PackageAssay.Sha1

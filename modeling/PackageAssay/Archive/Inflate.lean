import PackageAssay.Files.Fault

/-!
# Compressed data

Data is compressed in blocks. A block is stored as it is, or it is a row of symbols that stand for
single bytes and for repetitions of what came before. Reading keeps what was read before a fault.
-/

set_option autoImplicit false

namespace PackageAssay.Inflate

structure Source where
  bytes : ByteArray
  taken : Nat

abbrev Reader := StateT Source (Except Fault)

def readBit : Reader Nat := fun source =>
  match source.bytes[source.taken / 8]? with
  | none => .error .incompleteStream
  | some byte =>
      .ok ((byte.toNat >>> (source.taken % 8)) % 2, { source with taken := source.taken + 1 })

def readBits : Nat → Reader Nat
  | 0 => pure 0
  | count + 1 => do
      let low ← readBit
      return low + 2 * (← readBits count)

def skipToByte : Reader Unit :=
  modify fun source => { source with taken := (source.taken + 7) / 8 * 8 }

/-- A code is given by how many symbols have a code word of each length, from one bit on, and by
the symbols in the order of their code words. -/
structure Code where
  counts : List Nat
  symbols : Array Nat

/-- How many code words of the greatest length are left over, or nothing if there are too many. -/
def unused : Nat → List Nat → Option Nat
  | room, [] => some room
  | room, count :: rest => if 2 * room < count then none else unused (2 * room - count) rest

/-- The code in which the symbols have code words of the given lengths; zero stands for none. Words
may be unused only if there is no symbol, or a single one with a word of one bit. -/
def Code.ofLengths? (lengths : List Nat) : Option Code :=
  let longest := lengths.foldl max 1
  let positions := (List.range longest).map (· + 1)
  let ordered := positions.flatMap fun length =>
    (lengths.zipIdx.filter fun entry => entry.1 = length).map Prod.snd
  let counts := positions.map fun length => lengths.count length
  match unused 1 counts with
  | none => none
  | some left =>
      if left = 0 ∨ ordered = [] ∨ counts = [1] then some ⟨counts, ordered.toArray⟩ else none

/-- Reads on in a code word. The word so far has a value, the first word of its length has one, and
so many symbols have shorter words. -/
def readWord (symbols : Array Nat) : List Nat → Nat → Nat → Nat → Reader Nat
  | [], _, _, _ => throw .corruptStream
  | count :: rest, word, first, shorter => do
      let word := 2 * word + (← readBit)
      let first := 2 * first
      -- The words of this length are the numbers from the first one on.
      if word < first + count then
        match symbols[shorter + (word - first)]? with
        | some symbol => return symbol
        | none => throw .corruptStream
      else readWord symbols rest word (first + count) (shorter + count)

def Code.read (code : Code) : Reader Nat := readWord code.symbols code.counts 0 0 0

structure BlockCodes where
  literals : Code
  distances : Code

def fixedCodes? : Option BlockCodes := do
  let literals ← Code.ofLengths? (List.replicate 144 8 ++ List.replicate 112 9 ++
    List.replicate 24 7 ++ List.replicate 8 8)
  let distances ← Code.ofLengths? (List.replicate 32 5)
  return ⟨literals, distances⟩

def lengthOrder : List Nat := [16, 17, 18, 0, 8, 7, 9, 6, 10, 5, 11, 4, 12, 3, 13, 2, 14, 1, 15]

def readLengths (code : Code) (wanted : Nat) : Nat → List Nat → Reader (List Nat)
  | 0, _ => throw .corruptStream
  | fuel + 1, lengths => do
      if wanted < lengths.length then throw .corruptStream
      if lengths.length = wanted then return lengths.reverse
      let symbol ← code.read
      if symbol < 16 then readLengths code wanted fuel (symbol :: lengths)
      else
        let (repeated, count) ← (do
          if symbol = 16 then
            match lengths with
            | last :: _ => return (last, 3 + (← readBits 2))
            | [] => throw .corruptStream
          else if symbol = 17 then return (0, 3 + (← readBits 3))
          else return (0, 11 + (← readBits 7)) : Reader (Nat × Nat))
        readLengths code wanted fuel (List.replicate count repeated ++ lengths)

def maxLiterals : Nat := 286

def maxDistances : Nat := 30

def codeOfLengths (lengths : List Nat) : Reader Code :=
  match Code.ofLengths? lengths with
  | some code => pure code
  | none => throw .corruptStream

def readCodes : Reader BlockCodes := do
  let literalCount := 257 + (← readBits 5)
  let distanceCount := 1 + (← readBits 5)
  let givenCount := 4 + (← readBits 4)
  if maxLiterals < literalCount ∨ maxDistances < distanceCount then throw .corruptStream
  let given ← (lengthOrder.take givenCount).mapM fun symbol => do
    return (symbol, ← readBits 3)
  let code ← codeOfLengths ((List.range 19).map fun symbol => (given.lookup symbol).getD 0)
  -- A code for code lengths leaves no word unused, so it has at least two symbols.
  if code.symbols.size < 2 then throw .corruptStream
  let wanted := literalCount + distanceCount
  let lengths ← readLengths code wanted (wanted + 1) []
  return ⟨← codeOfLengths (lengths.take literalCount), ← codeOfLengths (lengths.drop literalCount)⟩

def readLength (symbol : Nat) : Reader Nat :=
  if symbol < 8 then pure (3 + symbol)
  else if symbol < 28 then do
    let extra := symbol / 4 - 1
    return 3 + ((4 + symbol % 4) <<< extra) + (← readBits extra)
  else if symbol = 28 then pure 258
  else throw .corruptStream

def readDistance (symbol : Nat) : Reader Nat :=
  if symbol < 2 then pure (1 + symbol)
  else if symbol < 30 then do
    let extra := symbol / 2 - 1
    return 1 + ((2 + symbol % 2) <<< extra) + (← readBits extra)
  else throw .corruptStream

def windowSize : Nat := 32768

def byteBack (distance : Nat) (output : ByteArray) : UInt8 :=
  if distance ≤ output.size then output[output.size - distance]?.getD 0 else 0

/-- Appends bytes that stand at a distance from the end; they may be bytes that were just
appended. -/
def repeatBytes (distance : Nat) : Nat → ByteArray → ByteArray
  | 0, output => output
  | count + 1, output => repeatBytes distance count (output.push (byteBack distance output))

inductive Item where
  | byte (value : UInt8)
  | repetition (length distance : Nat)
  | blockEnd

def readItem (codes : BlockCodes) : Reader Item := do
  let symbol ← codes.literals.read
  if symbol < 256 then return .byte (UInt8.ofNat symbol)
  else if symbol = 256 then return .blockEnd
  else
    let length ← readLength (symbol - 257)
    return .repetition length (← readDistance (← codes.distances.read))

structure Inflated where
  output : ByteArray
  source : Source
  failure : Option Fault

/-- Reads the items of a block. Each takes at least a bit, which bounds their number. -/
def readItems (codes : BlockCodes) : Nat → ByteArray → Source → Inflated
  | 0, output, source => ⟨output, source, some .incompleteStream⟩
  | fuel + 1, output, source =>
      match readItem codes source with
      | .error fault => ⟨output, source, some fault⟩
      | .ok (.blockEnd, source) => ⟨output, source, none⟩
      | .ok (.byte value, source) => readItems codes fuel (output.push value) source
      | .ok (.repetition length distance, source) =>
          readItems codes fuel (repeatBytes distance length output) source

def readStored (output : ByteArray) (source : Source) : Inflated :=
  let header : Reader (Nat × Nat) := do
    skipToByte
    return (← readBits 16, ← readBits 16)
  match header source with
  | .error fault => ⟨output, source, some fault⟩
  | .ok ((size, complement), source) =>
      if size + complement ≠ 0xffff then ⟨output, source, some .corruptStream⟩
      else
        let start := source.taken / 8
        let piece := source.bytes.extract start (start + size)
        ⟨output ++ piece, { source with taken := source.taken + 8 * piece.size },
          if piece.size = size then none else some .incompleteStream⟩

def readBlock (fuel : Nat) (output : ByteArray) (source : Source) : Bool × Inflated :=
  match (do return (← readBit, ← readBits 2) : Reader (Nat × Nat)) source with
  | .error fault => (true, ⟨output, source, some fault⟩)
  | .ok ((last, kind), source) =>
      let codes : Reader BlockCodes :=
        if kind = 1 then
          match fixedCodes? with
          | some codes => pure codes
          | none => throw .corruptStream
        else if kind = 2 then readCodes
        else throw .corruptStream
      let block :=
        if kind = 0 then readStored output source
        else
          match codes source with
          | .error fault => ⟨output, source, some fault⟩
          | .ok (codes, source) => readItems codes fuel output source
      (last == 1, block)

def readBlocks (itemFuel : Nat) : Nat → ByteArray → Source → Inflated
  | 0, output, source => ⟨output, source, some .incompleteStream⟩
  | fuel + 1, output, source =>
      let (last, block) := readBlock itemFuel output source
      if last || block.failure.isSome then block
      else readBlocks itemFuel fuel block.output block.source

def inflate (bytes : ByteArray) (start : Nat) : Inflated :=
  let bits := 8 * bytes.size + 1
  readBlocks bits bits .empty ⟨bytes, 8 * start⟩

end PackageAssay.Inflate

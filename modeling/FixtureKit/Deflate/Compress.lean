import FixtureKit.Bytes
import FixtureKit.Deflate.Match

/-!
# Writing Compressed Data

Data is cut into segments, each of which becomes blocks of its own: one block of tokens in the
fixed code if that is shorter, or one block of the bytes as they are. A block of tokens is followed
by an empty block of bytes, so that every segment fills whole bytes, and the stream ends with an
empty last block.
-/

namespace FixtureKit

namespace Deflate

/-! ### Words of tokens -/

/-- The words of the fixed code for literals and lengths, by symbol. -/
def fixedWords : Array (List Bool) :=
  (Code.wordsOfLengths fixedLiteralLengths).foldl
    (fun words entry => words.setIfInBounds entry.1 entry.2) (Array.replicate 288 [])

/-- The word of a symbol in the fixed code for literals and lengths. -/
def fixedWord (symbol : Nat) : List Bool :=
  (fixedWords[symbol]?).getD []

/-- The last row of a table, with its number, whose values include `n`. -/
def rowOf (table : List (Nat × Nat)) (n : Nat) : Option ((Nat × Nat) × Nat) :=
  table.zipIdx.reverse.find? fun row => row.1.1 ≤ n && n < row.1.1 + 1 <<< row.1.2

/-- The bits of a token in the fixed code. -/
def Token.bits : Token → List Bool
  | .literal b => fixedWord b.toNat
  | .copy length distance =>
    match rowOf lengthTable length, rowOf distanceTable distance with
    | some ((shortest, lengthBits), symbol), some ((nearest, distanceBits), distanceSymbol) =>
      fixedWord (257 + symbol) ++ Bits.bitsOfNat lengthBits (length - shortest) ++
        Code.wordOfNat 5 distanceSymbol ++ Bits.bitsOfNat distanceBits (distance - nearest)
    | _, _ => []

/-- About how many bits a token takes, by which the kind of a block is chosen. -/
def Token.cost : Token → Nat
  | .literal b => if b < 144 then 8 else 9
  | .copy _ _ => 25

/-! ### Segments -/

/-- The number of bytes in a segment, a little more than 31 KiB. A block of bytes can hold 65535. -/
def segmentSize : Nat := 31745

/-- The head of an empty block of bytes behind a whole number of bytes: no bytes, and the
complement of that. -/
def emptyBody : ByteArray :=
  ⟨#[0x00, 0x00, 0xFF, 0xFF]⟩

/-- A block of bytes as they are, not the last. -/
def storedBlock (data : ByteArray) : ByteArray :=
  (0x00 :: Bytes.littleEndian 2 data.size ++ Bytes.littleEndian 2 (0xFFFF - data.size)).toByteArray
    ++ data

/-- A block of tokens in the fixed code, not the last, and an empty block of bytes. -/
def fixedBlock (tokens : List Token) : ByteArray :=
  Bits.pack
      (false :: true :: false :: tokens.flatMap Token.bits ++ fixedWord endOfBlock ++
        [false, false, false]) ++
    emptyBody

/-- The blocks of the segment between two places. -/
def segment (data : ByteArray) (start stop : Nat) : ByteArray :=
  let found := tokens data start stop
  let cost := found.foldl (fun sum token => sum + token.cost) 0
  if cost < 8 * (stop - start) then
    fixedBlock found
  else
    storedBlock (data.extract start stop)

/-- Appends the segments from a place on. -/
def segments (data : ByteArray) (start : Nat) (output : ByteArray) : ByteArray :=
  if start < data.size then
    let stop := min data.size (start + segmentSize)
    segments data stop (output ++ segment data start stop)
  else
    output
termination_by data.size - start
decreasing_by
  have : 0 < segmentSize := by decide
  omega

/-- The compressed form of data. -/
def compress (data : ByteArray) : ByteArray :=
  (segments data 0 ByteArray.empty).push 0x01 ++ emptyBody

end Deflate

end FixtureKit

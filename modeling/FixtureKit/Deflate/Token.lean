import FixtureKit.Deflate.Code

/-!
# Literals and Copies

Compressed data is a row of tokens: a byte as it is, or a copy of bytes that came before. The
alphabets in which tokens are written, and the code with fixed words for them, are the same for
reading and for writing.
-/

namespace FixtureKit

namespace Deflate

/-- A piece of compressed data. -/
inductive Token
  /-- One byte. -/
  | literal (b : UInt8)
  /-- As many bytes as `length` says, the first from `distance` bytes back. -/
  | copy (length distance : Nat)
  deriving DecidableEq

/-- Appends `count` bytes, each the byte that is then `distance` bytes back. -/
def copyBack (distance : Nat) : (count : Nat) → ByteArray → ByteArray
  | 0, output => output
  | count + 1, output =>
    let b := if h : output.size - distance < output.size then output[output.size - distance] else 0
    copyBack distance count (output.push b)

/-- Appends what a token stands for. -/
def Token.apply (output : ByteArray) : Token → ByteArray
  | .literal b => output.push b
  | .copy length distance => copyBack distance length output

/-! ### Alphabets -/

/-- The symbol that ends a block. -/
def endOfBlock : Nat := 256

/-- For each length symbol, 257 being the first, the shortest length and the number of extra
bits. -/
def lengthTable : List (Nat × Nat) :=
  [(3, 0), (4, 0), (5, 0), (6, 0), (7, 0), (8, 0), (9, 0), (10, 0),
   (11, 1), (13, 1), (15, 1), (17, 1), (19, 2), (23, 2), (27, 2), (31, 2),
   (35, 3), (43, 3), (51, 3), (59, 3), (67, 4), (83, 4), (99, 4), (115, 4),
   (131, 5), (163, 5), (195, 5), (227, 5), (258, 0)]

/-- For each distance symbol the shortest distance and the number of extra bits. -/
def distanceTable : List (Nat × Nat) :=
  [(1, 0), (2, 0), (3, 0), (4, 0), (5, 1), (7, 1), (9, 2), (13, 2), (17, 3), (25, 3),
   (33, 4), (49, 4), (65, 5), (97, 5), (129, 6), (193, 6), (257, 7), (385, 7), (513, 8), (769, 8),
   (1025, 9), (1537, 9), (2049, 10), (3073, 10), (4097, 11), (6145, 11), (8193, 12), (12289, 12),
   (16385, 13), (24577, 13)]

/-! ### The fixed code -/

/-- The word lengths of the fixed code for literals and lengths. -/
def fixedLiteralLengths : List Nat :=
  List.replicate 144 8 ++ List.replicate 112 9 ++ List.replicate 24 7 ++ List.replicate 8 8

/-- The word lengths of the fixed code for distances. -/
def fixedDistanceLengths : List Nat :=
  List.replicate 32 5

/-- The fixed code for literals and lengths. -/
def fixedLiterals : Code := .ofLengths fixedLiteralLengths

/-- The fixed code for distances. -/
def fixedDistances : Code := .ofLengths fixedDistanceLengths

end Deflate

end FixtureKit

import FixtureKit.Deflate.Compress

/-!
# Encoders

Compressed data can be written in many ways, and the format asks of an encoder no more than that a
decoder gets the data back. Data comes to it in pieces. What it has made of the pieces so far it may
hand on at once or hold back, up to the end of the data, and in which portions it hands on is its
own affair too. Archives are written with any encoder; the one at hand ends a block with every
segment.

## Conventions

* The encoder at hand looks two bytes ahead for copies, so a segment is finished when the two bytes
  behind it have come.
* What is finished with one piece is handed on when the next one comes, or at the end.
-/

namespace FixtureKit

namespace Deflate

/-- A way to compress data that comes in pieces. -/
class Encoder where
  /-- What data has become at its end. -/
  compress : ByteArray → ByteArray
  /-- What is handed on, portion by portion, when a piece comes behind others. -/
  handOn : List ByteArray → ByteArray → List ByteArray

/-- Appends the segments from a place on that stay as they are when more data comes. -/
def finishedSegments (data : ByteArray) (start : Nat) (output : ByteArray) : ByteArray :=
  if start + segmentSize + 2 ≤ data.size then
    finishedSegments data (start + segmentSize)
      (output ++ segment data start (start + segmentSize))
  else
    output
termination_by data.size - start
decreasing_by
  have : 0 < segmentSize := by decide
  omega

/-- The segments that are finished with some data. -/
def finished (data : ByteArray) : ByteArray :=
  finishedSegments data 0 ByteArray.empty

/-- The encoder at hand. -/
instance : Encoder where
  compress := Deflate.compress
  handOn taken _ :=
    let before := finished (Bytes.join taken.dropLast)
    let now := finished (Bytes.join taken)
    if before.size < now.size then [now.extract before.size now.size] else []

end Deflate

end FixtureKit

import FixtureKit.Deflate.Token

/-!
# Finding Copies

Data is turned into tokens from left to right. At each place the last place with the same three
bytes, as far as a hash can tell, is a candidate for a copy; the bytes of a candidate are compared
before a copy is made of it, so that a wrong candidate costs length and never truth.

## Main results

* `getElem_of_lt_matchLength` — the bytes that a match covers are equal one by one.
-/

namespace FixtureKit

namespace Deflate

/-- The shortest and the longest copy, and the longest way back. -/
def shortestCopy : Nat := 3

/-- The longest copy. -/
def longestCopy : Nat := 258

/-- The longest way back. -/
def window : Nat := 32768

/-- The number of places that are remembered. -/
def memorySize : Nat := 16384

/-- The byte at a place, zero behind the end. -/
@[inline]
def byteAt (data : ByteArray) (place : Nat) : UInt8 :=
  if h : place < data.size then data[place] else 0

/-- A number below `memorySize` made of the three bytes at a place. -/
@[inline]
def hash (data : ByteArray) (place : Nat) : Nat :=
  let a := (byteAt data place).toUInt32
  let b := (byteAt data (place + 1)).toUInt32
  let c := (byteAt data (place + 2)).toUInt32
  ((((a <<< 12) ^^^ (b <<< 6) ^^^ c) * (2654435761 : UInt32)) >>> 18).toNat

/-- How many of at most `limit` bytes are the same from two places on. -/
def matchLength (data : ByteArray) : (first second limit : Nat) → Nat
  | _, _, 0 => 0
  | first, second, limit + 1 =>
    if byteAt data first = byteAt data second then
      matchLength data (first + 1) (second + 1) limit + 1
    else
      0

/-- No more is compared than the limit allows. -/
theorem matchLength_le (data : ByteArray) (first second limit : Nat) :
    matchLength data first second limit ≤ limit := by
  induction limit generalizing first second with
  | zero => simp [matchLength]
  | succ limit ih =>
    rw [matchLength]
    split
    · have := ih (first + 1) (second + 1)
      omega
    · omega

/-- The bytes that a match covers are equal one by one. -/
theorem getElem_of_lt_matchLength {data : ByteArray} {first second limit i : Nat}
    (h : i < matchLength data first second limit) :
    byteAt data (first + i) = byteAt data (second + i) := by
  induction limit generalizing first second i with
  | zero => simp [matchLength] at h
  | succ limit ih =>
    rw [matchLength] at h
    split at h
    · next same =>
      cases i with
      | zero => exact same
      | succ i =>
        have : byteAt data (first + 1 + i) = byteAt data (second + 1 + i) := ih (by omega)
        rwa [Nat.add_right_comm, Nat.add_right_comm second] at this
    · omega

/-- How far a copy from the remembered place goes. A memory of zero is none, any other is one more
than a place. -/
@[inline]
def copyLength (data : ByteArray) (start stop place memory : Nat) : Nat :=
  if start < memory ∧ memory ≤ place ∧ place + 1 - memory ≤ window then
    matchLength data (memory - 1) place (min longestCopy (stop - place))
  else
    0

/-- A copy that is found does not go beyond the end of its segment. -/
theorem copyLength_le (data : ByteArray) (start stop place memory : Nat) :
    copyLength data start stop place memory ≤ stop - place := by
  unfold copyLength
  split
  · exact Nat.le_trans (matchLength_le _ _ _ _) (Nat.min_le_right _ _)
  · omega

/-- The tokens from a place on, put before those that were found already, the last first. -/
def findTokens (data : ByteArray) (start stop place : Nat) (memory : Array Nat)
    (found : List Token) : List Token :=
  if place < stop then
    let key := hash data place
    let last := memory[key]?.getD 0
    let memory := memory.setIfInBounds key (place + 1)
    let length := copyLength data start stop place last
    if shortestCopy ≤ length then
      findTokens data start stop (place + length) memory
        (.copy length (place + 1 - last) :: found)
    else
      findTokens data start stop (place + 1) memory (.literal (byteAt data place) :: found)
  else
    found.reverse
termination_by stop - place
decreasing_by
  · have : 3 ≤ shortestCopy := Nat.le_refl 3
    change stop - (place + length) < stop - place
    omega
  · omega

/-- The tokens of the bytes between two places. A copy does not reach back before the first. -/
def tokens (data : ByteArray) (start stop : Nat) : List Token :=
  findTokens data start stop start (Array.replicate memorySize 0) []

end Deflate

end FixtureKit

import FixtureKit.FileSystem.IoError

/-!
# Bit Streams in Bytes

A stream of bits is kept in bytes, the first bit of a byte in its lowest place. A reader is a
position counted in bits. `pack` writes a list of bits and fills up the last byte with zeros.

## Main results

* `lt_of_bit?` — a bit that is read is inside the bytes.
-/

namespace FixtureKit

namespace Bits

/-! ### Reading -/

/-- The bit at a position, if it is inside the bytes. -/
@[inline]
def bit? (input : ByteArray) (position : Nat) : Option Bool :=
  if h : position / 8 < input.size then
    some ((input[position / 8] >>> UInt8.ofNat (position % 8)) &&& 1 == 1)
  else
    none

/-- The number whose `count` bits, the lowest first, start at a position. -/
def readNumber (input : ByteArray) : (position count : Nat) → Except IoError Nat
  | _, 0 => .ok 0
  | position, count + 1 =>
    match bit? input position with
    | none => .error .incompleteStream
    | some b =>
      match readNumber input (position + 1) count with
      | .error e => .error e
      | .ok rest => .ok (b.toNat + 2 * rest)

/-- A bit that can be read stands inside the input. -/
theorem lt_of_bit? {input : ByteArray} {position : Nat} {b : Bool}
    (h : bit? input position = some b) : position < 8 * input.size := by
  unfold bit? at h
  split at h
  · next inside => omega
  · cases h

/-- A number that can be read ends inside the input. -/
theorem le_of_readNumber {input : ByteArray} {position count n : Nat}
    (start : position ≤ 8 * input.size) (h : readNumber input position count = .ok n) :
    position + count ≤ 8 * input.size := by
  induction count generalizing position n with
  | zero => exact start
  | succ count ih =>
    rw [readNumber] at h
    split at h
    · cases h
    · next b hbit =>
      have inside := lt_of_bit? hbit
      split at h
      · cases h
      · next rest hrest =>
        have : position + 1 + count ≤ 8 * input.size := ih (by omega) hrest
        omega

/-! ### Writing -/

/-- The `count` low bits of a number, the lowest first. -/
def bitsOfNat : (count n : Nat) → List Bool
  | 0, _ => []
  | count + 1, n => (n % 2 == 1) :: bitsOfNat count (n / 2)

/-- A number is written in as many bits as are asked for. -/
theorem length_bitsOfNat (count n : Nat) : (bitsOfNat count n).length = count := by
  induction count generalizing n with
  | zero => rfl
  | succ count ih => simp [bitsOfNat, ih]

/-- Appends bits to bytes, with `count` bits already waiting in the byte `waiting`. -/
def packFrom (output : ByteArray) (waiting : UInt8) (count : Nat) : List Bool → ByteArray
  | [] => if count = 0 then output else output.push waiting
  | b :: bits =>
    let waiting := if b then waiting ||| (1 <<< UInt8.ofNat count) else waiting
    if count = 7 then
      packFrom (output.push waiting) 0 0 bits
    else
      packFrom output waiting (count + 1) bits

/-- The bytes that hold a list of bits. -/
def pack (bits : List Bool) : ByteArray :=
  packFrom ByteArray.empty 0 0 bits

end Bits

end FixtureKit

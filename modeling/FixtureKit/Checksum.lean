import FixtureKit.Bytes

/-!
# The CRC-32 Checksum

The register starts with all bits set, takes the bytes in order, lowest bit first, and is
complemented at the end. One byte is eight single-bit shifts of the register, each of which adds
the reversed generator polynomial when a one bit falls out.

## Main results

* `crc32_eq_foldl` — the checksum is a left fold of the byte step over the bytes.
-/

namespace FixtureKit

namespace Crc32

/-- The generator polynomial, its highest power in the lowest bit. -/
def polynomial : UInt32 := 0xEDB88320

/-- The register after one bit. -/
@[inline]
def shift (register : UInt32) : UInt32 :=
  (register >>> 1) ^^^ (polynomial &&& (0 - (register &&& 1)))

/-- The register after one byte. -/
@[inline]
def step (register : UInt32) (b : UInt8) : UInt32 :=
  shift <| shift <| shift <| shift <| shift <| shift <| shift <| shift (register ^^^ b.toUInt32)

/-- The register after the bytes from `start` on. -/
def run (bytes : ByteArray) (register : UInt32) (start : Nat) : UInt32 :=
  if h : start < bytes.size then
    run bytes (step register bytes[start]) (start + 1)
  else
    register
termination_by bytes.size - start

/-- Running over the bytes from a start on is folding the step of the register along the rest of
them. -/
theorem run_eq_foldl (bytes : ByteArray) (register : UInt32) (start : Nat) :
    run bytes register start = (bytes.data.toList.drop start).foldl step register := by
  fun_induction run bytes register start with
  | case1 register start h ih =>
    have inside : start < bytes.data.toList.length := by simpa using h
    rw [ih, List.drop_eq_getElem_cons inside, List.foldl_cons]
    rfl
  | case2 register start h =>
    have outside : bytes.data.toList.length ≤ start := by simpa using h
    rw [List.drop_eq_nil_of_le outside, List.foldl_nil]

end Crc32

/-- The CRC-32 of `bytes`. -/
def crc32 (bytes : ByteArray) : UInt32 :=
  Crc32.run bytes 0xFFFFFFFF 0 ^^^ 0xFFFFFFFF

/-- The checksum is a left fold of the byte step over the bytes. -/
theorem crc32_eq_foldl (bytes : ByteArray) :
    crc32 bytes = bytes.data.toList.foldl Crc32.step 0xFFFFFFFF ^^^ 0xFFFFFFFF := by
  rw [crc32, Crc32.run_eq_foldl, List.drop_zero]

end FixtureKit

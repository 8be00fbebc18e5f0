/-!
# Bytes, Slices and Little-Endian Numbers

File contents are `ByteArray`s. Records inside them are described field by field: a field is a
width in bytes and a value, and `fields` writes a row of them. Numbers are little-endian of any
width, with `ofLittleEndian` reading back what `littleEndian` writes.

## Main results

* `ofLittleEndian_littleEndian` — a number that fits its width reads back.
* `findFirst_eq_some`, `findLast_eq_some` — a search answers a place where the mark stands.
-/

namespace FixtureKit

/-- Byte arrays are compared byte by byte. -/
instance Bytes.decidableEq : DecidableEq ByteArray := ByteArray.decEq

namespace Bytes

/-! ### Numbers -/

/-- The `width` low bytes of `value`, the lowest first. -/
def littleEndian : (width value : Nat) → List UInt8
  | 0, _ => []
  | width + 1, value => UInt8.ofNat value :: littleEndian width (value / 256)

/-- The number whose bytes, the lowest first, are given. -/
def ofLittleEndian : List UInt8 → Nat
  | [] => 0
  | b :: bs => b.toNat + 256 * ofLittleEndian bs

/-- A number is written in as many bytes as its width says, even if it needs more. -/
theorem length_littleEndian (width value : Nat) : (littleEndian width value).length = width := by
  induction width generalizing value with
  | zero => rfl
  | succ width ih => simp [littleEndian, ih]

/-- A number that fits its width reads back. -/
theorem ofLittleEndian_littleEndian (width value : Nat) (h : value < Nat.pow 256 width) :
    ofLittleEndian (littleEndian width value) = value := by
  induction width generalizing value with
  | zero =>
    have : value = 0 := Nat.lt_one_iff.1 h
    simp [littleEndian, ofLittleEndian, this]
  | succ width ih =>
    have hdiv : value / 256 < Nat.pow 256 width := by
      apply Nat.div_lt_of_lt_mul
      rw [Nat.mul_comm]
      exact h
    simp only [littleEndian, ofLittleEndian, ih _ hdiv, UInt8.toNat_ofNat']
    omega

/-- A row of fields, each a width in bytes and a value. -/
def fields (row : List (Nat × Nat)) : List UInt8 :=
  row.flatMap fun field => littleEndian field.1 field.2

/-! ### Pieces -/

/-- Pieces put together. -/
def join (pieces : List ByteArray) : ByteArray :=
  pieces.foldr (· ++ ·) ByteArray.empty

/-- No pieces are no bytes. -/
@[simp]
theorem join_nil : join [] = ByteArray.empty := rfl

/-- The first piece stands in front of the others. -/
@[simp]
theorem join_cons (piece : ByteArray) (pieces : List ByteArray) :
    join (piece :: pieces) = piece ++ join pieces := rfl

/-- Pieces in two rows are put together row by row. -/
@[simp]
theorem join_append (first second : List ByteArray) :
    join (first ++ second) = join first ++ join second := by
  induction first with
  | nil => rw [List.nil_append, join_nil, ByteArray.empty_append]
  | cons piece first ih => rw [List.cons_append, join_cons, join_cons, ih, ByteArray.append_assoc]

/-- Of joined bytes the front is cut from the first ones, as far as they go. -/
theorem extract_append_of_le {front : ByteArray} {start stop : Nat} (hstart : start ≤ stop)
    (hstop : stop ≤ front.size) (back : ByteArray) :
    (front ++ back).extract start stop = front.extract start stop := by
  rw [ByteArray.extract_append, Nat.sub_eq_zero_of_le (Nat.le_trans hstart hstop),
    Nat.sub_eq_zero_of_le hstop, ByteArray.extract_same, ByteArray.append_empty]

/-- Of joined bytes a longer front is the first ones and the front of the others. -/
theorem extract_append_of_ge {front : ByteArray} {stop : Nat} (h : front.size ≤ stop)
    (back : ByteArray) :
    (front ++ back).extract 0 stop = front ++ back.extract 0 (stop - front.size) := by
  have hfront : front.extract 0 stop = front := by
    rw [← Nat.max_eq_left h, ByteArray.extract_zero_max_size]
  rw [ByteArray.extract_append, hfront, Nat.zero_sub]

/-! ### Reading -/

/-- The `len` bytes from `start` on, fewer if the array ends before. -/
def slice (bytes : ByteArray) (start len : Nat) : ByteArray :=
  bytes.extract start (min bytes.size (start + len))

/-- Bytes cut or filled up with zeros to a size. -/
def resized (bytes : ByteArray) (size : Nat) : ByteArray :=
  bytes.extract 0 size ++ ⟨Array.replicate (size - bytes.size) 0⟩

/-- Resized bytes are of the size that was asked for. -/
theorem size_resized (bytes : ByteArray) (size : Nat) : (resized bytes size).size = size := by
  have filler : ByteArray.size ⟨Array.replicate (size - bytes.size) 0⟩ = size - bytes.size :=
    Array.size_replicate
  rw [resized, ByteArray.size_append, ByteArray.size_extract, filler]
  omega

/-- The number of `width` bytes at `start`, if all of them are inside the array. -/
def number? (bytes : ByteArray) (start width : Nat) : Option Nat :=
  if start + width ≤ bytes.size then
    some (ofLittleEndian (slice bytes start width).data.toList)
  else
    none

/-- The number of `width` bytes at `start`; bytes beyond the end are not counted. -/
def number (bytes : ByteArray) (start width : Nat) : Nat :=
  ofLittleEndian (slice bytes start width).data.toList

/-- Whether the bytes of `mark` stand at `start`. -/
def hasAt (bytes : ByteArray) : (mark : List UInt8) → (start : Nat) → Bool
  | [], _ => true
  | b :: mark, start =>
    if h : start < bytes.size then
      bytes[start] == b && hasAt bytes mark (start + 1)
    else
      false

/-- The last place below `count` where `mark` stands. -/
def findLast (bytes : ByteArray) (mark : List UInt8) : (count : Nat) → Option Nat
  | 0 => none
  | count + 1 => if hasAt bytes mark count then some count else findLast bytes mark count

/-- The first of the `count` places from `start` on where `mark` stands. -/
def findFirst (bytes : ByteArray) (mark : List UInt8) (start : Nat) : (count : Nat) → Option Nat
  | 0 => none
  | count + 1 =>
    if hasAt bytes mark start then some start else findFirst bytes mark (start + 1) count

/-- A mark that is found last stands where it was looked for, and before the end of the search. -/
theorem findLast_eq_some {bytes : ByteArray} {mark : List UInt8} {count place : Nat}
    (h : findLast bytes mark count = some place) :
    place < count ∧ hasAt bytes mark place = true := by
  induction count with
  | zero => simp [findLast] at h
  | succ count ih =>
    rw [findLast] at h
    split at h
    · next hit => obtain rfl := Option.some.inj h; exact ⟨Nat.lt_succ_self _, hit⟩
    · exact ⟨Nat.lt_succ_of_lt (ih h).1, (ih h).2⟩

/-- A mark that is found first stands within the range that was searched. -/
theorem findFirst_eq_some {bytes : ByteArray} {mark : List UInt8} {start count place : Nat}
    (h : findFirst bytes mark start count = some place) :
    start ≤ place ∧ place < start + count ∧ hasAt bytes mark place = true := by
  induction count generalizing start with
  | zero => simp [findFirst] at h
  | succ count ih =>
    rw [findFirst] at h
    split at h
    · next hit => obtain rfl := Option.some.inj h; exact ⟨Nat.le_refl _, by omega, hit⟩
    · obtain ⟨h₁, h₂, h₃⟩ := ih h
      exact ⟨by omega, by omega, h₃⟩

end Bytes

end FixtureKit

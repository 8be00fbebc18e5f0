import FixtureKit.Bytes
import Mathlib.Algebra.Ring.Nat

/-!
# What Stands Where in a Byte Array

A reader of records asks for single numbers and signatures at computed places, while a
writer lays out whole pieces one behind the other. `StandsAt bytes piece start` joins the
two: the bytes of `piece` are those of the array from `start` on. The relation splits
along `++`, so a record that stands somewhere gives every field of it at its own place,
and each reading function is settled once by what stands where it looks.

## Main results

* `standsAt_append`: a piece in two parts stands where its parts do.
* `standsAt_of_extract`, `standsAt_of_append`: cutting bytes short, or adding more behind them,
  moves nothing.
* `hasAt_eq_true_iff`: the search for a signature looks for what stands.
* `number_of_standsAt`, `slice_of_standsAt`: a number or a run of bytes that stands at a
  place is what is read there.
-/

namespace FixtureKit

namespace Bytes

/-- There are as many bytes in the list as in the array. -/
theorem length_toList (bytes : ByteArray) : bytes.data.toList.length = bytes.size := by
  rw [Array.length_toList, ByteArray.size_data]

/-- An extract, as a list, drops what is in front of it and takes its length of the rest. -/
theorem toList_extract (bytes : ByteArray) (start stop : Nat) :
    (bytes.extract start stop).data.toList =
      (bytes.data.toList.drop start).take (stop - start) := by
  rw [ByteArray.data_extract, Array.toList_extract, List.extract_eq_take_drop]

/-- The bytes of `piece` are those of the array from `start` on. -/
def StandsAt (bytes : ByteArray) (piece : List UInt8) (start : Nat) : Prop :=
  piece <+: bytes.data.toList.drop start

/-- No bytes at all stand everywhere. -/
@[simp]
theorem standsAt_nil (bytes : ByteArray) (start : Nat) : StandsAt bytes [] start :=
  List.nil_prefix

/-- A piece in two parts stands where its parts do. -/
theorem standsAt_append {bytes : ByteArray} {first second : List UInt8} {start : Nat} :
    StandsAt bytes (first ++ second) start ↔
      StandsAt bytes first start ∧ StandsAt bytes second (start + first.length) := by
  constructor
  · rintro ⟨rest, h⟩
    refine ⟨⟨second ++ rest, by rw [← h, List.append_assoc]⟩, ⟨rest, ?_⟩⟩
    rw [← List.drop_drop, ← h, List.append_assoc, List.drop_left]
  · rintro ⟨⟨behind, hfirst⟩, hsecond⟩
    rw [StandsAt, ← List.drop_drop, ← hfirst, List.drop_left] at hsecond
    rw [StandsAt, ← hfirst]
    exact (List.prefix_append_right_inj first).2 hsecond

/-- A piece that is laid out between two others stands behind the first. -/
theorem standsAt_of_eq {bytes : ByteArray} {front piece back : List UInt8} {start : Nat}
    (h : bytes.data.toList = front ++ (piece ++ back)) (hstart : start = front.length) :
    StandsAt bytes piece start := by
  subst hstart
  rw [StandsAt, h, List.drop_left]
  exact List.prefix_append piece back

/-- A piece with a byte in it ends inside the array. -/
theorem StandsAt.le_size {bytes : ByteArray} {piece : List UInt8} {start : Nat}
    (h : StandsAt bytes piece start) (ne : piece ≠ []) :
    start + piece.length ≤ bytes.size := by
  have hlength := h.length_le
  have hpositive := List.length_pos_iff.2 ne
  rw [List.length_drop, length_toList] at hlength
  omega

/-- Bytes stand somewhere exactly if the first of them does, and the others behind it. -/
theorem standsAt_cons {bytes : ByteArray} {b : UInt8} {piece : List UInt8} {start : Nat} :
    StandsAt bytes (b :: piece) start ↔
      bytes.data.toList[start]? = some b ∧ StandsAt bytes piece (start + 1) := by
  rw [StandsAt, StandsAt]
  by_cases h : start < bytes.data.toList.length
  · rw [List.drop_eq_getElem_cons h, List.cons_prefix_cons, List.getElem?_eq_getElem h]
    simp only [Option.some.injEq, eq_comm]
  · rw [List.drop_eq_nil_of_le (by omega), List.getElem?_eq_none (by omega)]
    simp

/-! ### Bytes cut short or continued -/

section Boundary

variable {bytes behind : ByteArray} {piece : List UInt8} {start : Nat}

/-- What stands in the first bytes of an array stands in the whole. -/
theorem standsAt_of_extract {length : Nat} (h : StandsAt (bytes.extract 0 length) piece start) :
    StandsAt bytes piece start := by
  rw [StandsAt, toList_extract, List.drop_zero, List.drop_take] at h
  exact h.trans (List.take_prefix _ _)

/-- What stands in an array stands there when more bytes follow. -/
theorem StandsAt.append (h : StandsAt bytes piece start) (behind : ByteArray) :
    StandsAt (bytes ++ behind) piece start := by
  rw [StandsAt, ByteArray.toList_data_append, List.drop_append]
  exact List.prefix_append_of_prefix h

/-- What stands in front of the end does not depend on the bytes that follow. -/
theorem standsAt_of_append (hend : start + piece.length ≤ bytes.size)
    (h : StandsAt (bytes ++ behind) piece start) : StandsAt bytes piece start := by
  have hinside : piece.length ≤ (bytes.data.toList.drop start).length := by
    rw [List.length_drop, length_toList]
    omega
  rw [StandsAt, ByteArray.toList_data_append, List.drop_append] at h
  exact List.prefix_of_prefix_length_le h (List.prefix_append _ _) hinside

/-- What stands behind the end stands in the bytes that follow. -/
theorem standsAt_of_append_of_le (hstart : bytes.size ≤ start)
    (h : StandsAt (bytes ++ behind) piece start) : StandsAt behind piece (start - bytes.size) := by
  rwa [StandsAt, ByteArray.toList_data_append, List.drop_append,
    List.drop_eq_nil_of_le (by rwa [length_toList]), List.nil_append, length_toList] at h

end Boundary

/-! ### Reading what stands somewhere -/

/-- The search for a signature looks for what stands. -/
theorem hasAt_eq_true_iff {bytes : ByteArray} {mark : List UInt8} {start : Nat} :
    hasAt bytes mark start = true ↔ StandsAt bytes mark start := by
  induction mark generalizing start with
  | nil => simp [hasAt]
  | cons b mark ih =>
      rw [hasAt, standsAt_cons]
      by_cases h : start < bytes.size
      · have hget : bytes.data.toList[start]? = some bytes[start] := by
          rw [Array.getElem?_toList, ByteArray.getElem_eq_getElem_data]
          exact Array.getElem?_eq_getElem h
        rw [dif_pos h, Bool.and_eq_true, beq_iff_eq, ih, hget, Option.some.injEq]
      · have hget : bytes.data.toList[start]? = none := by
          rw [Array.getElem?_toList]
          exact Array.getElem?_eq_none (by rw [ByteArray.size_data]; omega)
        rw [dif_neg h, hget]
        simp

/-- A slice, as a list, drops what is in front of it and takes its length of the rest. -/
theorem toList_slice (bytes : ByteArray) (start len : Nat) :
    (slice bytes start len).data.toList = (bytes.data.toList.drop start).take len := by
  rw [slice, toList_extract, List.take_eq_take_iff, List.length_drop, length_toList]
  omega

/-- A slice of no length is empty. -/
theorem slice_zero (bytes : ByteArray) (start : Nat) : slice bytes start 0 = ByteArray.empty := by
  apply ByteArray.ext
  apply Array.toList_inj.1
  rw [toList_slice]
  rfl

/-- A run of bytes that stands at a place is the slice there. -/
theorem slice_of_standsAt {bytes : ByteArray} {piece : ByteArray} {start : Nat}
    (h : StandsAt bytes piece.data.toList start) : slice bytes start piece.size = piece := by
  apply ByteArray.ext
  apply Array.toList_inj.1
  obtain ⟨rest, h⟩ := h
  rw [toList_slice, ← h, ← length_toList, List.take_left]

/-- A number that stands at a place is what is read there. -/
theorem number_of_standsAt {bytes : ByteArray} {width value start : Nat}
    (h : StandsAt bytes (littleEndian width value) start) (hfits : value < Nat.pow 256 width) :
    number bytes start width = value := by
  have hpiece : StandsAt bytes (littleEndian width value).toByteArray.data.toList start := by
    rwa [List.toList_data_toByteArray]
  have hslice := slice_of_standsAt hpiece
  rw [List.size_toByteArray, length_littleEndian] at hslice
  rw [number, hslice, List.toList_data_toByteArray, ofLittleEndian_littleEndian width value hfits]

/-- A number that is asked for with care is read when it stands inside the array. -/
theorem number?_of_standsAt {bytes : ByteArray} {width value start : Nat}
    (h : StandsAt bytes (littleEndian width value) start) (hfits : value < Nat.pow 256 width)
    (hwidth : width ≠ 0) : number? bytes start width = some value := by
  have hinside := h.le_size (fun e => hwidth (by rw [← length_littleEndian width value, e]; rfl))
  rw [length_littleEndian] at hinside
  have hnumber := number_of_standsAt h hfits
  rw [number] at hnumber
  rw [number?, if_pos hinside, hnumber]

/-! ### Rows of fields -/

@[simp]
theorem fields_cons (width value : Nat) (row : List (Nat × Nat)) :
    fields ((width, value) :: row) = littleEndian width value ++ fields row := rfl

/-- A row of fields is as long as its fields are wide. -/
theorem length_fields (row : List (Nat × Nat)) :
    (fields row).length = (row.map Prod.fst).sum := by
  induction row with
  | nil => rfl
  | cons field row ih =>
      rw [fields_cons, List.length_append, length_littleEndian, ih, List.map_cons, List.sum_cons]

/-- A row of fields that stands at a place gives each of its numbers, as far on as the fields
in front of it are wide. -/
theorem number_of_standsAt_fields {bytes : ByteArray} {row : List (Nat × Nat)} {start : Nat}
    (h : StandsAt bytes (fields row) start) (i before : Nat) {width value : Nat}
    (hfield : row[i]? = some (width, value)) (hbefore : ((row.take i).map Prod.fst).sum = before)
    (hfits : value < Nat.pow 256 width) : number bytes (start + before) width = value := by
  subst hbefore
  induction i generalizing row start with
  | zero =>
      obtain ⟨field, rest, rfl⟩ : ∃ field rest, row = field :: rest :=
        List.exists_cons_of_ne_nil (by rintro rfl; simp at hfield)
      rw [List.getElem?_cons_zero, Option.some.injEq] at hfield
      subst hfield
      rw [fields_cons, standsAt_append] at h
      exact number_of_standsAt h.1 hfits
  | succ i ih =>
      obtain ⟨⟨firstWidth, first⟩, rest, rfl⟩ : ∃ field rest, row = field :: rest :=
        List.exists_cons_of_ne_nil (by rintro rfl; simp at hfield)
      rw [List.getElem?_cons_succ] at hfield
      rw [fields_cons, standsAt_append, length_littleEndian] at h
      have hrest := ih h.2 hfield
      rw [List.take_succ_cons, List.map_cons, List.sum_cons, ← Nat.add_assoc]
      exact hrest

end Bytes

end FixtureKit

import FixtureKit.Deflate.Encoder
import FixtureKit.Proofs.Deflate.RoundTrip

/-!
# What Is Asked of Encoders

An encoder is lawful if what it makes of data inflates to the data and is not much longer, and if
it does not take back what it has handed on. Nothing is asked about when it hands something on, nor
about the portions.

The encoder at hand is lawful. A segment looks at no byte beyond the two behind it, so the segments
that are finished with some data are the first ones of any longer data.

## Main results

* `segment_append`: a segment stays as it is when data goes on behind it.
* `Unrepeated.segment_eq`: a segment without repetitions does not get shorter.
* `join_handedOn`: what the encoder at hand has handed on after some pieces.
* The encoder at hand is an instance of `Encoder.Lawful`.
-/

namespace FixtureKit

namespace Deflate

/-- All that is handed on, portion by portion, while some pieces come behind others. -/
def handedOn (handOn : List ByteArray → ByteArray → List ByteArray) (taken : List ByteArray) :
    List ByteArray → List ByteArray
  | [] => []
  | piece :: pieces => handOn taken piece ++ handedOn handOn (taken ++ [piece]) pieces

/-- The laws of encoders. -/
class Encoder.Lawful [Encoder] : Prop where
  /-- Compressed data inflates to the data. -/
  inflate_compress (data : ByteArray) : inflate (Encoder.compress data) = .ok data
  /-- Compressed data is at most half as long again as the data, and a little more. -/
  size_compress_le (data : ByteArray) : 2 * (Encoder.compress data).size ≤ 3 * data.size + 256
  /-- What has been handed on is not taken back. -/
  exists_compress_eq (pieces : List ByteArray) :
    ∃ rest, Encoder.compress (Bytes.join pieces) =
      Bytes.join (handedOn Encoder.handOn [] pieces) ++ rest

/-! ### Segments of data that goes on -/

section Agreeing

variable {data other : ByteArray} {start stop : Nat}

/-- Data that goes on has the same bytes as before. -/
theorem byteAt_append (more : ByteArray) {place : Nat} (h : place < data.size) :
    byteAt (data ++ more) place = byteAt data place := by
  have hlonger : place < (data ++ more).size := by
    rw [ByteArray.size_append]
    omega
  rw [byteAt_eq_getElem h, byteAt_eq_getElem hlonger, ByteArray.getElem_append_left h]

/-- Where a piece stands its bytes are those of the data. -/
theorem byteAt_of_standsAt {piece : List UInt8} {place i : Nat} {b : UInt8}
    (h : Bytes.StandsAt data piece place) (hget : piece[i]? = some b) :
    byteAt data (place + i) = b := by
  obtain ⟨rest, hrest⟩ := h
  have hinside : i < piece.length := (List.getElem?_eq_some_iff.1 hget).1
  have hall : data.data.toList[place + i]? = some b := by
    rw [← List.getElem?_drop, ← hrest, List.getElem?_append_left hinside, hget]
  obtain ⟨hlength, heq⟩ := List.getElem?_eq_some_iff.1 hall
  rw [Bytes.length_toList] at hlength
  rw [byteAt_eq_getElem hlength]
  exact heq

/-- A match is decided by the bytes that it covers at most. -/
theorem matchLength_congr {first second limit : Nat}
    (hagree : ∀ place < stop, byteAt data place = byteAt other place)
    (hfirst : first + limit ≤ stop) (hsecond : second + limit ≤ stop) :
    matchLength data first second limit = matchLength other first second limit := by
  induction limit generalizing first second with
  | zero => rfl
  | succ limit ih =>
      rw [matchLength, matchLength, hagree first (by omega), hagree second (by omega),
        ih (by omega) (by omega)]

/-- A copy is decided by the bytes in front of its end. -/
theorem copyLength_congr {place memory : Nat}
    (hagree : ∀ place < stop, byteAt data place = byteAt other place) (hplace : place ≤ stop) :
    copyLength data start stop place memory = copyLength other start stop place memory := by
  rw [copyLength, copyLength]
  split
  · next hcandidate =>
      have hlimit : min longestCopy (stop - place) ≤ stop - place := Nat.min_le_right _ _
      exact matchLength_congr hagree (by omega) (by omega)
  · rfl

/-- A key is decided by the three bytes from a place on. -/
theorem hash_congr {place : Nat}
    (hagree : ∀ place < stop + 2, byteAt data place = byteAt other place) (hplace : place < stop) :
    hash data place = hash other place := by
  rw [hash, hash, hagree place (by omega), hagree (place + 1) (by omega),
    hagree (place + 2) (by omega)]

/-- The tokens of a stretch are decided by the bytes up to the second one behind it. -/
theorem findTokens_congr {place : Nat} {memory : Array Nat} {found : List Token}
    (hagree : ∀ place < stop + 2, byteAt data place = byteAt other place) :
    findTokens data start stop place memory found =
      findTokens other start stop place memory found := by
  have hinside : ∀ place < stop, byteAt data place = byteAt other place :=
    fun place hplace => hagree place (by omega)
  fun_induction findTokens data start stop place memory found with
  | case1 place memory found hplace key last memory' length hcopy ih =>
      have hkey : hash other place = key := (hash_congr hagree hplace).symm
      have hlength : copyLength other start stop place last = length :=
        (copyLength_congr hinside (Nat.le_of_lt hplace)).symm
      conv => rhs; rw [findTokens, if_pos hplace]
      simp only [hkey]
      rw [hlength, if_pos hcopy, ih]
  | case2 place memory found hplace key last memory' length hcopy ih =>
      have hkey : hash other place = key := (hash_congr hagree hplace).symm
      have hlength : copyLength other start stop place last = length :=
        (copyLength_congr hinside (Nat.le_of_lt hplace)).symm
      conv => rhs; rw [findTokens, if_pos hplace]
      simp only [hkey]
      rw [hlength, if_neg hcopy, ih, hinside place hplace]
  | case3 place memory found hplace => rw [findTokens, if_neg hplace]

end Agreeing

/-- A segment stays as it is when data goes on behind it. -/
theorem segment_append {data : ByteArray} (more : ByteArray) {start stop : Nat}
    (hstart : start ≤ stop) (hstop : stop + 2 ≤ data.size) :
    segment (data ++ more) start stop = segment data start stop := by
  have htokens : tokens (data ++ more) start stop = tokens data start stop :=
    findTokens_congr fun place hplace => byteAt_append more (by omega)
  have hextract : (data ++ more).extract start stop = data.extract start stop :=
    Bytes.extract_append_of_le hstart (by omega) more
  rw [segment, segment, htokens, hextract]

/-- The segments that are finished are the first ones of any longer data. -/
theorem exists_segments_append {data : ByteArray} (more : ByteArray) (start : Nat)
    (output : ByteArray) :
    ∃ rest, segments (data ++ more) start output = finishedSegments data start output ++ rest := by
  fun_induction finishedSegments data start output with
  | case1 start output hfinished ih =>
      have hinside : start < (data ++ more).size := by
        rw [ByteArray.size_append]
        omega
      have hstop : min (data ++ more).size (start + segmentSize) = start + segmentSize := by
        rw [ByteArray.size_append]
        omega
      rw [segments, if_pos hinside]
      simp only [hstop, segment_append more (Nat.le_add_right _ _) hfinished]
      exact ih
  | case2 start output hrest => exact exists_segments_eq _ _ _

/-! ### Data without repetitions -/

/-- No four bytes in a row between two places are there a second time. -/
def Unrepeated (data : ByteArray) (start stop : Nat) : Prop :=
  ∀ first second, start ≤ first → first < second → second + 4 ≤ stop →
    ∃ i < 4, byteAt data (first + i) ≠ byteAt data (second + i)

section Unrepeated

variable {data : ByteArray} {start stop : Nat}

/-- Without repetitions there are only the shortest copies. -/
theorem Unrepeated.copyLength_le (h : Unrepeated data start stop) {place memory : Nat}
    (hplace : place < stop) : copyLength data start stop place memory ≤ 3 := by
  have hlimit := Deflate.copyLength_le data start stop place memory
  rw [copyLength] at hlimit ⊢
  split
  · next hcandidate =>
      rw [if_pos hcandidate] at hlimit
      refine Nat.le_of_not_lt fun hlong => ?_
      obtain ⟨i, hi, hne⟩ := h (memory - 1) place (by omega) (by omega) (by omega)
      exact hne (getElem_of_lt_matchLength (Nat.lt_of_lt_of_le hi hlong))
  · exact Nat.zero_le _

/-- What tokens cost together. -/
def totalCost (found : List Token) : Nat :=
  (found.map Token.cost).sum

/-- A literal costs at least the eight bits of its byte. -/
theorem le_cost_literal (b : UInt8) : 8 ≤ (Token.literal b).cost := by
  rw [Token.cost]
  split <;> omega

/-- Without repetitions no tokens cost less than the bytes that they stand for: a copy of three
bytes costs one bit more than these. -/
theorem Unrepeated.le_totalCost_findTokens (h : Unrepeated data start stop) {place : Nat}
    (hplace : place ≤ stop) (memory : Array Nat) (found : List Token) :
    8 * (stop - place) + totalCost found ≤
      totalCost (findTokens data start stop place memory found) := by
  fun_induction findTokens data start stop place memory found with
  | case1 place memory found hinside key last memory' length hcopy ih =>
      have hshort : length ≤ 3 := h.copyLength_le hinside
      have hend : length ≤ stop - place := Deflate.copyLength_le data start stop place last
      have hcost : totalCost (.copy length (place + 1 - last) :: found) = 25 + totalCost found := by
        rw [totalCost, List.map_cons, List.sum_cons, ← totalCost, Token.cost]
      have hrest := ih (by omega)
      omega
  | case2 place memory found hinside key last memory' length hcopy ih =>
      have hliteral := le_cost_literal (byteAt data place)
      have hcost : totalCost (.literal (byteAt data place) :: found) =
          (Token.literal (byteAt data place)).cost + totalCost found := by
        rw [totalCost, List.map_cons, List.sum_cons, ← totalCost]
      have hrest := ih (by omega)
      omega
  | case3 place memory found houtside =>
      have hcost : totalCost found.reverse = totalCost found := by
        rw [totalCost, List.map_reverse, List.sum_reverse, ← totalCost]
      omega

/-- Data without repetitions is written as it is. -/
theorem Unrepeated.segment_eq (h : Unrepeated data start stop) (hstart : start ≤ stop) :
    segment data start stop = storedBlock (data.extract start stop) := by
  have hcost : (tokens data start stop).foldl (fun sum token => sum + token.cost) 0 =
      totalCost (tokens data start stop) := by
    rw [totalCost, List.sum_eq_foldl, List.foldl_map]
  have hleast : 8 * (stop - start) + totalCost [] ≤ totalCost (tokens data start stop) :=
    h.le_totalCost_findTokens hstart _ _
  rw [segment]
  simp only [hcost]
  rw [if_neg (by omega)]

end Unrepeated

/-! ### The encoder at hand -/

/-- Finished segments are appended to what has been put out. -/
theorem exists_finishedSegments_eq (data : ByteArray) (start : Nat) (output : ByteArray) :
    ∃ more, finishedSegments data start output = output ++ more := by
  fun_induction finishedSegments data start output with
  | case1 start output _ ih =>
      obtain ⟨more, hmore⟩ := ih
      exact ⟨segment data start (start + segmentSize) ++ more,
        by rw [hmore, ByteArray.append_assoc]⟩
  | case2 start output _ => exact ⟨ByteArray.empty, ByteArray.append_empty.symm⟩

/-- Each segment that is finished is a part of what is. -/
theorem size_segment_le_size_finishedSegments {data : ByteArray} (count : Nat) {start : Nat}
    (output : ByteArray) (h : start + (count + 1) * segmentSize + 2 ≤ data.size) :
    (segment data (start + count * segmentSize) (start + (count + 1) * segmentSize)).size ≤
      (finishedSegments data start output).size := by
  induction count generalizing start output with
  | zero =>
      obtain ⟨more, hmore⟩ := exists_finishedSegments_eq data (start + segmentSize)
        (output ++ segment data start (start + segmentSize))
      rw [finishedSegments, if_pos (by omega), hmore, ByteArray.size_append, ByteArray.size_append,
        Nat.zero_mul, Nat.zero_add, Nat.one_mul, Nat.add_zero]
      omega
  | succ count ih =>
      rw [Nat.add_mul, Nat.one_mul] at h
      have hnext := ih (output ++ segment data start (start + segmentSize))
        (by omega : start + segmentSize + (count + 1) * segmentSize + 2 ≤ data.size)
      have hplace (n : Nat) : start + segmentSize + n * segmentSize =
          start + (n + 1) * segmentSize := by
        rw [Nat.add_mul, Nat.one_mul, Nat.add_assoc, Nat.add_comm segmentSize]
      rw [hplace, hplace] at hnext
      rwa [finishedSegments, if_pos (by omega)]

/-- A segment without repetitions is handed on in full length as soon as it is finished. -/
theorem Unrepeated.lt_size_finished {data : ByteArray} {count size : Nat}
    (h : Unrepeated data (count * segmentSize) ((count + 1) * segmentSize))
    (hsize : (count + 1) * segmentSize + 2 ≤ size) (hdata : size ≤ data.size) :
    segmentSize < (finished (data.extract 0 size)).size := by
  have hall : data.extract 0 size ++ data.extract size data.size = data := by
    rw [ByteArray.extract_append_extract, Nat.min_eq_left (Nat.zero_le _), Nat.max_eq_right hdata,
      ByteArray.extract_zero_size]
  have hlength : (data.extract 0 size).size = size := by
    rw [ByteArray.size_extract]
    omega
  have hstart : count * segmentSize ≤ (count + 1) * segmentSize :=
    Nat.mul_le_mul_right _ (Nat.le_succ _)
  have hsegment : segment (data.extract 0 size) (count * segmentSize) ((count + 1) * segmentSize) =
      storedBlock (data.extract (count * segmentSize) ((count + 1) * segmentSize)) := by
    rw [← segment_append (data.extract size data.size) hstart (by omega), hall,
      h.segment_eq hstart]
  have hfinished := size_segment_le_size_finishedSegments count ByteArray.empty
    (by omega : 0 + (count + 1) * segmentSize + 2 ≤ (data.extract 0 size).size)
  rw [Nat.zero_add, Nat.zero_add, hsegment, size_storedBlock, ByteArray.size_extract,
    Nat.min_eq_left (by omega), Nat.add_mul, Nat.one_mul, Nat.add_sub_cancel_left,
    ← finished] at hfinished
  omega

/-- What is finished with some data stays so when more comes. -/
theorem exists_finished_append (data more : ByteArray) :
    ∃ rest, finished (data ++ more) = finished data ++ rest := by
  rw [finished, finished]
  generalize 0 = start, ByteArray.empty = output
  fun_induction finishedSegments data start output with
  | case1 start output hfinished ih =>
      have hlonger : start + segmentSize + 2 ≤ (data ++ more).size := by
        rw [ByteArray.size_append]
        omega
      rw [finishedSegments, if_pos hlonger, segment_append more (Nat.le_add_right _ _) hfinished]
      exact ih
  | case2 start output _ => exact exists_finishedSegments_eq _ _ _

/-- Less than one segment finishes nothing. -/
theorem finished_of_lt {data : ByteArray} (h : data.size < segmentSize) :
    finished data = ByteArray.empty := by
  rw [finished, finishedSegments, if_neg (by omega)]

/-- Finished segments stand at the front of any longer data when it is compressed. -/
theorem exists_compress_append (data more : ByteArray) :
    ∃ rest, compress (data ++ more) = finished data ++ rest := by
  obtain ⟨rest, hrest⟩ := exists_segments_append more 0 ByteArray.empty
  refine ⟨rest ++ ([0x01].toByteArray ++ emptyBody), ?_⟩
  rw [compress, hrest, ← ByteArray.append_toByteArray_singleton, finished, ByteArray.append_assoc,
    ByteArray.append_assoc]

/-- The last piece, if there is one, stands behind the others. -/
theorem exists_join_dropLast (pieces : List ByteArray) :
    ∃ last, Bytes.join pieces = Bytes.join pieces.dropLast ++ last := by
  rcases List.eq_nil_or_concat pieces with rfl | ⟨front, last, rfl⟩
  · exact ⟨ByteArray.empty, ByteArray.append_empty.symm⟩
  · refine ⟨last, ?_⟩
    rw [List.concat_eq_append, List.dropLast_concat, Bytes.join_append, Bytes.join_cons,
      Bytes.join_nil, ByteArray.append_empty]

/-- With a piece, what the pieces in front of it have finished is handed on as far as it has not
been before. -/
theorem finished_append_handOn (taken : List ByteArray) (piece : ByteArray) :
    finished (Bytes.join taken.dropLast) ++ Bytes.join (Encoder.handOn taken piece) =
      finished (Bytes.join taken) := by
  obtain ⟨rest, hrest⟩ : ∃ rest,
      finished (Bytes.join taken) = finished (Bytes.join taken.dropLast) ++ rest := by
    obtain ⟨last, hlast⟩ := exists_join_dropLast taken
    rw [hlast]
    exact exists_finished_append _ _
  have hsize := congrArg ByteArray.size hrest
  rw [ByteArray.size_append] at hsize
  simp only [Encoder.handOn]
  split
  · rw [Bytes.join_cons, Bytes.join_nil, ByteArray.append_empty, hsize, hrest,
      ByteArray.extract_append_eq_right rfl rfl]
  · have hnone : rest = ByteArray.empty := ByteArray.size_eq_zero_iff.1 (by omega)
    rw [Bytes.join_nil, hrest, hnone]

/-- What has been handed on after some pieces is what those in front of the last one finished. -/
theorem join_handedOn (pieces : List ByteArray) :
    Bytes.join (handedOn Encoder.handOn [] pieces) = finished (Bytes.join pieces.dropLast) := by
  have hrun : ∀ taken, finished (Bytes.join taken.dropLast) ++
      Bytes.join (handedOn Encoder.handOn taken pieces) =
        finished (Bytes.join (taken ++ pieces).dropLast) := by
    induction pieces with
    | nil => exact fun taken => by simp [handedOn]
    | cons piece pieces ih =>
        intro taken
        have hrest := ih (taken ++ [piece])
        rw [List.dropLast_concat, List.append_assoc, List.singleton_append] at hrest
        rw [handedOn, Bytes.join_append, ← ByteArray.append_assoc, finished_append_handOn, hrest]
  have hall := hrun []
  rwa [List.dropLast_nil, Bytes.join_nil, finished_of_lt (by decide), ByteArray.empty_append,
    List.nil_append] at hall

/-- The encoder at hand is lawful. -/
instance : Encoder.Lawful where
  inflate_compress := inflate_compress
  size_compress_le data := by
    have hsize := size_compress_le data
    change 2 * (compress data).size ≤ _
    omega
  exists_compress_eq pieces := by
    obtain ⟨last, hlast⟩ := exists_join_dropLast pieces
    rw [join_handedOn, hlast]
    exact exists_compress_append _ _

end Deflate

end FixtureKit

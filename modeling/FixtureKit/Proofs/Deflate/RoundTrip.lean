import FixtureKit.Proofs.Deflate.Cover

/-!
# Inflating What Was Compressed

Compressed data is a row of segments, each of which fills whole bytes: a block of tokens
with an empty block of bytes behind it, or a block of the bytes as they are. Reading a
segment takes the output from the data in front of it to the data up to its end
(`readBlocks_segment`); the row of segments is followed by induction on the encoder's own
recursion, and the empty last block ends the stream.

## Main results

* `inflate_compress`: inflating compressed data gives the data, whatever it is.
* `size_compress_le`: compressed data is at most half as long again as the data, and twelve
  bytes.
-/

namespace FixtureKit

namespace Deflate

/-! ### The head of a block -/

/-- A block whose head and body can be read is read. -/
theorem readBlock_of_bitsAt {input output result : ByteArray} {position next kind : Nat}
    {last : Bool} (hkind : kind < 4)
    (hhead : Bits.BitsAt input (last :: Bits.bitsOfNat 2 kind) position)
    (hbody : readBody input kind (position + 3) output = .ok (next, result)) :
    readBlock input position output = .ok (last, next, result) := by
  have hlast : Bits.BitsAt input (Bits.bitsOfNat 1 last.toNat) position := by
    have hone : Bits.bitsOfNat 1 last.toNat = [last] := by cases last <;> rfl
    rw [Bits.bitsAt_cons] at hhead
    rw [hone, Bits.bitsAt_cons]
    exact ⟨hhead.1, List.nil_prefix⟩
  have hflag : (last.toNat == 1) = last := by cases last <;> rfl
  rw [Bits.bitsAt_cons] at hhead
  rw [readBlock, Bits.readNumber_of_bitsAt hlast (by cases last <;> decide)]
  dsimp only
  rw [Bits.readNumber_of_bitsAt hhead.2 hkind]
  dsimp only
  rw [hbody, hflag]

section Steps

variable {input output result : ByteArray} {position next : Nat}

/-- Behind the last block nothing more is read. -/
theorem readBlocks_of_last (start : position ≤ 8 * input.size)
    (h : readBlock input position output = .ok (true, next, result)) :
    readBlocks input position start output = .ok result := by
  rw [readBlocks]
  split <;> rename_i hread <;> rw [h] at hread <;> cases hread
  rfl

/-- Behind any other block the next one is read, with the output so far. -/
theorem readBlocks_of_block (start : position ≤ 8 * input.size)
    (h : readBlock input position output = .ok (false, next, result)) :
    readBlocks input position start output =
      readBlocks input next (lt_of_readBlock start h).2 result := by
  rw [readBlocks]
  split <;> rename_i hread <;> rw [h] at hread <;> cases hread
  rfl

/-- Bytes as they are, behind their number and its complement, are read from the next whole
byte on. -/
theorem readStored_of_standsAt {data : ByteArray} {start : Nat}
    (hstart : (position + 7) / 8 = start)
    (hsize : data.size ≤ 0xFFFF)
    (h : Bytes.StandsAt input
      (Bytes.littleEndian 2 data.size ++ Bytes.littleEndian 2 (0xFFFF - data.size) ++
        data.data.toList) start) :
    readStored input position output = .ok (8 * (start + 4 + data.size), output ++ data) := by
  have hwidth : ∀ value, (Bytes.littleEndian 2 value).length = 2 := Bytes.length_littleEndian 2
  have hlimit : Nat.pow 256 2 = 65536 := rfl
  rw [List.append_assoc, Bytes.standsAt_append, Bytes.standsAt_append, hwidth, hwidth] at h
  obtain ⟨hcount, hcomplement, hdata⟩ := h
  have hinside : start + 4 + data.size ≤ input.size := by
    by_cases hempty : data.size = 0
    · have hend := hcomplement.le_size (List.ne_nil_of_length_pos (by rw [hwidth]; decide))
      rw [hwidth] at hend
      omega
    · have hend := hdata.le_size
        (List.ne_nil_of_length_pos (by rw [Bytes.length_toList]; omega))
      rw [Bytes.length_toList] at hend
      omega
  rw [readStored, hstart, Bytes.number?_of_standsAt hcount (by omega) (by decide),
    Bytes.number?_of_standsAt hcomplement (by omega) (by decide)]
  dsimp only
  rw [if_neg (by omega), if_neg (by omega), Bytes.slice_of_standsAt hdata]

end Steps

/-! ### Segments -/

/-- The empty block that follows each segment is that of no bytes at all. -/
theorem toList_emptyBody :
    emptyBody.data.toList = Bytes.littleEndian 2 ByteArray.empty.size ++
      Bytes.littleEndian 2 (0xFFFF - ByteArray.empty.size) ++ ByteArray.empty.data.toList := by
  decide

/-- The bits in front of the last block of bytes in a block of tokens. -/
theorem fixedBlock_eq (tokens : List Token) :
    fixedBlock tokens =
      Bits.pack ((false :: Bits.bitsOfNat 2 1) ++ blockBits tokens ++
        (false :: Bits.bitsOfNat 2 0)) ++ emptyBody := by
  rw [fixedBlock, blockBits]
  simp only [Bits.bitsOfNat, List.cons_append, List.nil_append, List.append_assoc]
  rfl

/-- A block of the fixed code takes its bits, the two of its kind and that of its being the last
one, and the empty block that ends its segment at a whole byte. -/
theorem size_fixedBlock (tokens : List Token) :
    (fixedBlock tokens).size = ((blockBits tokens).length + 13) / 8 + 4 := by
  have hempty : emptyBody.size = 4 := rfl
  rw [fixedBlock_eq, ByteArray.size_append, Bits.size_pack, hempty]
  simp only [List.length_append, List.length_cons, Bits.length_bitsOfNat]
  omega

/-- Where the block of a segment stands the segment is read behind the data in front of it, and
reading goes on behind the block. -/
theorem readBlocks_fixedBlock {data input result : ByteArray} {start stop place : Nat}
    {tokens : List Token} (hcovers : Covers data start tokens stop)
    (h : Bytes.StandsAt input (fixedBlock tokens).data.toList place)
    (hplace : 8 * place ≤ 8 * input.size)
    (hrest : ∀ hnext, readBlocks input (8 * (place + (fixedBlock tokens).size)) hnext
      (data.extract 0 stop) = .ok result) :
    readBlocks input (8 * place) hplace (data.extract 0 start) = .ok result := by
  have hsize := size_fixedBlock tokens
  rw [fixedBlock_eq, ByteArray.toList_data_append, Bytes.standsAt_append, Bytes.length_toList,
    toList_emptyBody] at h
  obtain ⟨hpacked, hempty⟩ := h
  have hpackedSize := Bits.size_pack ((false :: Bits.bitsOfNat 2 1) ++ blockBits tokens ++
    (false :: Bits.bitsOfNat 2 0))
  simp only [List.length_append, List.length_cons, Bits.length_bitsOfNat] at hpackedSize
  have hbits := Bits.bitsAt_of_standsAt_pack hpacked
  rw [Bits.bitsAt_append, Bits.bitsAt_append] at hbits
  obtain ⟨⟨hhead, htokens⟩, hsecond⟩ := hbits
  simp only [List.length_append, List.length_cons, Bits.length_bitsOfNat] at htokens hsecond
  have hbody : readBody input 1 (8 * place + 3) (data.extract 0 start) =
      .ok (8 * place + 3 + (blockBits tokens).length, data.extract 0 stop) :=
    readTokens_of_covers hcovers htokens
  have hfirstBlock := readBlock_of_bitsAt (by decide) hhead hbody
  have hstored : readBody input 0 (8 * place + (3 + (blockBits tokens).length) + 3)
      (data.extract 0 stop) = .ok _ :=
    readStored_of_standsAt (by omega) (by decide) hempty
  rw [← Nat.add_assoc] at hsecond hstored
  have hsecondBlock := readBlock_of_bitsAt (by decide) hsecond hstored
  have hposition : 8 * (place + (Bits.pack ((false :: Bits.bitsOfNat 2 1) ++ blockBits tokens ++
      (false :: Bits.bitsOfNat 2 0))).size + 4 + ByteArray.empty.size) =
        8 * (place + (fixedBlock tokens).size) := by
    rw [ByteArray.size_empty]
    omega
  rw [readBlocks_of_block _ hfirstBlock, readBlocks_of_block _ hsecondBlock]
  simp only [hposition, ByteArray.append_empty]
  exact hrest _

/-- The head byte of a block of bytes: not the last, of the kind without a code. -/
theorem toList_storedBlock (data : ByteArray) :
    (storedBlock data).data.toList =
      [0x00] ++ (Bytes.littleEndian 2 data.size ++ Bytes.littleEndian 2 (0xFFFF - data.size) ++
        data.data.toList) := by
  rw [storedBlock, ByteArray.toList_data_append, List.toList_data_toByteArray]
  simp only [List.cons_append, List.nil_append, List.append_assoc]

/-- A block that is stored takes five bytes more than its data. -/
theorem size_storedBlock (data : ByteArray) : (storedBlock data).size = data.size + 5 := by
  rw [← Bytes.length_toList, toList_storedBlock]
  simp only [List.length_append, List.length_cons, List.length_nil, Bytes.length_littleEndian,
    Bytes.length_toList]
  omega

/-- Where a stored block stands its piece is put behind the output, and reading goes on behind the
block. -/
theorem readBlocks_storedBlock {piece input output result : ByteArray} {place : Nat}
    (hsize : piece.size ≤ 0xFFFF)
    (h : Bytes.StandsAt input (storedBlock piece).data.toList place)
    (hplace : 8 * place ≤ 8 * input.size)
    (hrest : ∀ hnext, readBlocks input (8 * (place + (storedBlock piece).size)) hnext
      (output ++ piece) = .ok result) :
    readBlocks input (8 * place) hplace output = .ok result := by
  rw [toList_storedBlock, Bytes.standsAt_append, List.length_singleton] at h
  obtain ⟨hhead, hbody⟩ := h
  have hbits : Bits.BitsAt input ((false :: Bits.bitsOfNat 2 0) ++ List.replicate 5 false)
      (8 * place) := Bits.bitsAt_of_standsAt hhead
  rw [Bits.bitsAt_append] at hbits
  have hstored : readBody input 0 (8 * place + 3) output = .ok _ :=
    readStored_of_standsAt (by omega) hsize hbody
  have hblock := readBlock_of_bitsAt (by decide) hbits.1 hstored
  have hposition : 8 * (place + 1 + 4 + piece.size) = 8 * (place + (storedBlock piece).size) := by
    rw [size_storedBlock]
    omega
  rw [readBlocks_of_block _ hblock]
  simp only [hposition]
  exact hrest _

/-- Reading a segment takes the output from the data in front of it to the data up to its
end. -/
theorem readBlocks_segment {data input result : ByteArray} {start stop place : Nat}
    (hstart : start ≤ stop) (hstop : stop ≤ data.size) (hlong : stop ≤ start + segmentSize)
    (h : Bytes.StandsAt input (segment data start stop).data.toList place)
    (hplace : 8 * place ≤ 8 * input.size)
    (hrest : ∀ hnext, readBlocks input (8 * (place + (segment data start stop).size)) hnext
      (data.extract 0 stop) = .ok result) :
    readBlocks input (8 * place) hplace (data.extract 0 start) = .ok result := by
  rw [segment] at h hrest
  split at h
  · next hcheap =>
    rw [if_pos hcheap] at hrest
    exact readBlocks_fixedBlock (covers_tokens hstart hstop) h hplace hrest
  · next hdear =>
    rw [if_neg hdear] at hrest
    have hpiece : (data.extract start stop).size ≤ 0xFFFF := by
      rw [ByteArray.size_extract]
      rw [segmentSize] at hlong
      omega
    have hjoin : data.extract 0 start ++ data.extract start stop = data.extract 0 stop := by
      rw [ByteArray.extract_append_extract, Nat.min_eq_left (Nat.zero_le _),
        Nat.max_eq_right hstart]
    exact readBlocks_storedBlock hpiece h hplace (by rw [hjoin]; exact hrest)

/-! ### Whole streams -/

/-- Segments are appended to what has been put out. -/
theorem exists_segments_eq (data : ByteArray) (start : Nat) (output : ByteArray) :
    ∃ more, segments data start output = output ++ more := by
  fun_induction segments data start output with
  | case1 start output _ stop ih =>
      obtain ⟨more, hmore⟩ := ih
      exact ⟨segment data start stop ++ more, by rw [hmore, ByteArray.append_assoc]⟩
  | case2 start output _ => exact ⟨ByteArray.empty, ByteArray.append_empty.symm⟩

/-- Where the blocks of all segments stand all of the data is read, and reading goes on behind the
last of them. -/
theorem readBlocks_segments {data input output result : ByteArray} {start : Nat}
    (hstart : start ≤ data.size)
    (h : Bytes.StandsAt input (segments data start output).data.toList 0)
    (hplace : 8 * output.size ≤ 8 * input.size)
    (hrest : ∀ hnext, readBlocks input (8 * (segments data start output).size) hnext data =
      .ok result) :
    readBlocks input (8 * output.size) hplace (data.extract 0 start) = .ok result := by
  fun_induction segments data start output with
  | case1 start output hinside stop ih =>
      have hstop : stop ≤ data.size := Nat.min_le_left _ _
      have hsegment : Bytes.StandsAt input (segment data start stop).data.toList output.size := by
        obtain ⟨more, hmore⟩ := exists_segments_eq data stop (output ++ segment data start stop)
        rw [hmore, ByteArray.append_assoc, ByteArray.toList_data_append, Bytes.standsAt_append,
          ByteArray.toList_data_append, Bytes.standsAt_append, Bytes.length_toList,
          Nat.zero_add] at h
        exact h.2.1
      refine readBlocks_segment (by omega) hstop (Nat.min_le_right _ _) hsegment hplace ?_
      intro hnext
      rw [ByteArray.size_append] at ih
      exact ih hstop h hnext hrest
  | case2 start output houtside =>
      obtain rfl : start = data.size := by omega
      rw [ByteArray.extract_zero_size]
      exact hrest hplace

/-- Inflating compressed data gives the data. -/
theorem inflate_compress (data : ByteArray) : inflate (compress data) = .ok data := by
  have hlayout : (compress data).data.toList = (segments data 0 ByteArray.empty).data.toList ++
      ([0x01] ++ emptyBody.data.toList) := by
    rw [compress, ByteArray.toList_data_append, ByteArray.data_push, Array.toList_push,
      List.append_assoc]
  have hall : Bytes.StandsAt (compress data) (compress data).data.toList 0 :=
    List.prefix_rfl
  rw [hlayout, Bytes.standsAt_append, Bytes.standsAt_append, Bytes.length_toList, Nat.zero_add]
    at hall
  obtain ⟨hsegments, hhead, hbody⟩ := hall
  have hbits : Bits.BitsAt (compress data) ((true :: Bits.bitsOfNat 2 0) ++ List.replicate 5 false)
      (8 * (segments data 0 ByteArray.empty).size) := Bits.bitsAt_of_standsAt hhead
  rw [Bits.bitsAt_append] at hbits
  rw [toList_emptyBody] at hbody
  have hstored : readBody (compress data) 0 (8 * (segments data 0 ByteArray.empty).size + 3) data =
      .ok _ := readStored_of_standsAt (by rw [List.length_singleton]; omega) (by decide) hbody
  have hlast := readBlock_of_bitsAt (by decide) hbits.1 hstored
  have hempty : data.extract 0 0 = ByteArray.empty := ByteArray.extract_same
  rw [inflate, ← hempty]
  refine readBlocks_segments (Nat.zero_le _) hsegments (Nat.zero_le _) ?_
  intro hnext
  rw [readBlocks_of_last hnext hlast, ByteArray.append_empty]

/-! ### How long compressed data is -/

/-- A segment takes at most a third more than its data, and a few bytes. -/
theorem size_segment_le {data : ByteArray} {start stop : Nat} (hstart : start ≤ stop)
    (hstop : stop ≤ data.size) :
    3 * (segment data start stop).size ≤ 4 * (stop - start) + 20 := by
  rw [segment]
  split
  · have hbits := (covers_tokens hstart hstop).length_bits_le
    have hsymbol : endOfBlock < 288 := by decide
    have hend := (follow_fixedWord hsymbol).2
    rw [size_fixedBlock, blockBits, List.length_append]
    omega
  · rw [size_storedBlock, ByteArray.size_extract]
    omega

/-- Of a full segment not much is lost, so only the last one leaves something to be added. -/
theorem size_segments_le (data output : ByteArray) (start : Nat) :
    2 * (segments data start output).size ≤
      2 * output.size + if start < data.size then 3 * (data.size - start) + 14 else 0 := by
  fun_induction segments data start output with
  | case1 start output hinside stop ih =>
      have hstop : stop ≤ data.size := Nat.min_le_left _ _
      have hpositive : segmentSize = 31745 := rfl
      have hsegment := size_segment_le (by omega : start ≤ stop) hstop
      rw [ByteArray.size_append] at ih
      rw [if_pos hinside]
      split at ih
      · omega
      · omega
  | case2 start output houtside =>
      rw [if_neg houtside]
      exact Nat.le_refl _

/-- Compressed data is at most half as long again as the data, and twelve bytes. -/
theorem size_compress_le (data : ByteArray) :
    2 * (compress data).size ≤ 3 * data.size + 24 := by
  have hsegments := size_segments_le data ByteArray.empty 0
  have hempty : emptyBody.size = 4 := rfl
  rw [ByteArray.size_empty] at hsegments
  rw [compress, ByteArray.size_append, ByteArray.size_push, hempty]
  split at hsegments
  · omega
  · omega

end Deflate

end FixtureKit

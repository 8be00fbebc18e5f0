import FixtureKit.Proofs.Deflate.FixedCode

/-!
# Tokens that Cover Data

The encoder turns a stretch of data into tokens by comparing bytes; the decoder appends
what tokens stand for to what it has put out. Both are joined by the relation
`Covers data place tokens stop`: the tokens lead from one place in the data to another,
each literal being the byte at its place and each copy repeating bytes that are equal one
by one. The decoder's invariant is that its output is the data up to the place reached.

## Main results

* `covers_tokens`: the tokens that are found cover their stretch.
* `readTokens_of_covers`: reading the bits of covering tokens extends the data put out so
  far from the first place to the last.
* `Covers.length_bits_le`: the bits of covering tokens are bounded by what they cover.
-/

namespace FixtureKit

namespace Deflate

/-- The tokens lead from a place in the data to a later one. A literal is the byte at its
place; a copy repeats bytes that are equal, one by one, to those that it stands for. -/
inductive Covers (data : ByteArray) : (place : Nat) → List Token → (stop : Nat) → Prop
  | nil (place : Nat) : Covers data place [] place
  | literal {place stop : Nat} {tokens : List Token} :
      place < data.size → Covers data (place + 1) tokens stop →
      Covers data place (.literal (byteAt data place) :: tokens) stop
  | copy {place stop length distance : Nat} {tokens : List Token} :
      (Token.copy length distance).Writable → distance ≤ place → place + length ≤ data.size →
      (∀ i < length, byteAt data (place - distance + i) = byteAt data (place + i)) →
      Covers data (place + length) tokens stop →
      Covers data place (.copy length distance :: tokens) stop

namespace Covers

variable {data : ByteArray} {place stop : Nat} {tokens : List Token}

/-- Covering tokens take at most 32 bits for every three bytes: a literal takes nine for one byte,
and a copy stands for three bytes at least. -/
theorem length_bits_le (h : Covers data place tokens stop) :
    32 * place + 3 * (tokens.flatMap Token.bits).length ≤ 32 * stop := by
  induction h with
  | nil => simp
  | @literal place stop tokens _ _ ih =>
      have hliteral := length_bits_literal_le (byteAt data place)
      rw [List.flatMap_cons, List.length_append]
      omega
  | copy hwritable _ _ _ _ ih =>
      have hcopy := length_bits_copy_le hwritable
      obtain ⟨hshort, -⟩ := hwritable
      rw [List.flatMap_cons, List.length_append]
      omega

end Covers

/-! ### The tokens that are found -/

/-- What a copy that is long enough to be made promises. -/
theorem of_shortestCopy_le_copyLength {data : ByteArray} {start stop place memory : Nat}
    (hstop : stop ≤ data.size)
    (h : shortestCopy ≤ copyLength data start stop place memory) :
    (Token.copy (copyLength data start stop place memory) (place + 1 - memory)).Writable ∧
      place + 1 - memory ≤ place ∧
      place + copyLength data start stop place memory ≤ data.size ∧
      ∀ i < copyLength data start stop place memory,
        byteAt data (place - (place + 1 - memory) + i) = byteAt data (place + i) := by
  have hthree : shortestCopy = 3 := rfl
  have hrest := copyLength_le data start stop place memory
  rw [copyLength] at h hrest ⊢
  split at h
  · next hcandidate =>
    obtain ⟨hafter, hbefore, hwindow⟩ := hcandidate
    have hlimit := matchLength_le data (memory - 1) place (min longestCopy (stop - place))
    have hlong : longestCopy = 258 := rfl
    have hfar : window = 32768 := rfl
    rw [if_pos ⟨hafter, hbefore, hwindow⟩] at hrest ⊢
    have hback : place - (place + 1 - memory) = memory - 1 := by omega
    refine ⟨⟨by omega, by omega, by omega, by omega⟩, by omega, by omega, fun i hi => ?_⟩
    rw [hback]
    exact getElem_of_lt_matchLength hi
  · omega

/-- The search for tokens goes on from what it has found, and what it adds covers the rest of the
segment. -/
theorem covers_findTokens {data : ByteArray} {start stop place : Nat} {memory : Array Nat}
    {found : List Token} (hplace : place ≤ stop) (hstop : stop ≤ data.size) :
    ∃ more, findTokens data start stop place memory found = found.reverse ++ more ∧
      Covers data place more stop := by
  fun_induction findTokens data start stop place memory found with
  | case1 place memory found hinside key last memory' length hcopy ih =>
      obtain ⟨hwritable, hback, hsize, hequal⟩ := of_shortestCopy_le_copyLength hstop hcopy
      have hrest := copyLength_le data start stop place last
      obtain ⟨more, hmore, hcovers⟩ := ih (by omega)
      refine ⟨.copy length (place + 1 - last) :: more, ?_,
        .copy hwritable hback hsize hequal hcovers⟩
      rw [hmore, List.reverse_cons, List.append_assoc, List.singleton_append]
  | case2 place memory found hinside key last memory' length _ ih =>
      obtain ⟨more, hmore, hcovers⟩ := ih (by omega)
      refine ⟨.literal (byteAt data place) :: more, ?_, .literal (by omega) hcovers⟩
      rw [hmore, List.reverse_cons, List.append_assoc, List.singleton_append]
  | case3 place memory found houtside =>
      obtain rfl : place = stop := by omega
      exact ⟨[], (List.append_nil _).symm, .nil place⟩

/-- The tokens that are found cover their stretch. -/
theorem covers_tokens {data : ByteArray} {start stop : Nat} (hstart : start ≤ stop)
    (hstop : stop ≤ data.size) : Covers data start (tokens data start stop) stop := by
  obtain ⟨more, hmore, hcovers⟩ : ∃ more,
      findTokens data start stop start (Array.replicate memorySize 0) [] = [].reverse ++ more ∧
        Covers data start more stop := covers_findTokens hstart hstop
  rw [tokens, hmore]
  exact hcovers

/-! ### The data that is put out -/

/-- Inside of the data the byte at a place is the one that stands there. -/
theorem byteAt_eq_getElem {data : ByteArray} {place : Nat} (h : place < data.size) :
    byteAt data place = data[place] := by
  rw [byteAt, dif_pos h]

/-- One byte more of the data. -/
theorem push_extract {data : ByteArray} {place : Nat} (h : place < data.size) :
    (data.extract 0 place).push (byteAt data place) = data.extract 0 (place + 1) := by
  rw [byteAt_eq_getElem h, ← ByteArray.append_toByteArray_singleton,
    ← ByteArray.extract_add_one (a := data) (by omega), ByteArray.extract_append_extract]
  congr 1
  omega

/-- Copying equal bytes back extends the data put out so far. -/
theorem copyBack_extract {data : ByteArray} {distance count place : Nat} (hnear : 1 ≤ distance)
    (hback : distance ≤ place) (hsize : place + count ≤ data.size)
    (hequal : ∀ i < count, byteAt data (place - distance + i) = byteAt data (place + i)) :
    copyBack distance count (data.extract 0 place) = data.extract 0 (place + count) := by
  induction count generalizing place with
  | zero => rfl
  | succ count ih =>
      have hout : (data.extract 0 place).size = place := by
        rw [ByteArray.size_extract]
        omega
      have hindex : place - distance < (data.extract 0 place).size := by omega
      have hbyte : (data.extract 0 place)[place - distance] = byteAt data place := by
        have hfirst := hequal 0 (by omega)
        have hsource : place - distance < data.size := by omega
        rw [Nat.add_zero, Nat.add_zero, byteAt_eq_getElem hsource] at hfirst
        rw [ByteArray.getElem_extract, ← hfirst]
        congr 1
        omega
      rw [copyBack]
      rw [dif_pos (by omega)]
      simp only [hout]
      rw [hbyte, push_extract (by omega), ih (by omega) (by omega), Nat.add_right_comm,
        Nat.add_assoc]
      intro i hi
      have hnext := hequal (i + 1) (by omega)
      rw [show place + 1 - distance + i = place - distance + (i + 1) by omega,
        show place + 1 + i = place + (i + 1) by omega]
      exact hnext

/-! ### Reading the tokens of a block -/

section Steps

variable {literals distances : Code} {input output : ByteArray} {position next : Nat}

/-- At the end of a block the output is what has been read. -/
theorem readTokens_of_end
    (h : readToken literals distances input position = .ok (none, next)) :
    readTokens literals distances input position output = .ok (next, output) := by
  rw [readTokens]
  split <;> rename_i hread <;> rw [h] at hread <;> cases hread
  rfl

/-- A literal is put behind the output, and reading goes on behind it. -/
theorem readTokens_of_literal {b : UInt8}
    (h : readToken literals distances input position = .ok (some (.literal b), next)) :
    readTokens literals distances input position output =
      readTokens literals distances input next (output.push b) := by
  rw [readTokens]
  split <;> rename_i hread <;> rw [h] at hread <;> cases hread
  rfl

/-- A copy that does not reach back too far repeats a part of the output, and reading goes on
behind it. -/
theorem readTokens_of_copy {length distance : Nat}
    (h : readToken literals distances input position = .ok (some (.copy length distance), next))
    (hback : distance ≤ output.size) :
    readTokens literals distances input position output =
      readTokens literals distances input next (copyBack distance length output) := by
  rw [readTokens]
  split <;> rename_i hread <;> rw [h] at hread <;> cases hread
  rw [if_neg (Nat.not_lt.2 hback)]

end Steps

/-- The bits of some tokens and of the end of their block. -/
def blockBits (tokens : List Token) : List Bool :=
  tokens.flatMap Token.bits ++ fixedWord endOfBlock

/-- The bits of a block without tokens are those of its end. -/
theorem blockBits_nil : blockBits [] = fixedWord endOfBlock := by
  rw [blockBits, List.flatMap_nil, List.nil_append]

/-- A block starts with the bits of its first token. -/
theorem blockBits_cons (token : Token) (tokens : List Token) :
    blockBits (token :: tokens) = token.bits ++ blockBits tokens := by
  rw [blockBits, List.flatMap_cons, List.append_assoc, ← blockBits]

/-- Reading the bits of covering tokens extends the data put out so far. -/
theorem readTokens_of_covers {data input : ByteArray} {place stop position : Nat}
    {tokens : List Token} (h : Covers data place tokens stop)
    (hbits : Bits.BitsAt input (blockBits tokens) position) :
    readTokens fixedLiterals fixedDistances input position (data.extract 0 place) =
      .ok (position + (blockBits tokens).length, data.extract 0 stop) := by
  induction h generalizing position with
  | nil place =>
      rw [blockBits_nil] at hbits ⊢
      exact readTokens_of_end (readToken_of_bitsAt_end hbits)
  | @literal place stop tokens hinside hcovers ih =>
      rw [blockBits_cons, Bits.bitsAt_append] at hbits
      have hwritable : (Token.literal (byteAt data place)).Writable := trivial
      have hread := readToken_of_bitsAt hwritable hbits.1
      rw [readTokens_of_literal hread, push_extract hinside, ih hbits.2, blockBits_cons,
        List.length_append, Nat.add_assoc]
  | @copy place stop length distance tokens hwritable hback hsize hequal hcovers ih =>
      rw [blockBits_cons, Bits.bitsAt_append] at hbits
      have hread := readToken_of_bitsAt hwritable hbits.1
      have hout : distance ≤ (data.extract 0 place).size := by
        rw [ByteArray.size_extract]
        omega
      rw [readTokens_of_copy hread hout, copyBack_extract hwritable.2.2.1 hback hsize hequal,
        ih hbits.2, blockBits_cons, List.length_append, Nat.add_assoc]

end Deflate

end FixtureKit

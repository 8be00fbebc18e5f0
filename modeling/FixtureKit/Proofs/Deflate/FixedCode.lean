import FixtureKit.Deflate.Compress
import FixtureKit.Deflate.Inflate
import FixtureKit.Proofs.Deflate.BitPlacement

/-!
# Tokens in the Fixed Code

What is written for a token in the fixed code is read as that token. The words of the
code lead to their symbols in the tree of the decoder (checked word by word), every length
and every distance lies in a row of its table, and the extra bits make up the difference
to the smallest value of the row. Nothing is assumed of what stands behind a token, since
no word of the code goes on.

## Main results

* `follow_fixedWord`, `follow_distanceWord`: the words of the fixed codes lead to their
  symbols.
* `readToken_of_bitsAt`: a token that can be written is read back.
* `length_bits_literal_le`, `length_bits_copy_le`: how many bits a token takes at most.
-/

namespace FixtureKit

namespace Deflate

/-! ### The words of the fixed codes -/

/-- A row of writes into an array: what stands at a place afterwards has been written there,
or stood there before. -/
theorem mem_of_foldl_setIfInBounds {α : Type} {entries : List (Nat × α)} {words : Array α}
    {key : Nat} {word : α}
    (h : (entries.foldl (fun words entry => words.setIfInBounds entry.1 entry.2) words)[key]? =
      some word) :
    (key, word) ∈ entries ∨ (words[key]? = some word ∧ key ∉ entries.map Prod.fst) := by
  induction entries generalizing words with
  | nil => exact .inr ⟨h, List.not_mem_nil⟩
  | cons entry entries ih =>
      obtain ⟨other, written⟩ := entry
      rcases ih h with hmem | ⟨hget, hnot⟩
      · exact .inl (List.mem_cons_of_mem _ hmem)
      · by_cases hkey : other = key
        · subst hkey
          rw [Array.getElem?_setIfInBounds, if_pos rfl] at hget
          split at hget
          · obtain rfl := Option.some.inj hget
            exact .inl List.mem_cons_self
          · cases hget
        · rw [Array.getElem?_setIfInBounds, if_neg hkey] at hget
          refine .inr ⟨hget, ?_⟩
          rw [List.map_cons, List.mem_cons]
          rintro (rfl | hmem)
          · exact hkey rfl
          · exact hnot hmem

/-- Entering words into a table does not change its size. -/
theorem size_foldl_setIfInBounds {α : Type} (entries : List (Nat × α)) (words : Array α) :
    (entries.foldl (fun words entry => words.setIfInBounds entry.1 entry.2) words).size =
      words.size := by
  induction entries generalizing words with
  | nil => rfl
  | cons entry entries ih => rw [List.foldl_cons, ih, Array.size_setIfInBounds]

/-- The symbols of the fixed code in the order of their words. -/
theorem map_fst_fixedLiteralWords :
    (Code.wordsOfLengths fixedLiteralLengths).map Prod.fst =
      List.range' 256 24 ++ List.range' 0 144 ++ List.range' 280 8 ++ List.range' 144 112 := by
  decide +kernel

/-- Word by word, the tree of the fixed code leads to the symbol. -/
theorem follow_fixedLiteralWords :
    ∀ entry ∈ Code.wordsOfLengths fixedLiteralLengths,
      fixedLiterals.follow entry.2 = some entry.1 ∧ entry.2.length ≤ 9 := by
  decide +kernel

/-- Every symbol has its word, of at most nine bits, in the fixed code. -/
theorem follow_fixedWord {symbol : Nat} (h : symbol < 288) :
    fixedLiterals.follow (fixedWord symbol) = some symbol ∧ (fixedWord symbol).length ≤ 9 := by
  have hsize : fixedWords.size = 288 := by
    rw [fixedWords, size_foldl_setIfInBounds, Array.size_replicate]
  have hget : fixedWords[symbol]? = some (fixedWord symbol) := by
    rw [fixedWord, Array.getElem?_eq_getElem (by omega), Option.getD_some]
  have hsymbol : symbol ∈ (Code.wordsOfLengths fixedLiteralLengths).map Prod.fst := by
    rw [map_fst_fixedLiteralWords]
    simp only [List.mem_append, List.mem_range'_1]
    omega
  rcases mem_of_foldl_setIfInBounds hget with hmem | ⟨-, hnot⟩
  · have hword := follow_fixedLiteralWords (symbol, fixedWord symbol) hmem
    dsimp only at hword
    exact hword
  · exact absurd hsymbol hnot

/-- Every distance symbol has its word of five bits. -/
theorem follow_distanceWord :
    ∀ symbol < 32, fixedDistances.follow (Code.wordOfNat 5 symbol) = some symbol := by
  decide +kernel

/-! ### Rows of the tables -/

/-- A row that is found is in the table, and its values include the one that was looked
for. -/
theorem rowOf_eq_some {table : List (Nat × Nat)} {n base count symbol : Nat}
    (h : rowOf table n = some ((base, count), symbol)) :
    table[symbol]? = some (base, count) ∧ base ≤ n ∧ n < base + 2 ^ count := by
  have hmem := List.mem_of_find?_eq_some h
  have hin := List.find?_some h
  rw [List.mem_reverse, List.mk_mem_zipIdx_iff_getElem?] at hmem
  rw [Bool.and_eq_true, decide_eq_true_eq, decide_eq_true_eq, Nat.one_shiftLeft] at hin
  exact ⟨hmem, hin⟩

/-- A row whose values include `n` is found, if there is one. -/
theorem exists_rowOf {table : List (Nat × Nat)} {n : Nat}
    (h : ∃ row ∈ table.zipIdx, row.1.1 ≤ n ∧ n < row.1.1 + 2 ^ row.1.2) :
    ∃ base count symbol, rowOf table n = some ((base, count), symbol) := by
  obtain ⟨row, hmem, hlow, hhigh⟩ := h
  have hfound : (rowOf table n).isSome = true := by
    rw [rowOf, List.find?_isSome]
    refine ⟨row, List.mem_reverse.2 hmem, ?_⟩
    rw [Bool.and_eq_true, decide_eq_true_eq, decide_eq_true_eq, Nat.one_shiftLeft]
    exact ⟨hlow, hhigh⟩
  obtain ⟨⟨⟨base, count⟩, symbol⟩, hrow⟩ := Option.isSome_iff_exists.1 hfound
  exact ⟨base, count, symbol, hrow⟩

/-- Every length that a copy can have is in a row of the table of lengths. -/
theorem exists_rowOf_lengthTable {n : Nat} (hlow : 3 ≤ n) (hhigh : n ≤ 258) :
    ∃ base count symbol, rowOf lengthTable n = some ((base, count), symbol) := by
  apply exists_rowOf
  simp only [lengthTable, List.zipIdx_cons, List.zipIdx_nil, List.mem_cons, List.not_mem_nil,
    exists_eq_or_imp, or_false, Nat.reduceAdd, Nat.reducePow, exists_eq_left]
  omega

/-- Every distance that a copy can have is in a row of the table of distances. -/
theorem exists_rowOf_distanceTable {n : Nat} (hlow : 1 ≤ n) (hhigh : n ≤ 32768) :
    ∃ base count symbol, rowOf distanceTable n = some ((base, count), symbol) := by
  apply exists_rowOf
  simp only [distanceTable, List.zipIdx_cons, List.zipIdx_nil, List.mem_cons, List.not_mem_nil,
    exists_eq_or_imp, or_false, Nat.reduceAdd, Nat.reducePow, exists_eq_left]
  omega

/-! ### Reading what was written for a token -/

/-- A token for which the fixed code has bits. -/
def Token.Writable : Token → Prop
  | .literal _ => True
  | .copy length distance => 3 ≤ length ∧ length ≤ 258 ∧ 1 ≤ distance ∧ distance ≤ 32768

/-- The bits of a copy, by the rows of its length and its distance. -/
theorem bits_copy {length distance : Nat} (h : (Token.copy length distance).Writable) :
    ∃ base count symbol nearest further distanceSymbol,
      lengthTable[symbol]? = some (base, count) ∧ base ≤ length ∧ length < base + 2 ^ count ∧
      distanceTable[distanceSymbol]? = some (nearest, further) ∧ nearest ≤ distance ∧
      distance < nearest + 2 ^ further ∧
      (Token.copy length distance).bits =
        fixedWord (257 + symbol) ++ Bits.bitsOfNat count (length - base) ++
          Code.wordOfNat 5 distanceSymbol ++ Bits.bitsOfNat further (distance - nearest) := by
  obtain ⟨hshort, hlong, hnear, hfar⟩ := h
  obtain ⟨base, count, symbol, hrow⟩ := exists_rowOf_lengthTable hshort hlong
  obtain ⟨nearest, further, distanceSymbol, hdistanceRow⟩ := exists_rowOf_distanceTable hnear hfar
  obtain ⟨hget, hlow, hhigh⟩ := rowOf_eq_some hrow
  obtain ⟨hdistanceGet, hdistanceLow, hdistanceHigh⟩ := rowOf_eq_some hdistanceRow
  refine ⟨base, count, symbol, nearest, further, distanceSymbol, hget, hlow, hhigh,
    hdistanceGet, hdistanceLow, hdistanceHigh, ?_⟩
  rw [Token.bits, hrow, hdistanceRow]

/-- A number is read back from its further bits, whatever row of a table it is in. -/
theorem readExtra_of_bitsAt {input : ByteArray} {position base count n : Nat} (hlow : base ≤ n)
    (hhigh : n < base + 2 ^ count)
    (h : Bits.BitsAt input (Bits.bitsOfNat count (n - base)) position) :
    readExtra input position base count = .ok n := by
  rw [readExtra, Bits.readNumber_of_bitsAt h (by omega)]
  dsimp only
  rw [Nat.add_sub_cancel' hlow]

/-- A distance is read back from the word of its row and its further bits. -/
theorem readDistance_of_bitsAt {input : ByteArray} {position nearest further symbol n : Nat}
    (hget : distanceTable[symbol]? = some (nearest, further)) (hlow : nearest ≤ n)
    (hhigh : n < nearest + 2 ^ further)
    (h : Bits.BitsAt input (Code.wordOfNat 5 symbol ++ Bits.bitsOfNat further (n - nearest))
      position) :
    readDistance fixedDistances input position = .ok (n, position + 5 + further) := by
  obtain ⟨hin, -⟩ := List.getElem?_eq_some_iff.1 hget
  have hsymbol : symbol < 32 := Nat.lt_trans hin (by decide)
  have hlength : (Code.wordOfNat 5 symbol).length = 5 := by
    rw [Code.wordOfNat, List.length_reverse, Bits.length_bitsOfNat]
  rw [Bits.bitsAt_append, hlength] at h
  rw [readDistance, Code.decode_of_bitsAt (follow_distanceWord symbol hsymbol) h.1, hlength]
  dsimp only
  rw [hget]
  dsimp only
  rw [readExtra_of_bitsAt hlow hhigh h.2]

/-- A copy is read by its parts: the symbol of its length, the extra bits, and the distance. -/
theorem readToken_eq_copy {literals distances : Code} {input : ByteArray}
    {position symbol next base count length distance last : Nat}
    (hdecode : literals.decode input position = .ok (257 + symbol, next))
    (hget : lengthTable[symbol]? = some (base, count))
    (hextra : readExtra input next base count = .ok length)
    (hdistance : readDistance distances input (next + count) = .ok (distance, last)) :
    readToken literals distances input position = .ok (some (.copy length distance), last) := by
  rw [readToken, hdecode]
  dsimp only
  rw [if_neg (by rw [endOfBlock]; omega), if_neg (by rw [endOfBlock]; omega),
    Nat.add_sub_cancel_left, hget]
  dsimp only
  rw [hextra]
  dsimp only
  rw [hdistance]

/-- The end of a block is read where its word stands. -/
theorem readToken_of_bitsAt_end {input : ByteArray} {position : Nat}
    (h : Bits.BitsAt input (fixedWord endOfBlock) position) :
    readToken fixedLiterals fixedDistances input position =
      .ok (none, position + (fixedWord endOfBlock).length) := by
  have hsymbol : endOfBlock < 288 := by decide
  have hfollow := (follow_fixedWord hsymbol).1
  rw [readToken, Code.decode_of_bitsAt hfollow h]
  dsimp only
  rw [if_neg (Nat.lt_irrefl _), if_pos rfl]

/-- A token that can be written is read where its bits stand. -/
theorem readToken_of_bitsAt {input : ByteArray} {token : Token} {position : Nat}
    (hwritable : token.Writable) (h : Bits.BitsAt input token.bits position) :
    readToken fixedLiterals fixedDistances input position =
      .ok (some token, position + token.bits.length) := by
  cases token with
  | literal b =>
      have hsymbol : b.toNat < endOfBlock := UInt8.toNat_lt b
      have hfollow := (follow_fixedWord (Nat.lt_trans hsymbol (by decide))).1
      rw [Token.bits] at h ⊢
      rw [readToken, Code.decode_of_bitsAt hfollow h]
      dsimp only
      rw [if_pos hsymbol, UInt8.ofNat_toNat]
  | copy length distance =>
      obtain ⟨base, count, symbol, nearest, further, distanceSymbol, hget, hlow, hhigh,
        hdistanceGet, hdistanceLow, hdistanceHigh, hbits⟩ := bits_copy hwritable
      obtain ⟨hin, -⟩ := List.getElem?_eq_some_iff.1 hget
      have hsymbol : symbol < 29 := hin
      have hlengthSymbol : 257 + symbol < 288 := by omega
      have hfollow := (follow_fixedWord hlengthSymbol).1
      have hword : (Code.wordOfNat 5 distanceSymbol).length = 5 := by
        rw [Code.wordOfNat, List.length_reverse, Bits.length_bitsOfNat]
      have hnext : position + (Token.copy length distance).bits.length =
          position + (fixedWord (257 + symbol)).length + count + 5 + further := by
        rw [hbits, List.length_append, List.length_append, List.length_append,
          Bits.length_bitsOfNat, Bits.length_bitsOfNat, hword]
        omega
      rw [hbits, List.append_assoc, List.append_assoc, Bits.bitsAt_append, Bits.bitsAt_append,
        Bits.length_bitsOfNat] at h
      obtain ⟨hsymbolBits, hextraBits, hdistanceBits⟩ := h
      rw [hnext]
      exact readToken_eq_copy (Code.decode_of_bitsAt hfollow hsymbolBits) hget
        (readExtra_of_bitsAt hlow hhigh hextraBits)
        (readDistance_of_bitsAt hdistanceGet hdistanceLow hdistanceHigh hdistanceBits)

/-- A literal takes at most nine bits. -/
theorem length_bits_literal_le (b : UInt8) : (Token.literal b).bits.length ≤ 9 :=
  (follow_fixedWord (Nat.lt_trans (UInt8.toNat_lt b) (by decide))).2

/-- A copy takes at most 32 bits: nine and five for its symbols, with at most five and thirteen
extra bits. -/
theorem length_bits_copy_le {length distance : Nat}
    (hwritable : (Token.copy length distance).Writable) :
    (Token.copy length distance).bits.length ≤ 32 := by
  obtain ⟨base, count, symbol, nearest, further, distanceSymbol, hget, -, -,
    hdistanceGet, -, -, hbits⟩ := bits_copy hwritable
  have hcount : ∀ row ∈ lengthTable, row.2 ≤ 5 := by decide
  have hfurther : ∀ row ∈ distanceTable, row.2 ≤ 13 := by decide
  have hlengthRow := hcount _ (List.mem_of_getElem? hget)
  have hdistanceRow := hfurther _ (List.mem_of_getElem? hdistanceGet)
  obtain ⟨hin, -⟩ := List.getElem?_eq_some_iff.1 hget
  have hsymbol : symbol < 29 := hin
  have hlengthSymbol : 257 + symbol < 288 := by omega
  have hword := (follow_fixedWord hlengthSymbol).2
  rw [hbits]
  simp only [List.length_append, Bits.length_bitsOfNat, Code.wordOfNat, List.length_reverse]
  omega

end Deflate

end FixtureKit

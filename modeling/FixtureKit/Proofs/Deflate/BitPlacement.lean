import FixtureKit.Deflate.Code
import FixtureKit.Proofs.Bytes.Placement

/-!
# What Stands Where in a Bit Stream

The bit-level companion of `Bytes.StandsAt`. The bits of a byte array are those of its
bytes one after the other, the lowest bit of a byte first, and `BitsAt input bits position`
says that a row of bits is read from a position on. Packing is then a statement about
rows alone: the bits of the packed bytes are the bits that were packed, followed by the
zeros that fill up the last byte (`bitsOf_pack`).

## Main results

* `bit?_eq`: a single bit is read off the row.
* `bitsOf_pack`, `size_pack`: what packing writes, and how many bytes it takes.
* `readNumber_of_bitsAt`: a number whose bits stand at a position is read there.
* `Code.decode_of_bitsAt`: a word of a code that stands at a position gives its symbol.
-/

namespace FixtureKit

namespace Bits

/-! ### The low bits of a number -/

/-- The bits of a number are its lowest ones and, behind them, those of what is left when they are
shifted out. -/
theorem bitsOfNat_add (first second n : Nat) :
    bitsOfNat (first + second) n = bitsOfNat first n ++ bitsOfNat second (n / 2 ^ first) := by
  induction first generalizing n with
  | zero => simp [bitsOfNat]
  | succ first ih =>
      rw [Nat.succ_add, bitsOfNat, bitsOfNat, ih, Nat.div_div_eq_div_mul, Nat.pow_succ,
        Nat.mul_comm 2, List.cons_append]

/-- What is added above the bits that are looked at makes no difference. -/
theorem bitsOfNat_add_mul (count n high : Nat) :
    bitsOfNat count (n + high * 2 ^ count) = bitsOfNat count n := by
  induction count generalizing n with
  | zero => rfl
  | succ count ih =>
      have hhalf : high * 2 ^ (count + 1) = 2 * (high * 2 ^ count) := by
        rw [Nat.pow_succ]; ac_rfl
      have hmod : (n + high * 2 ^ (count + 1)) % 2 = n % 2 := by omega
      have hdiv : (n + high * 2 ^ (count + 1)) / 2 = n / 2 + high * 2 ^ count := by omega
      rw [bitsOfNat, bitsOfNat, hmod, hdiv, ih]

/-- One more bit above those of a number that has no more. -/
theorem bitsOfNat_succ_of_lt {count n : Nat} (h : n < 2 ^ count) (b : Bool) :
    bitsOfNat (count + 1) (n + b.toNat * 2 ^ count) = bitsOfNat count n ++ [b] := by
  have hpos : 0 < 2 ^ count := Nat.two_pow_pos count
  have hdiv : (n + b.toNat * 2 ^ count) / 2 ^ count = b.toNat := by
    rw [Nat.add_mul_div_right _ _ hpos, Nat.div_eq_of_lt h, Nat.zero_add]
  rw [bitsOfNat_add, bitsOfNat_add_mul, hdiv]
  cases b <;> rfl

/-- A bit of a number is found by dividing by its power of two. -/
theorem getElem?_bitsOfNat {count n i : Nat} (h : i < count) :
    (bitsOfNat count n)[i]? = some (n / 2 ^ i % 2 == 1) := by
  induction count generalizing n i with
  | zero => omega
  | succ count ih =>
      cases i with
      | zero => simp [bitsOfNat]
      | succ i =>
          rw [bitsOfNat, List.getElem?_cons_succ, ih (by omega), Nat.div_div_eq_div_mul,
            Nat.pow_succ, Nat.mul_comm 2]

/-! ### Rows of bits -/

/-- The bits of a row of bytes, the lowest bit of each byte first. -/
def bitsOf (bytes : List UInt8) : List Bool :=
  bytes.flatMap fun b => bitsOfNat 8 b.toNat

@[simp]
theorem bitsOf_nil : bitsOf [] = [] := rfl

/-- Bytes are read from the first one on, each from its lowest bit on. -/
theorem bitsOf_cons (b : UInt8) (bytes : List UInt8) :
    bitsOf (b :: bytes) = bitsOfNat 8 b.toNat ++ bitsOf bytes := rfl

/-- The bits of bytes that stand one behind the other do so, too. -/
theorem bitsOf_append (first second : List UInt8) :
    bitsOf (first ++ second) = bitsOf first ++ bitsOf second :=
  List.flatMap_append

/-- Each byte has eight bits. -/
theorem length_bitsOf (bytes : List UInt8) : (bitsOf bytes).length = 8 * bytes.length := by
  induction bytes with
  | nil => rfl
  | cons b bytes ih =>
      rw [bitsOf_cons, List.length_append, length_bitsOfNat, ih, List.length_cons]
      omega

/-- A position among the bits of bytes is one byte of them and one bit of it. -/
theorem getElem?_bitsOf (bytes : List UInt8) (position : Nat) :
    (bitsOf bytes)[position]? =
      bytes[position / 8]?.map fun b => b.toNat / 2 ^ (position % 8) % 2 == 1 := by
  induction bytes generalizing position with
  | nil => simp
  | cons b bytes ih =>
      rw [bitsOf_cons]
      by_cases h : position < 8
      · have hbyte : position / 8 = 0 := Nat.div_eq_of_lt h
        have hplace : position % 8 = position := Nat.mod_eq_of_lt h
        rw [List.getElem?_append_left (by rw [length_bitsOfNat]; exact h),
          getElem?_bitsOfNat h, hbyte, hplace]
        rfl
      · obtain ⟨further, rfl⟩ : ∃ further, position = further + 8 := ⟨position - 8, by omega⟩
        rw [List.getElem?_append_right (by rw [length_bitsOfNat]; omega), length_bitsOfNat,
          Nat.add_sub_cancel, ih, Nat.add_mod_right, Nat.add_div_right _ (by decide),
          List.getElem?_cons_succ]

/-- A bit of a byte, by shifting it to the lowest place. -/
theorem shiftRight_and_one_eq {b : UInt8} {i : Nat} (h : i < 8) :
    ((b >>> UInt8.ofNat i) &&& 1 == 1) = (b.toNat / 2 ^ i % 2 == 1) := by
  have hplace : (UInt8.ofNat i).toNat % 8 = i := by
    rw [UInt8.toNat_ofNat']
    omega
  rw [Bool.eq_iff_iff, beq_iff_eq, beq_iff_eq, ← UInt8.toNat_inj, UInt8.toNat_and,
    UInt8.toNat_shiftRight, hplace, Nat.shiftRight_eq_div_pow]
  exact Nat.and_one_is_mod _ ▸ Iff.rfl

/-- A single bit is read off the row. -/
theorem bit?_eq (input : ByteArray) (position : Nat) :
    bit? input position = (bitsOf input.data.toList)[position]? := by
  rw [getElem?_bitsOf, Array.getElem?_toList, bit?]
  split
  · next h =>
    rw [shiftRight_and_one_eq (Nat.mod_lt _ (by decide)), ByteArray.getElem_eq_getElem_data,
      Array.getElem?_eq_getElem h]
    rfl
  · next h =>
    rw [Array.getElem?_eq_none (by rw [ByteArray.size_data]; omega)]
    rfl

/-- A row of bits is read from a position on. -/
def BitsAt (input : ByteArray) (bits : List Bool) (position : Nat) : Prop :=
  bits <+: (bitsOf input.data.toList).drop position

/-- Bits stand somewhere exactly if the first of them do, and the others behind those. -/
theorem bitsAt_append {input : ByteArray} {first second : List Bool} {position : Nat} :
    BitsAt input (first ++ second) position ↔
      BitsAt input first position ∧ BitsAt input second (position + first.length) := by
  constructor
  · rintro ⟨rest, h⟩
    refine ⟨⟨second ++ rest, by rw [← h, List.append_assoc]⟩, ⟨rest, ?_⟩⟩
    rw [← List.drop_drop, ← h, List.append_assoc, List.drop_left]
  · rintro ⟨⟨behind, hfirst⟩, hsecond⟩
    rw [BitsAt, ← List.drop_drop, ← hfirst, List.drop_left] at hsecond
    rw [BitsAt, ← hfirst]
    exact (List.prefix_append_right_inj first).2 hsecond

/-- Bits stand somewhere exactly if the first of them can be read there, and the others stand
behind it. -/
theorem bitsAt_cons {input : ByteArray} {b : Bool} {bits : List Bool} {position : Nat} :
    BitsAt input (b :: bits) position ↔
      bit? input position = some b ∧ BitsAt input bits (position + 1) := by
  rw [BitsAt, BitsAt, bit?_eq]
  by_cases h : position < (bitsOf input.data.toList).length
  · rw [List.drop_eq_getElem_cons h, List.cons_prefix_cons, List.getElem?_eq_getElem h]
    simp only [Option.some.injEq, eq_comm]
  · rw [List.drop_eq_nil_of_le (by omega), List.getElem?_eq_none (by omega)]
    simp

/-- Bytes that stand at a place give their bits eight times as far on. -/
theorem bitsAt_of_standsAt {input : ByteArray} {piece : List UInt8} {start : Nat}
    (h : Bytes.StandsAt input piece start) : BitsAt input (bitsOf piece) (8 * start) := by
  obtain ⟨rest, hrest⟩ := h
  by_cases hstart : start ≤ input.data.toList.length
  · have hlength : 8 * start = (bitsOf (input.data.toList.take start)).length := by
      rw [length_bitsOf, List.length_take, Nat.min_eq_left hstart]
    have hsplit : bitsOf input.data.toList =
        bitsOf (input.data.toList.take start) ++ bitsOf (input.data.toList.drop start) := by
      rw [← bitsOf_append, List.take_append_drop]
    refine ⟨bitsOf rest, ?_⟩
    rw [hsplit, hlength, List.drop_left, ← hrest, bitsOf_append]
  · rw [List.drop_eq_nil_of_le (by omega), List.append_eq_nil_iff] at hrest
    rw [hrest.1]
    exact List.nil_prefix

/-! ### Reading numbers -/

/-- A number whose bits stand at a position is read there. -/
theorem readNumber_of_bitsAt {input : ByteArray} {count n position : Nat}
    (h : BitsAt input (bitsOfNat count n) position) (hfits : n < 2 ^ count) :
    readNumber input position count = .ok n := by
  induction count generalizing n position with
  | zero =>
      have hn : n = 0 := Nat.lt_one_iff.1 hfits
      rw [readNumber, hn]
  | succ count ih =>
      rw [bitsOfNat, bitsAt_cons] at h
      obtain ⟨hbit, hrest⟩ := h
      have hhalf : n / 2 < 2 ^ count := by
        rw [Nat.pow_succ] at hfits
        omega
      rw [readNumber, hbit]
      dsimp only
      rw [ih hrest hhalf]
      dsimp only
      congr 1
      rcases Nat.mod_two_eq_zero_or_one n with hmod | hmod
      · rw [hmod]; simp only [Nat.reduceBEq, Bool.toNat_false]; omega
      · rw [hmod]; simp only [BEq.rfl, Bool.toNat_true]; omega

/-! ### Packing -/

/-- A byte with room above its low bits, after one more bit has been put there. -/
theorem toNat_setBit {waiting : UInt8} {count : Nat} (hcount : count < 8)
    (hfits : waiting.toNat < 2 ^ count) (b : Bool) :
    (if b then waiting ||| (1 <<< UInt8.ofNat count) else waiting).toNat =
      waiting.toNat + b.toNat * 2 ^ count := by
  cases b with
  | false => simp
  | true =>
      have hplace : (UInt8.ofNat count).toNat % 8 = count := by
        rw [UInt8.toNat_ofNat']
        omega
      have hbit : ((1 : UInt8) <<< UInt8.ofNat count).toNat = 2 ^ count := by
        rw [UInt8.toNat_shiftLeft, hplace, UInt8.toNat_one, Nat.one_shiftLeft]
        exact Nat.mod_eq_of_lt (Nat.pow_lt_pow_right (by decide) hcount)
      have hdisjoint := Nat.two_pow_add_eq_or_of_lt hfits 1
      rw [Nat.mul_one] at hdisjoint
      rw [if_pos rfl, UInt8.toNat_or, hbit, Bool.toNat_true, Nat.or_comm, Nat.one_mul,
        ← hdisjoint, Nat.add_comm]

/-- Packing goes on behind what is there: the bits of the bytes so far, those that wait, and
the new ones, up to the zeros that fill the last byte. -/
theorem bitsOf_packFrom (output : ByteArray) (waiting : UInt8) (count : Nat) (bits : List Bool)
    (hcount : count < 8) (hfits : waiting.toNat < 2 ^ count) :
    ∃ filler, bitsOf (packFrom output waiting count bits).data.toList =
      bitsOf output.data.toList ++ bitsOfNat count waiting.toNat ++ bits ++ filler := by
  induction bits generalizing output waiting count with
  | nil =>
      rw [packFrom]
      split
      · next hzero =>
        subst hzero
        exact ⟨[], by simp [bitsOfNat]⟩
      · refine ⟨bitsOfNat (8 - count) (waiting.toNat / 2 ^ count), ?_⟩
        have hbyte := bitsOfNat_add count (8 - count) waiting.toNat
        rw [Nat.add_sub_cancel' (by omega)] at hbyte
        rw [ByteArray.data_push, Array.toList_push, bitsOf_append, bitsOf_cons, bitsOf_nil, hbyte]
        simp only [List.append_nil, List.append_assoc]
  | cons b bits ih =>
      have hset := toNat_setBit hcount hfits b
      have hrow := bitsOfNat_succ_of_lt hfits b
      rw [packFrom]
      generalize (if b then waiting ||| (1 <<< UInt8.ofNat count) else waiting) = next at hset ⊢
      rw [← hset] at hrow
      split
      · next hseven =>
        subst hseven
        obtain ⟨filler, h⟩ := ih (output.push next) 0 0 (by decide) (by decide)
        refine ⟨filler, ?_⟩
        rw [h, ByteArray.data_push, Array.toList_push, bitsOf_append, bitsOf_cons, bitsOf_nil, hrow]
        simp only [bitsOfNat, List.append_nil, List.append_assoc, List.cons_append,
          List.nil_append]
      · have hmore : next.toNat < 2 ^ (count + 1) := by
          rw [hset, Nat.pow_succ]
          cases b <;> simp only [Bool.toNat_false, Bool.toNat_true] <;> omega
        obtain ⟨filler, h⟩ := ih output next (count + 1) (by omega) hmore
        refine ⟨filler, ?_⟩
        rw [h, hrow]
        simp only [List.append_assoc, List.cons_append, List.nil_append]

/-- Packing adds the bits that wait to those that come and rounds up to whole bytes. -/
theorem size_packFrom (output : ByteArray) (waiting : UInt8) (count : Nat) (bits : List Bool)
    (hcount : count < 8) :
    (packFrom output waiting count bits).size = output.size + (count + bits.length + 7) / 8 := by
  induction bits generalizing output waiting count with
  | nil =>
      rw [packFrom, List.length_nil]
      split
      · omega
      · rw [ByteArray.size_push]
        omega
  | cons b bits ih =>
      rw [packFrom, List.length_cons]
      split
      · rw [ih _ _ _ (by decide), ByteArray.size_push]
        omega
      · rw [ih _ _ _ (by omega)]
        omega

/-- The bits of packed bytes are those that were packed, and what fills the last byte. -/
theorem bitsOf_pack (bits : List Bool) :
    ∃ filler, bitsOf (pack bits).data.toList = bits ++ filler := by
  obtain ⟨filler, h⟩ := bitsOf_packFrom ByteArray.empty 0 0 bits (by decide) (by decide)
  exact ⟨filler, by rw [pack, h]; rfl⟩

/-- Packed bits take as many bytes as they fill, the last of them perhaps in part. -/
theorem size_pack (bits : List Bool) : (pack bits).size = (bits.length + 7) / 8 := by
  rw [pack, size_packFrom _ _ _ _ (by decide), ByteArray.size_empty]
  omega

/-- Packed bits stand where the bytes do that hold them. -/
theorem bitsAt_of_standsAt_pack {input : ByteArray} {bits : List Bool} {start : Nat}
    (h : Bytes.StandsAt input (pack bits).data.toList start) : BitsAt input bits (8 * start) := by
  obtain ⟨filler, hrow⟩ := bitsOf_pack bits
  have hall := bitsAt_of_standsAt h
  rw [hrow, bitsAt_append] at hall
  exact hall.1

end Bits

namespace Deflate

/-! ### Words of a code -/

/-- The symbol to which a word leads in a tree. -/
def Tree.follow : Tree → List Bool → Option Nat
  | .leaf symbol, [] => some symbol
  | .node zero _, false :: word => zero.follow word
  | .node _ one, true :: word => one.follow word
  | _, _ => Option.none

/-- The symbol to which a word leads in a code. -/
def Code.follow (code : Code) : List Bool → Option Nat
  | [] => none
  | false :: word => code.zero.follow word
  | true :: word => code.one.follow word

/-- Where the word of a symbol stands the symbol is decoded, and reading goes on behind the
word. -/
theorem Tree.decode_of_bitsAt {tree : Tree} {input : ByteArray} {word : List Bool}
    {symbol position : Nat} (hfollow : tree.follow word = some symbol)
    (h : Bits.BitsAt input word position) :
    tree.decode input position = .ok (symbol, position + word.length) := by
  induction tree generalizing word position with
  | none => simp [Tree.follow] at hfollow
  | leaf other =>
      cases word with
      | nil => simpa [Tree.follow, Tree.decode] using hfollow
      | cons b word => simp [Tree.follow] at hfollow
  | node zero one ihzero ihone =>
      cases word with
      | nil => simp [Tree.follow] at hfollow
      | cons b word =>
          rw [Bits.bitsAt_cons] at h
          have hlength : position + (b :: word).length = position + 1 + word.length := by
            rw [List.length_cons]
            omega
          rw [Tree.decode, h.1, hlength]
          cases b with
          | false => exact ihzero hfollow h.2
          | true => exact ihone hfollow h.2

/-- A word of a code that stands at a position gives its symbol. -/
theorem Code.decode_of_bitsAt {code : Code} {input : ByteArray} {word : List Bool}
    {symbol position : Nat} (hfollow : code.follow word = some symbol)
    (h : Bits.BitsAt input word position) :
    code.decode input position = .ok (symbol, position + word.length) := by
  cases word with
  | nil => simp [Code.follow] at hfollow
  | cons b word =>
      rw [Bits.bitsAt_cons] at h
      have hlength : position + (b :: word).length = position + 1 + word.length := by
        rw [List.length_cons]
        omega
      rw [Code.decode, h.1, hlength]
      cases b with
      | false => exact Tree.decode_of_bitsAt hfollow h.2
      | true => exact Tree.decode_of_bitsAt hfollow h.2

end Deflate

end FixtureKit

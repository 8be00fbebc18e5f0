import FixtureKit.Deflate.Bits

/-!
# Prefix Codes

A code is a pair of trees, one for each value of the first bit; a word of the code is the way to a
leaf. A code is given by the length of the word of each symbol: words are numbered by length and,
among words of one length, by symbol.

## Conventions

* A bit after which no word of the code is possible any more is an error at once. A stream that
  ends before is incomplete.
* Every symbol takes at least one bit.

## Main results

* `Code.lt_of_decode` — a symbol that is decoded ends behind its start and inside the bytes.
-/

namespace FixtureKit

namespace Deflate

/-- The words of a code that go on behind some bits. -/
inductive Tree
  /-- No word goes on here. -/
  | none
  /-- The word is complete. -/
  | leaf (symbol : Nat)
  /-- The ways on by a zero and by a one. -/
  | node (zero one : Tree)

namespace Tree

/-- Adds a word. -/
def insert (symbol : Nat) : List Bool → Tree → Tree
  | [], _ => .leaf symbol
  | false :: word, .node zero one => .node (insert symbol word zero) one
  | true :: word, .node zero one => .node zero (insert symbol word one)
  | false :: word, _ => .node (insert symbol word .none) .none
  | true :: word, _ => .node .none (insert symbol word .none)

/-- Reads a word from a position on and answers its symbol and the position behind it. -/
def decode (input : ByteArray) : Tree → (position : Nat) → Except IoError (Nat × Nat)
  | .none, _ => .error .corruptStream
  | .leaf symbol, position => .ok (symbol, position)
  | .node zero one, position =>
    match Bits.bit? input position with
    | Option.none => .error .incompleteStream
    | some false => decode input zero (position + 1)
    | some true => decode input one (position + 1)

/-- A symbol that is decoded ends inside the input, and reading it does not step back. -/
theorem le_of_decode {input : ByteArray} {tree : Tree} {position symbol next : Nat}
    (start : position ≤ 8 * input.size) (h : tree.decode input position = .ok (symbol, next)) :
    position ≤ next ∧ next ≤ 8 * input.size := by
  induction tree generalizing position with
  | none => cases h
  | leaf _ =>
    cases h
    exact ⟨Nat.le_refl _, start⟩
  | node zero one ihzero ihone =>
    rw [decode] at h
    split at h
    · cases h
    · next hbit =>
      have := Bits.lt_of_bit? hbit
      have := ihzero (by omega) h
      omega
    · next hbit =>
      have := Bits.lt_of_bit? hbit
      have := ihone (by omega) h
      omega

end Tree

/-- A prefix code: the ways on by a zero and by a one. -/
structure Code where
  zero : Tree
  one : Tree

namespace Code

/-- The code without words. -/
def empty : Code := ⟨.none, .none⟩

/-- Adds a word, which is not empty. -/
def insert (code : Code) (symbol : Nat) : List Bool → Code
  | [] => code
  | false :: word => { code with zero := code.zero.insert symbol word }
  | true :: word => { code with one := code.one.insert symbol word }

/-- Reads a word from a position on and answers its symbol and the position behind it. -/
def decode (input : ByteArray) (code : Code) (position : Nat) : Except IoError (Nat × Nat) :=
  match Bits.bit? input position with
  | none => .error .incompleteStream
  | some false => code.zero.decode input (position + 1)
  | some true => code.one.decode input (position + 1)

/-- A symbol that is decoded ends behind its start and inside the bytes. -/
theorem lt_of_decode {input : ByteArray} {code : Code} {position symbol next : Nat}
    (h : code.decode input position = .ok (symbol, next)) :
    position < next ∧ next ≤ 8 * input.size := by
  unfold decode at h
  split at h
  · cases h
  all_goals
    next hbit =>
      have := Bits.lt_of_bit? hbit
      have := Tree.le_of_decode (by omega) h
      omega

/-! ### Codes from word lengths -/

/-- The longest word. -/
def longestWord : Nat := 15

/-- The bits of a word of the given length, the highest first. -/
def wordOfNat (length n : Nat) : List Bool :=
  (Bits.bitsOfNat length n).reverse

/-- The symbols whose words have the given length, in order. -/
def symbolsOfLength (lengths : List Nat) (length : Nat) : List Nat :=
  (lengths.zipIdx.filter fun entry => entry.1 = length).map Prod.snd

/-- The words of the given length, the first of which has the number `first`. -/
def wordsOfLength (symbols : List Nat) (length first : Nat) : List (Nat × List Bool) :=
  symbols.zipIdx.map fun entry => (entry.1, wordOfNat length (first + entry.2))

/-- The words of a code, each with its symbol, for `count` word lengths from `length` on. -/
def wordsFrom (lengths : List Nat) : (count length first : Nat) → List (Nat × List Bool)
  | 0, _, _ => []
  | count + 1, length, first =>
    let symbols := symbolsOfLength lengths length
    wordsOfLength symbols length first ++
      wordsFrom lengths count (length + 1) (2 * (first + symbols.length))

/-- The words of the code in which symbol `i` has a word of `lengths[i]` bits, or none for zero. -/
def wordsOfLengths (lengths : List Nat) : List (Nat × List Bool) :=
  wordsFrom lengths longestWord 1 0

/-- The code whose words have the given lengths. -/
def ofLengths (lengths : List Nat) : Code :=
  (wordsOfLengths lengths).foldl (fun code entry => code.insert entry.1 entry.2) empty

/-- The part of all bit sequences that start with a word, in units of the longest word. -/
def weight (lengths : List Nat) : Nat :=
  lengths.foldl
    (fun sum length => sum + if length = 0 then 0 else 1 <<< (longestWord - length)) 0

/-- Whether every bit sequence starts with exactly one word. -/
def isComplete (lengths : List Nat) : Bool :=
  weight lengths == 1 <<< longestWord

/-- Whether there are no words, or only one and that of a single bit. -/
def isTrivial (lengths : List Nat) : Bool :=
  match lengths.filter (· ≠ 0) with
  | [] => true
  | [length] => length == 1
  | _ => false

end Code

end Deflate

end FixtureKit

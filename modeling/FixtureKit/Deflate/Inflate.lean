import FixtureKit.Bytes
import FixtureKit.Deflate.Token

/-!
# Reading Compressed Data

A stream is a row of blocks, the last of which is marked. A block holds bytes as they are, or
tokens in the fixed code, or tokens in a code that the block describes. What follows the last
block is ignored.

## Conventions

* A stream that ends too early is incomplete, one that breaks a rule is corrupt, and of two faults
  the one that is met first counts.

## Main results

* `lt_of_readToken`, `lt_of_readBlock` — reading makes progress and stays inside the bytes.
-/

namespace FixtureKit

namespace Deflate

/-! ### Tokens -/

/-- Reads the extra bits of a symbol with the given smallest value. -/
def readExtra (input : ByteArray) (position base count : Nat) : Except IoError Nat :=
  match Bits.readNumber input position count with
  | .error e => .error e
  | .ok extra => .ok (base + extra)

/-- Reads the distance of a copy and answers it with the position behind it. -/
def readDistance (distances : Code) (input : ByteArray) (position : Nat) :
    Except IoError (Nat × Nat) :=
  match distances.decode input position with
  | .error e => .error e
  | .ok (symbol, position) =>
    match distanceTable[symbol]? with
    | none => .error .corruptStream
    | some (base, count) =>
      match readExtra input position base count with
      | .error e => .error e
      | .ok distance => .ok (distance, position + count)

/-- Reads a token and answers it with the position behind it; no token is the end of a block. -/
def readToken (literals distances : Code) (input : ByteArray) (position : Nat) :
    Except IoError (Option Token × Nat) :=
  match literals.decode input position with
  | .error e => .error e
  | .ok (symbol, position) =>
    if symbol < endOfBlock then
      .ok (some (.literal (UInt8.ofNat symbol)), position)
    else if symbol = endOfBlock then
      .ok (none, position)
    else
      match lengthTable[symbol - 257]? with
      | none => .error .corruptStream
      | some (base, count) =>
        match readExtra input position base count with
        | .error e => .error e
        | .ok length =>
          match readDistance distances input (position + count) with
          | .error e => .error e
          | .ok (distance, position) => .ok (some (.copy length distance), position)

/-- The further bits of a length or a distance end inside the input. -/
theorem le_of_readExtra {input : ByteArray} {position base count n : Nat}
    (start : position ≤ 8 * input.size) (h : readExtra input position base count = .ok n) :
    position + count ≤ 8 * input.size := by
  unfold readExtra at h
  split at h
  · cases h
  · next hread => exact Bits.le_of_readNumber start hread

/-- Reading a distance takes at least one bit and stays inside the input. -/
theorem lt_of_readDistance {distances : Code} {input : ByteArray} {position distance next : Nat}
    (h : readDistance distances input position = .ok (distance, next)) :
    position < next ∧ next ≤ 8 * input.size := by
  unfold readDistance at h
  split at h
  · cases h
  · next hdecode =>
    have progress := Code.lt_of_decode hdecode
    split at h
    · cases h
    · split at h
      · cases h
      · next hextra =>
        have := le_of_readExtra progress.2 hextra
        cases h
        omega

/-- Reading a token takes at least one bit and stays inside the input. This is what makes the
reading of a block end. -/
theorem lt_of_readToken {literals distances : Code} {input : ByteArray} {position next : Nat}
    {token : Option Token}
    (h : readToken literals distances input position = .ok (token, next)) :
    position < next ∧ next ≤ 8 * input.size := by
  unfold readToken at h
  split at h
  · cases h
  · next hdecode =>
    have progress := Code.lt_of_decode hdecode
    split at h
    · cases h
      exact progress
    · split at h
      · cases h
        exact progress
      · split at h
        · cases h
        · split at h
          · cases h
          · next hextra =>
            split at h
            · cases h
            · next hdistance =>
              have := lt_of_readDistance hdistance
              cases h
              omega

/-- Reads tokens to the end of a block, applies them, and answers the position behind the block
with the output. A copy from before the output is corrupt. -/
def readTokens (literals distances : Code) (input : ByteArray) (position : Nat)
    (output : ByteArray) : Except IoError (Nat × ByteArray) :=
  match _progress : readToken literals distances input position with
  | .error e => .error e
  | .ok (none, next) => .ok (next, output)
  | .ok (some (.literal b), next) => readTokens literals distances input next (output.push b)
  | .ok (some (.copy length distance), next) =>
    if output.size < distance then
      .error .corruptStream
    else
      readTokens literals distances input next (copyBack distance length output)
termination_by 8 * input.size - position
decreasing_by
  all_goals
    have := lt_of_readToken _progress
    omega

/-- Reading the tokens of a block takes at least the bits of its end and stays inside the input. -/
theorem lt_of_readTokens {literals distances : Code} {input : ByteArray} {position next : Nat}
    {output result : ByteArray}
    (h : readTokens literals distances input position output = .ok (next, result)) :
    position < next ∧ next ≤ 8 * input.size := by
  fun_induction readTokens literals distances input position output with
  | case1 => cases h
  | case2 _ _ _ hread =>
    have := lt_of_readToken hread
    cases h
    omega
  | case3 _ _ _ _ hread ih =>
    have := lt_of_readToken hread
    have := ih h
    omega
  | case4 => cases h
  | case5 _ _ _ _ _ hread _ ih =>
    have := lt_of_readToken hread
    have := ih h
    omega

/-! ### Codes described in a block -/

/-- The order in which the word lengths of the code for word lengths are written. -/
def lengthOrder : List Nat :=
  [16, 17, 18, 0, 8, 7, 9, 6, 10, 5, 11, 4, 12, 3, 13, 2, 14, 1, 15]

/-- Reads `count` word lengths of three bits each. -/
def readShortLengths (input : ByteArray) : (position count : Nat) → Except IoError (List Nat)
  | _, 0 => .ok []
  | position, count + 1 =>
    match Bits.readNumber input position 3 with
    | .error e => .error e
    | .ok length =>
      match readShortLengths input (position + 3) count with
      | .error e => .error e
      | .ok rest => .ok (length :: rest)

/-- Word lengths by symbol, from those that were written in `lengthOrder`. -/
def sortLengths (written : List Nat) : List Nat :=
  (List.range 19).map fun symbol => ((lengthOrder.zip written).lookup symbol).getD 0

/-- Reads `remaining` word lengths. The last length so far can be repeated, and so can zero. -/
def readLengths (code : Code) (input : ByteArray) (remaining position : Nat)
    (reversed : List Nat) : Except IoError (List Nat × Nat) :=
  if remaining = 0 then
    .ok (reversed.reverse, position)
  else
    match code.decode input position with
    | .error e => .error e
    | .ok (symbol, position) =>
      if symbol < 16 then
        readLengths code input (remaining - 1) position (symbol :: reversed)
      else
        let row : Option (Nat × Nat × Nat) :=
          if symbol = 16 then reversed.head?.map fun last => (last, 3, 2)
          else if symbol = 17 then some (0, 3, 3)
          else some (0, 11, 7)
        match row with
        | none => .error .corruptStream
        | some (length, base, bits) =>
          match readExtra input position base bits with
          | .error e => .error e
          | .ok count =>
            if remaining < count ∨ count = 0 then
              .error .corruptStream
            else
              readLengths code input (remaining - count) (position + bits)
                (List.replicate count length ++ reversed)
termination_by remaining
decreasing_by all_goals omega

/-- Reading the lengths of the words of a code stays inside the input. There may be none to
read. -/
theorem le_of_readLengths {code : Code} {input : ByteArray} {remaining position next : Nat}
    {reversed lengths : List Nat} (start : position ≤ 8 * input.size)
    (h : readLengths code input remaining position reversed = .ok (lengths, next)) :
    position ≤ next ∧ next ≤ 8 * input.size := by
  fun_induction readLengths code input remaining position reversed with
  | case1 =>
    cases h
    exact ⟨Nat.le_refl _, start⟩
  | case2 => cases h
  | case3 remaining position reversed _ symbol after hdecode _ ih =>
    have := Code.lt_of_decode hdecode
    have := ih (by omega) h
    omega
  | case4 => cases h
  | case5 => cases h
  | case6 => cases h
  | case7 remaining position reversed _ symbol after hdecode _ row length base bits _ count hextra _
      ih =>
    have progress := Code.lt_of_decode hdecode
    have := le_of_readExtra progress.2 hextra
    have := ih this h
    omega

/-- The codes of a block and the position behind their description. -/
structure Description where
  literals : Code
  distances : Code
  position : Nat

/-- The code of word lengths, if they make one: it must be complete, unless a trivial one will
do. -/
def codeOfLengths (lengths : List Nat) (trivialWillDo : Bool) : Except IoError Code :=
  if Code.isComplete lengths || (trivialWillDo && Code.isTrivial lengths) then
    .ok (.ofLengths lengths)
  else
    .error .corruptStream

/-- How many word lengths a block describes: of literals, of distances, and of the code in which
these are written. -/
structure Counts where
  literals : Nat
  distances : Nat
  short : Nat

/-- Reads the three counts, each of which is written less its smallest value. -/
def readCounts (input : ByteArray) (position : Nat) : Except IoError Counts :=
  match readExtra input position 257 5, readExtra input (position + 5) 1 5,
      readExtra input (position + 10) 4 4 with
  | .ok literals, .ok distances, .ok short =>
    if 286 < literals ∨ 30 < distances then
      .error .corruptStream
    else
      .ok ⟨literals, distances, short⟩
  | _, _, _ => .error .incompleteStream

/-- Reads the two rows of word lengths of a block and answers them with the position behind. -/
def readRows (input : ByteArray) (position : Nat) (counts : Counts) :
    Except IoError (List Nat × Nat) :=
  match readShortLengths input position counts.short with
  | .error e => .error e
  | .ok written =>
    match codeOfLengths (sortLengths written) false with
    | .error e => .error e
    | .ok code =>
      readLengths code input (counts.literals + counts.distances) (position + 3 * counts.short) []

/-- Reads the description of the codes of a block. -/
def readDescription (input : ByteArray) (position : Nat) : Except IoError Description :=
  match readCounts input position with
  | .error e => .error e
  | .ok counts =>
    match readRows input (position + 14) counts with
    | .error e => .error e
    | .ok (lengths, next) =>
      match codeOfLengths (lengths.drop counts.literals) true,
          codeOfLengths (lengths.take counts.literals) true with
      | .ok distances, .ok literals => .ok ⟨literals, distances, next⟩
      | _, _ => .error .corruptStream

/-- Each of the short lengths that describe the code of the other lengths takes three bits. -/
theorem le_of_readShortLengths {input : ByteArray} {position count : Nat} {lengths : List Nat}
    (start : position ≤ 8 * input.size)
    (h : readShortLengths input position count = .ok lengths) :
    position + 3 * count ≤ 8 * input.size := by
  induction count generalizing position lengths with
  | zero => exact start
  | succ count ih =>
    rw [readShortLengths] at h
    split at h
    · cases h
    · next hread =>
      have := Bits.le_of_readNumber start hread
      split at h
      · cases h
      · next hrest =>
        have := ih this hrest
        omega

/-- The description of a block with codes of its own takes some bits and ends inside the input. -/
theorem lt_of_readDescription {input : ByteArray} {position : Nat} {description : Description}
    (start : position ≤ 8 * input.size) (h : readDescription input position = .ok description) :
    position < description.position ∧ description.position ≤ 8 * input.size := by
  unfold readDescription at h
  split at h
  · cases h
  · next counts hcounts =>
    have head : position + 14 ≤ 8 * input.size := by
      unfold readCounts at hcounts
      split at hcounts
      · next _ _ short hliterals hdistances hshort =>
        have h₁ := le_of_readExtra start hliterals
        have h₂ := le_of_readExtra h₁ hdistances
        have h₃ : position + 10 ≤ 8 * input.size := by omega
        have h₄ := le_of_readExtra h₃ hshort
        omega
      · cases hcounts
    split at h
    · cases h
    · next hrows =>
      unfold readRows at hrows
      split at hrows
      · cases hrows
      · next hshort =>
        have rows := le_of_readShortLengths head hshort
        split at hrows
        · cases hrows
        · have := le_of_readLengths rows hrows
          split at h
          · cases h
            dsimp only
            omega
          · cases h

/-! ### Blocks -/

/-- Reads a block of bytes as they are. They start at the next whole byte, behind their number and
its complement. -/
def readStored (input : ByteArray) (position : Nat) (output : ByteArray) :
    Except IoError (Nat × ByteArray) :=
  let start := (position + 7) / 8
  match Bytes.number? input start 2, Bytes.number? input (start + 2) 2 with
  | some length, some complement =>
    if length + complement ≠ 0xFFFF then
      .error .corruptStream
    else if input.size < start + 4 + length then
      .error .incompleteStream
    else
      .ok (8 * (start + 4 + length), output ++ Bytes.slice input (start + 4) length)
  | _, _ => .error .incompleteStream

/-- Reads what is behind the head of a block of the given kind. -/
def readBody (input : ByteArray) (kind position : Nat) (output : ByteArray) :
    Except IoError (Nat × ByteArray) :=
  match kind with
  | 0 => readStored input position output
  | 1 => readTokens fixedLiterals fixedDistances input position output
  | 2 =>
    match readDescription input position with
    | .error e => .error e
    | .ok description =>
      readTokens description.literals description.distances input description.position output
  | _ => .error .corruptStream

/-- Reads a block and answers whether it is the last, the position behind it and the output. -/
def readBlock (input : ByteArray) (position : Nat) (output : ByteArray) :
    Except IoError (Bool × Nat × ByteArray) :=
  match Bits.readNumber input position 1 with
  | .error e => .error e
  | .ok last =>
    match Bits.readNumber input (position + 1) 2 with
    | .error e => .error e
    | .ok kind =>
      match readBody input kind (position + 3) output with
      | .error e => .error e
      | .ok (next, output) => .ok (last == 1, next, output)

/-- A block that is stored takes some bits, even if it is empty, and ends inside the input. -/
theorem lt_of_readStored {input : ByteArray} {position next : Nat} {output result : ByteArray}
    (h : readStored input position output = .ok (next, result)) :
    position < next ∧ next ≤ 8 * input.size := by
  unfold readStored at h
  dsimp only at h
  split at h
  · split at h
    · cases h
    · split at h
      · cases h
      · cases h
        omega
  · cases h

/-- Whatever the kind of a block, reading its body takes some bits and stays inside the input. -/
theorem lt_of_readBody {input : ByteArray} {kind position next : Nat} {output result : ByteArray}
    (start : position ≤ 8 * input.size)
    (h : readBody input kind position output = .ok (next, result)) :
    position < next ∧ next ≤ 8 * input.size := by
  unfold readBody at h
  split at h
  · exact lt_of_readStored h
  · exact lt_of_readTokens h
  · split at h
    · cases h
    · next hdescription =>
      have := lt_of_readDescription start hdescription
      have := lt_of_readTokens h
      omega
  · cases h

/-- Reading a block takes some bits and stays inside the input, so that only so many blocks can
follow each other. -/
theorem lt_of_readBlock {input : ByteArray} {position next : Nat} {output result : ByteArray}
    {last : Bool} (start : position ≤ 8 * input.size)
    (h : readBlock input position output = .ok (last, next, result)) :
    position < next ∧ next ≤ 8 * input.size := by
  unfold readBlock at h
  split at h
  · cases h
  · next hlast =>
    have inside := Bits.le_of_readNumber start hlast
    split at h
    · cases h
    · next hkind =>
      have := Bits.le_of_readNumber inside hkind
      split at h
      · cases h
      · next hbody =>
        have := lt_of_readBody (by omega) hbody
        cases h
        omega

/-- Reads blocks up to the last one and answers the output. -/
def readBlocks (input : ByteArray) (position : Nat) (start : position ≤ 8 * input.size)
    (output : ByteArray) : Except IoError ByteArray :=
  match _progress : readBlock input position output with
  | .error e => .error e
  | .ok (true, _, output) => .ok output
  | .ok (false, next, output) =>
    readBlocks input next (lt_of_readBlock start _progress).2 output
termination_by 8 * input.size - position
decreasing_by
  have := lt_of_readBlock start _progress
  omega

/-- The data that a compressed stream stands for. -/
def inflate (input : ByteArray) : Except IoError ByteArray :=
  readBlocks input 0 (Nat.zero_le _) ByteArray.empty

end Deflate

end FixtureKit

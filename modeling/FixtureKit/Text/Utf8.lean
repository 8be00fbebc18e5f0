/-!
# Reading UTF-8

Bytes that are valid UTF-8 are read as the text they encode. In any others, each longest piece
that could start a character but is not completed, and each byte that can start none, is read as
one replacement character.

## Main results

* `decodeLossy_toUTF8` — text written as UTF-8 reads back.
-/

namespace FixtureKit

namespace Utf8

/-- The character that stands for bytes that encode none. -/
def replacement : Char := Char.ofNat 0xFFFD

/-- Whether a byte can be any but the first of a character. -/
def isContinuation (b : UInt8) : Bool := 0x80 ≤ b && b ≤ 0xBF

/-- The six bits that a continuation byte carries. -/
def payload (b : UInt8) : Nat := b.toNat % 64

/-- Whether `second` can follow `first` when `first` starts a character of three bytes: the code
point must need three bytes, and must not be a surrogate. -/
def isSecondOfThree (first second : UInt8) : Bool :=
  isContinuation second && !(first == 0xE0 && second < 0xA0) && !(first == 0xED && 0xA0 ≤ second)

/-- Whether `second` can follow `first` when `first` starts a character of four bytes: the code
point must need four bytes, and must not be above the last one. -/
def isSecondOfFour (first second : UInt8) : Bool :=
  isContinuation second && !(first == 0xF0 && second < 0x90) && !(first == 0xF4 && 0x90 ≤ second)

/-- The characters of bytes, with a replacement for every piece that encodes none. -/
def decodePieces : List UInt8 → List Char
  | [] => []
  | first :: rest =>
    if first < 0x80 then
      Char.ofNat first.toNat :: decodePieces rest
    else if 0xC2 ≤ first && first ≤ 0xDF then
      match rest with
      | [] => [replacement]
      | b :: more =>
        if isContinuation b then
          Char.ofNat (first.toNat % 32 * 64 + payload b) :: decodePieces more
        else
          replacement :: decodePieces (b :: more)
    else if 0xE0 ≤ first && first ≤ 0xEF then
      match rest with
      | [] => [replacement]
      | [b] => if isSecondOfThree first b then [replacement] else replacement :: decodePieces [b]
      | b :: c :: more =>
        if !isSecondOfThree first b then
          replacement :: decodePieces (b :: c :: more)
        else if isContinuation c then
          Char.ofNat ((first.toNat % 16 * 64 + payload b) * 64 + payload c) :: decodePieces more
        else
          replacement :: decodePieces (c :: more)
    else if 0xF0 ≤ first && first ≤ 0xF4 then
      match rest with
      | [] => [replacement]
      | [b] => if isSecondOfFour first b then [replacement] else replacement :: decodePieces [b]
      | [b, c] =>
        if !isSecondOfFour first b then replacement :: decodePieces [b, c]
        else if isContinuation c then [replacement]
        else replacement :: decodePieces [c]
      | b :: c :: d :: more =>
        if !isSecondOfFour first b then
          replacement :: decodePieces (b :: c :: d :: more)
        else if !isContinuation c then
          replacement :: decodePieces (c :: d :: more)
        else if isContinuation d then
          Char.ofNat
            (((first.toNat % 8 * 64 + payload b) * 64 + payload c) * 64 + payload d) ::
              decodePieces more
        else
          replacement :: decodePieces (d :: more)
    else
      replacement :: decodePieces rest

/-- The text of bytes, whatever they are. -/
def decodeLossy (bytes : ByteArray) : String :=
  match String.fromUTF8? bytes with
  | some text => text
  | none => String.ofList (decodePieces bytes.data.toList)

/-- Text written as UTF-8 reads back. -/
theorem decodeLossy_toUTF8 (text : String) : decodeLossy text.toUTF8 = text := by
  have h : String.fromUTF8? text.toUTF8 = some text := by
    simp [String.fromUTF8?, String.fromUTF8, text.isValidUTF8]
  rw [decodeLossy, h]

end Utf8

end FixtureKit

import FixtureKit.Archive.Record
import FixtureKit.Text.CodePage437
import FixtureKit.Text.Utf8

/-!
# Extra Fields

Behind its name a central header can carry extra fields, each with a number and a length, which
change what the header says: sizes that need more than four bytes, the real method of an encrypted
entry, a name in UTF-8. Fields of no concern are skipped.

## Conventions

* Where the fields end too early, reading stops and what was changed so far is kept.
* A field that is wrong in any other way spoils the header.

## Main results

* `parseExtra_empty` — a header without extra fields stays as it is.
-/

namespace FixtureKit

namespace Archive

/-- What a central header says about an entry. -/
structure Header where
  /-- The bytes of the name. -/
  rawName : ByteArray
  name : String
  comment : String
  flags : Nat
  method : Nat
  checksum : Nat
  compressedSize : Nat
  size : Nat
  /-- Where the local header is, as written. -/
  offset : Nat
  /-- Whether a field says that the data is encrypted. -/
  isEncrypted : Bool

/-- What reading one extra field leads to. -/
inductive FieldResult
  /-- The header now, and where the next field starts. -/
  | next (header : Header) (position : Nat)
  /-- The fields end too early. -/
  | stop (header : Header)
  /-- The field is wrong. -/
  | wrong

/-- The value of a four-byte field that stands for a longer one elsewhere. -/
def placeholder : Nat := 0xFFFFFFFF

/-- Goes on `count` bytes further, if there are as many. -/
def skip (extra : ByteArray) (header : Header) (position count : Nat) : FieldResult :=
  if extra.size < position + count then .stop header else .next header (position + count)

/-- Field 0x0001: sizes and offset in eight bytes, each of them there if the field has room for all
three or if the header holds the placeholder for it. -/
def longSizes (extra : ByteArray) (header : Header) (position length : Nat) : FieldResult :=
  let all := decide (24 ≤ length)
  let width (value : Nat) : Nat := if all || value == placeholder then 8 else 0
  let read (value place : Nat) : Option Nat :=
    if all || value == placeholder then Bytes.number? extra place 8 else some value
  let sizeWidth := width header.size
  match read header.size position with
  | none => .stop header
  | some size =>
    let header := { header with size := size }
    let compressedWidth := width header.compressedSize
    match read header.compressedSize (position + sizeWidth) with
    | none => .stop header
    | some compressedSize =>
      let header := { header with compressedSize := compressedSize }
      let offsetWidth := width header.offset
      match read header.offset (position + sizeWidth + compressedWidth) with
      | none => .stop header
      | some offset =>
        let header := { header with offset := offset }
        if length < sizeWidth + compressedWidth + offsetWidth then
          .wrong
        else
          skip extra header position length

/-- Field 0x000A: times, which are of no concern, in a fixed form. -/
def fileTimes (extra : ByteArray) (header : Header) (position length : Nat) : FieldResult :=
  if length ≠ 32 then .wrong
  else
    match Bytes.number? extra (position + 4) 2 with
    | none => .stop header
    | some tag =>
      if tag ≠ 1 then .wrong
      else
        match Bytes.number? extra (position + 6) 2 with
        | none => .stop header
        | some size => if size ≠ 24 then .wrong else skip extra header position length

/-- Field 0x9901: the method of the data inside an encryption. -/
def encryption (extra : ByteArray) (header : Header) (position length : Nat) : FieldResult :=
  if length ≠ 7 then .wrong
  else if extra.size < position + 7 then .stop header
  else
    let version := Bytes.number extra position 2
    let vendor := Bytes.number extra (position + 2) 2
    let strength := Bytes.number extra (position + 4) 1
    let method := Bytes.number extra (position + 5) 2
    if vendor = 0x4541 ∧ (version = 1 ∨ version = 2) ∧ 1 ≤ strength ∧ strength ≤ 3 then
      .next { header with method := method, isEncrypted := true } (position + 7)
    else
      .wrong

/-- How many of the three times that a byte of flags names there are. -/
def flaggedTimes (flags : Nat) : Nat :=
  ((List.range 8).filter flags.testBit).length

/-- Field 0x5455: flags and the times that they name, of no concern. -/
def flaggedTimeField (extra : ByteArray) (header : Header) (position length : Nat) : FieldResult :=
  match Bytes.number? extra position 1 with
  | none => .stop header
  | some flags =>
    if length ≠ 5 ∧ length ≠ 1 + 4 * flaggedTimes flags then .wrong
    else if 8 ≤ flags then .wrong
    else skip extra header position length

/-- A text in UTF-8 that takes the place of an older one, given by its checksum. -/
def replacementText (extra : ByteArray) (header : Header) (position length : Nat)
    (old : ByteArray) (replace : ByteArray → String → Header) : FieldResult :=
  if extra.size < position + 5 then .stop header
  else if length < 5 then .wrong
  else if extra.size < position + length then .stop header
  else
    let content := Bytes.slice extra (position + 5) (length - 5)
    if Bytes.number extra (position + 1) 4 ≠ (crc32 old).toNat then .wrong
    else
      match String.fromUTF8? content with
      | none => .wrong
      | some text => .next (replace content text) (position + length)

/-- Reads the extra field with the given number, whose content starts at a position. -/
def readField (extra : ByteArray) (header : Header) (kind position length : Nat) : FieldResult :=
  match kind with
  | 0x0001 => longSizes extra header position length
  | 0x000A => fileTimes extra header position length
  | 0x9901 => encryption extra header position length
  | 0x5455 => flaggedTimeField extra header position length
  | 0x6375 =>
    replacementText extra header position length header.comment.toUTF8
      fun _ text => { header with comment := text }
  | 0x7075 =>
    replacementText extra header position length header.rawName
      fun content text => { header with rawName := content, name := text }
  | _ => skip extra header position length

/-- Reads extra fields from a position on; nothing if one of them is wrong. -/
def parseExtra (extra : ByteArray) (header : Header) (position : Nat) : Option Header :=
  if extra.size ≤ position then
    some header
  else
    match Bytes.number? extra position 2, Bytes.number? extra (position + 2) 2 with
    | some kind, some length =>
      match readField extra header kind (position + 4) length with
      | .wrong => none
      | .stop header => some header
      | .next header next => if position < next then parseExtra extra header next else none
    | _, _ => some header
termination_by extra.size - position

/-- A header without extra fields stays as it is. -/
theorem parseExtra_empty (header : Header) : parseExtra ByteArray.empty header 0 = some header := by
  rw [parseExtra, if_pos (by simp)]

end Archive

end FixtureKit

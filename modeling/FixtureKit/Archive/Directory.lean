import FixtureKit.Archive.EndRecord
import FixtureKit.Archive.ExtraField

/-!
# The Directory of an Archive

The directory is a row of central headers. Entries of one name are one entry, which stands where
the first of them stands and says what the last of them says.

## Conventions

* A directory with a fault in it, of whatever kind, makes its end record a bad candidate: the
  search goes on in front of it, with nothing recorded.

## Main results

* `length_readHeaders` — as many headers are read as were asked for, each of at least 46 bytes.
-/

namespace FixtureKit

namespace Archive

/-- An entry in the directory of an archive. -/
structure Listed where
  name : String
  flags : Nat
  method : Nat
  checksum : Nat
  compressedSize : Nat
  size : Nat
  /-- Where the local header is. -/
  headerStart : Nat
  isEncrypted : Bool

/-- The method that stands for encryption and leaves it to an extra field to tell the real one. -/
def encryptionMethod : Nat := 99

/-- The text of bytes in a header with the given flags. -/
def decodeText (flags : Nat) (bytes : ByteArray) : String :=
  if flags / utf8Flag % 2 = 1 then Utf8.decodeLossy bytes else CodePage437.decode bytes

/-- Reads the central header at a position and answers the entry and the position behind it. -/
def readHeader (bytes : ByteArray) (located : Located) (position : Nat) : Option (Listed × Nat) :=
  if bytes.size < position + 46 ∨ Bytes.hasAt bytes centralSignature position = false then
    none
  else
    let flags := Bytes.number bytes (position + 8) 2
    let nameLength := Bytes.number bytes (position + 28) 2
    let extraLength := Bytes.number bytes (position + 30) 2
    let commentLength := Bytes.number bytes (position + 32) 2
    let next := position + 46 + nameLength + extraLength + commentLength
    if bytes.size < next then
      none
    else
      let rawName := Bytes.slice bytes (position + 46) nameLength
      let extra := Bytes.slice bytes (position + 46 + nameLength) extraLength
      let comment := Bytes.slice bytes (position + 46 + nameLength + extraLength) commentLength
      let header : Header :=
        { rawName := rawName
          name := decodeText flags rawName
          comment := decodeText flags comment
          flags := flags
          method := Bytes.number bytes (position + 10) 2
          checksum := Bytes.number bytes (position + 16) 4
          compressedSize := Bytes.number bytes (position + 20) 4
          size := Bytes.number bytes (position + 24) 4
          offset := Bytes.number bytes (position + 42) 4
          isEncrypted := false }
      match parseExtra extra header 0 with
      | none => none
      | some header =>
        let start := header.offset + located.archiveOffset
        if header.method = encryptionMethod ∧ header.isEncrypted = false then
          none
        else if located.directoryStart ≤ start then
          none
        else
          some
            ({ name := header.name
               flags := header.flags
               method := header.method
               checksum := header.checksum
               compressedSize := header.compressedSize
               size := header.size
               headerStart := start
               isEncrypted := header.isEncrypted }, next)

/-- Reads `count` central headers from a position on, in front of those that were read before,
the last of them first. -/
def readHeaders (bytes : ByteArray) (located : Located) :
    (count position : Nat) → (reversed : List Listed) → Option (List Listed)
  | 0, _, reversed => some reversed.reverse
  | count + 1, position, reversed =>
    match readHeader bytes located position with
    | none => none
    | some (listed, next) => readHeaders bytes located count next (listed :: reversed)

/-- Adds an entry behind others, or in the place of the one with its name. -/
def addListed (entries : List Listed) (listed : Listed) : List Listed :=
  if entries.any (·.name = listed.name) then
    entries.map fun other => if other.name = listed.name then listed else other
  else
    entries ++ [listed]

/-- The entries of a located directory. -/
def readDirectory (bytes : ByteArray) (located : Located) : Option (List Listed) :=
  if located.consistent then
    (readHeaders bytes located located.count located.directoryStart []).map
      fun headers => headers.foldl addListed []
  else
    none

/-- The entries according to the last end record with a good directory that ends at `stop` or
before. -/
def openBefore (bytes : ByteArray) (stop : Nat) : Except FormatError (List Listed) :=
  match _hfound : findEnd bytes (stop - 3) none with
  | .error e => .error e
  | .ok located =>
    match readDirectory bytes located with
    | some entries => .ok entries
    | none => openBefore bytes located.position
termination_by stop
decreasing_by
  have := position_of_findEnd _hfound
  omega

/-- The entries of an archive. -/
def directory (bytes : ByteArray) : Except FormatError (List Listed) :=
  openBefore bytes bytes.size

/-! ### The number of headers -/

/-- A header that has been read takes at least its forty-six fixed bytes and ends inside the
archive. -/
theorem next_of_readHeader {bytes : ByteArray} {located : Located} {position next : Nat}
    {listed : Listed} (h : readHeader bytes located position = some (listed, next)) :
    position + 46 ≤ next ∧ next ≤ bytes.size := by
  unfold readHeader at h
  dsimp only at h
  split at h
  · cases h
  · split at h
    · cases h
    · split at h
      · cases h
      · split at h
        · cases h
        · split at h
          · cases h
          · cases h
            omega

/-- As many headers are read as were asked for, each of at least 46 bytes. -/
theorem length_readHeaders {bytes : ByteArray} {located : Located} {count position : Nat}
    {reversed entries : List Listed}
    (h : readHeaders bytes located count position reversed = some entries) :
    entries.length = reversed.length + count ∧
      (count = 0 ∨ position + 46 * count ≤ bytes.size) := by
  induction count generalizing position reversed with
  | zero =>
    cases h
    simp
  | succ count ih =>
    rw [readHeaders] at h
    split at h
    · cases h
    · next listed next hread =>
      have step := next_of_readHeader hread
      have rest := ih h
      simp only [List.length_cons] at rest
      omega

end Archive

end FixtureKit

import FixtureKit.Bytes
import FixtureKit.Checksum

/-!
# The Records of an Archive

A member is an entry as the archive holds it. In the archive it has a local header in front of its
data and a central header in the directory; the directory is followed by the end record. Each
record starts with a signature and a row of little-endian fields.

## Main results

* `length_localHeader`, `length_centralHeader`, `length_endRecord` — the lengths of the records.
-/

namespace FixtureKit

/-- How the data of entries is held. -/
inductive Compression
  /-- As it is. -/
  | stored
  /-- As a compressed stream. -/
  | deflated
  deriving DecidableEq

namespace Compression

/-- The way that is taken when none is asked for. -/
def standard : Compression := .stored

/-- The number of a method in the records. -/
def method : Compression → Nat
  | .stored => 0
  | .deflated => 8

/-- The version of the format that a reader must know, times ten. -/
def version : Compression → Nat
  | .stored => 10
  | .deflated => 20

/-- The name of a way to hold data. -/
def name : Compression → String
  | .stored => "Stored"
  | .deflated => "Deflated"

end Compression

namespace Archive

/-- An entry as an archive holds it. -/
structure Member where
  name : String
  compression : Compression
  checksum : UInt32
  /-- The number of bytes that the data stands for. -/
  size : Nat
  /-- The data, compressed if the entry is. -/
  data : ByteArray
  deriving DecidableEq

/-! ### Signatures -/

/-- The signature of a local header. -/
def localSignature : List UInt8 := [0x50, 0x4B, 0x03, 0x04]

/-- The signature of a central header. -/
def centralSignature : List UInt8 := [0x50, 0x4B, 0x01, 0x02]

/-- The signature of the end record. -/
def endSignature : List UInt8 := [0x50, 0x4B, 0x05, 0x06]

/-- The signature of the long end record. -/
def longEndSignature : List UInt8 := [0x50, 0x4B, 0x06, 0x06]

/-- The signature of the locator of the long end record. -/
def locatorSignature : List UInt8 := [0x50, 0x4B, 0x06, 0x07]

/-! ### Headers -/

/-- The flag of a name in UTF-8. -/
def utf8Flag : Nat := 0x0800

/-- The date of an entry, the first day that the format can tell. -/
def firstDay : Nat := 0x0021

/-- The mode of an entry, a regular file that its owner may write, in the place for it. -/
def fileMode : Nat := 0o100644 * 0x10000

/-- The number of the system whose file modes are used, in the place for it. -/
def hostSystem : Nat := 0x0300

/-- The bytes of a name. -/
def nameBytes (name : String) : List UInt8 :=
  name.toUTF8.data.toList

/-- The flags of an entry with the given name. -/
def nameFlags (name : String) : Nat :=
  if (nameBytes name).all (· < 128) then 0 else utf8Flag

namespace Member

/-- The fields that both headers of a member have, from its version to the length of its name. -/
def commonFields (member : Member) : List (Nat × Nat) :=
  [(2, member.compression.version), (2, nameFlags member.name), (2, member.compression.method),
    (2, 0), (2, firstDay), (4, member.checksum.toNat), (4, member.data.size), (4, member.size),
    (2, (nameBytes member.name).length)]

/-- The local header of a member, up to its data. -/
def localHeader (member : Member) : List UInt8 :=
  localSignature ++ Bytes.fields (member.commonFields ++ [(2, 0)]) ++ nameBytes member.name

/-- The central header of a member whose local header is at `offset`. -/
def centralHeader (member : Member) (offset : Nat) : List UInt8 :=
  centralSignature ++
    Bytes.fields
      ((2, hostSystem + member.compression.version) :: member.commonFields ++
        [(2, 0), (2, 0), (2, 0), (2, 0), (4, fileMode), (4, offset)]) ++
    nameBytes member.name

/-- The number of bytes of a member in front of the directory. -/
def extent (member : Member) : Nat :=
  member.localHeader.length + member.data.size

end Member

/-- The end record of a directory of `count` headers, which is `size` bytes long and starts at
`offset`. -/
def endRecord (count size offset : Nat) : List UInt8 :=
  endSignature ++
    Bytes.fields [(2, 0), (2, 0), (2, count), (2, count), (4, size), (4, offset), (2, 0)]

/-! ### Lengths -/

/-- A local header takes thirty bytes and its name, whatever the member holds. -/
theorem length_localHeader (member : Member) :
    member.localHeader.length = 30 + (nameBytes member.name).length := by
  simp [Member.localHeader, Member.commonFields, localSignature, Bytes.fields,
    Bytes.length_littleEndian]
  omega

/-- A central header takes forty-six bytes and its name. -/
theorem length_centralHeader (member : Member) (offset : Nat) :
    (member.centralHeader offset).length = 46 + (nameBytes member.name).length := by
  simp [Member.centralHeader, Member.commonFields, centralSignature, Bytes.fields,
    Bytes.length_littleEndian]
  omega

/-- An end record without a comment takes twenty-two bytes. -/
theorem length_endRecord (count size offset : Nat) : (endRecord count size offset).length = 22 := by
  simp [endRecord, endSignature, Bytes.fields, Bytes.length_littleEndian]

/-! ### Whole archives -/

/-- The members with their local headers, one behind the other. -/
def localPart (members : List Member) : ByteArray :=
  members.foldl (fun image member => image ++ member.localHeader.toByteArray ++ member.data)
    ByteArray.empty

/-- The central headers of members, the first of which starts at `offset`. -/
def directoryPart : (offset : Nat) → List Member → List UInt8
  | _, [] => []
  | offset, member :: rest =>
    member.centralHeader offset ++ directoryPart (offset + member.extent) rest

/-- The archive of some members: their headers and data, the directory and the end record. -/
def encode (members : List Member) : ByteArray :=
  let front := localPart members
  let directory := directoryPart 0 members
  front ++ directory.toByteArray ++
    (endRecord members.length directory.length front.size).toByteArray

end Archive

end FixtureKit

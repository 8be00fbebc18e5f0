import FixtureKit.Archive.Directory
import FixtureKit.Deflate.Inflate
import FixtureKit.FileSystem.Operations

/-!
# Reading an Archive

The entries of an archive are listed or read by way of its directory. Both look at the local
header of an entry for the place of its data and for nothing else; reading checks the checksum,
and the size that the directory claims is listed but never checked.

## Main results

* `listEntries_error`, `readEntry_error` — an archive that cannot be opened fails alike for both.
* `listEntries_of_contentOf`, `readEntry_of_contentOf` — one that can be opened is told by its
  bytes.
-/

namespace FixtureKit

/-- An entry as a listing shows it. -/
structure EntryInfo where
  name : String
  /-- The size that the directory claims. -/
  size : Nat
  deriving DecidableEq

namespace Archive

/-- Where the data of an entry starts, if the entry can be used. -/
def dataStart (bytes : ByteArray) (listed : Listed) : Except FormatError Nat :=
  let start := listed.headerStart
  if listed.flags % 2 = 1 then
    .error .encrypted
  else if bytes.size < start + 30 then
    .error (.io .shortRead)
  else if Bytes.hasAt bytes localSignature start = false then
    .error (.invalid .noLocalHeader)
  else if listed.method ≠ Compression.stored.method ∧
      listed.method ≠ Compression.deflated.method then
    .error .unknownMethod
  else if listed.isEncrypted then
    .error .wrongPassword
  else
    .ok (start + 30 + Bytes.number bytes (start + 26) 2 + Bytes.number bytes (start + 28) 2)

/-- The names and sizes of entries, all of which can be used. -/
def listAll (bytes : ByteArray) : List Listed → Except FormatError (List EntryInfo)
  | [] => .ok []
  | listed :: rest =>
    match dataStart bytes listed with
    | .error e => .error e
    | .ok _ =>
      match listAll bytes rest with
      | .error e => .error e
      | .ok infos => .ok (⟨listed.name, listed.size⟩ :: infos)

/-- The bytes of an entry whose data starts at a place. The data ends where the archive does, if
not before. -/
def entryContent (bytes : ByteArray) (listed : Listed) (start : Nat) :
    Except IoError ByteArray :=
  let data := Bytes.slice bytes start listed.compressedSize
  let content :=
    if listed.method = Compression.stored.method then .ok data else Deflate.inflate data
  match content with
  | .error e => .error e
  | .ok content =>
    if (crc32 content).toNat = listed.checksum then .ok content else .error .wrongChecksum

/-- The number of bytes that no buffer can have. -/
def memoryLimit : Nat := 0x8000000000000000

/-- The bytes of the entry with a name, in the archive of the given path and content. -/
def contentOfEntry (path : String) (bytes : ByteArray) (name : String) :
    Except ArchiveError ByteArray :=
  match directory bytes with
  | .error e => .error (.format path e)
  | .ok entries =>
    match entries.find? (·.name = name) with
    | none => .error (.format path .entryNotFound)
    | some listed =>
      match dataStart bytes listed with
      | .error e => .error (.format path e)
      | .ok start =>
        if memoryLimit ≤ listed.size then
          .error .unallocatable
        else
          match entryContent bytes listed start with
          | .error e => .error (.file path e)
          | .ok content => .ok content

/-- The names and sizes of the entries of the archive of the given path and content. -/
def infosOfEntries (path : String) (bytes : ByteArray) : Except ArchiveError (List EntryInfo) :=
  match directory bytes with
  | .error e => .error (.format path e)
  | .ok entries =>
    match listAll bytes entries with
    | .error e => .error (.format path e)
    | .ok infos => .ok infos

end Archive

/-- The names and sizes of the entries of an archive, in its order. -/
def listEntries (fs : FileSystem) (archive : String) : Except ArchiveError (List EntryInfo) :=
  match fs.contentOf archive with
  | .error e => .error (.file archive e)
  | .ok bytes => Archive.infosOfEntries archive bytes

/-- The bytes of an entry of an archive. -/
def readEntry (fs : FileSystem) (archive name : String) : Except ArchiveError ByteArray :=
  match fs.contentOf archive with
  | .error e => .error (.file archive e)
  | .ok bytes => Archive.contentOfEntry archive bytes name

/-- An archive that cannot be read is not listed, for that very reason. -/
theorem listEntries_error {fs : FileSystem} {archive : String} {e : IoError}
    (h : fs.contentOf archive = .error e) : listEntries fs archive = .error (.file archive e) := by
  rw [listEntries, h]

/-- From an archive that cannot be read no entry is read, for that very reason. -/
theorem readEntry_error {fs : FileSystem} {archive name : String} {e : IoError}
    (h : fs.contentOf archive = .error e) :
    readEntry fs archive name = .error (.file archive e) := by
  rw [readEntry, h]

/-- A listing depends on the files only through the bytes of the archive. -/
theorem listEntries_of_contentOf {fs : FileSystem} {archive : String} {bytes : ByteArray}
    (h : fs.contentOf archive = .ok bytes) :
    listEntries fs archive = Archive.infosOfEntries archive bytes := by
  rw [listEntries, h]

/-- What an entry gives back depends on the files only through the bytes of the archive. -/
theorem readEntry_of_contentOf {fs : FileSystem} {archive : String} {bytes : ByteArray}
    (h : fs.contentOf archive = .ok bytes) (name : String) :
    readEntry fs archive name = Archive.contentOfEntry archive bytes name := by
  rw [readEntry, h]

end FixtureKit

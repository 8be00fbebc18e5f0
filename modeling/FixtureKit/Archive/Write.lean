import FixtureKit.Archive.Entry
import FixtureKit.Archive.Error
import FixtureKit.Archive.Record
import FixtureKit.Deflate.Encoder
import FixtureKit.FileSystem.Buffer
import FixtureKit.FileSystem.Operations

/-!
# Writing an Archive

Entries are added one by one: the source is opened, the name is checked, the local header is
written, and the bytes of the source are copied. Whatever goes wrong, the archive is finished with
what it has got, so that a failed write leaves a valid archive too.

## Conventions

* A source that can be opened but not read, a directory, leaves an entry without bytes.
* A source that is larger than the size fields can tell leaves no entry.
* The local header reaches the file before the source is read. An archive that is its own source
  is therefore found to hold what was written before, that header included, with its sums still
  missing, and whatever of the entry's own data reaches the file while it is read.

## Main results

* `writeArchive_of_error` — an archive that cannot be opened leaves everything as it was.
* `addEntries_of_missing` — a source that cannot be opened counts before a name used twice.
-/

namespace FixtureKit

namespace Archive

/-- The largest number of bytes that the size fields can tell. -/
def sizeLimit : Nat := 0xFFFFFFFF

/-- The member that holds some bytes. -/
def memberOf [Deflate.Encoder] (name : String) (compression : Compression)
    (content : ByteArray) : Member where
  name := name
  compression := compression
  checksum := crc32 content
  size := content.size
  data := match compression with
    | .stored => content
    | .deflated => Deflate.Encoder.compress content

/-- The member of a name whose bytes are not known yet, as it is when its header is written. -/
def openMember (name : String) (compression : Compression) : Member where
  name := name
  compression := compression
  checksum := 0
  size := 0
  data := ByteArray.empty

/-! ### An archive that is its own source -/

/-- What a copy takes from a file to the end of which it writes what it has taken in some other
form. For each piece that comes behind those taken before, `handOn` tells what is handed to the
buffered writer. The copy is given up when it has taken more than the size fields can tell. -/
def copyFromOutput (handOn : List ByteArray → ByteArray → List ByteArray) (output : Buffered)
    (taken : List ByteArray) (copied : Nat) : Except IoError ByteArray :=
  if sizeLimit < copied then
    .error .entryTooLarge
  else if output.file.size ≤ copied then
    .ok (output.file.extract 0 copied)
  else
    let piece := output.file.extract copied (copied + Buffer.capacity)
    copyFromOutput handOn ((handOn taken piece).foldl Buffered.write output) (taken ++ [piece])
      (copied + piece.size)
termination_by sizeLimit + 1 - copied
decreasing_by
  have : 0 < Buffer.capacity := by decide
  rw [ByteArray.size_extract]
  omega

/-- How many bytes such a copy takes when it writes each piece as it is. Of the file, `onDisk` bytes
can be read so far, `waiting` more are in the buffer, and `copied` have been taken. -/
def feedOnItself (onDisk waiting copied : Nat) : Option Nat :=
  if sizeLimit < copied then
    none
  else if onDisk ≤ copied then
    some copied
  else
    let count := min Buffer.capacity (onDisk - copied)
    let stillWaiting := Buffer.waitingAfter waiting count
    feedOnItself (onDisk + (waiting + count - stillWaiting)) stillWaiting (copied + count)
termination_by sizeLimit + 1 - copied
decreasing_by
  have : 0 < Buffer.capacity := by decide
  omega

/-- The bytes that an archive finds in itself when `front` has been written so far. Of stored data
it is enough to count the bytes. -/
def ownContent [Deflate.Encoder] (compression : Compression) (front : ByteArray) :
    Except IoError ByteArray :=
  match compression with
  | .deflated => copyFromOutput Deflate.Encoder.handOn ⟨front, ByteArray.empty⟩ [] 0
  | .stored =>
    match feedOnItself front.size 0 0 with
    | some count => .ok (front.extract 0 count)
    | none => .error .entryTooLarge

/-! ### Adding entries -/

/-- The bytes that are copied from an opened source into an archive that holds some members and
the header of another. -/
def sourceContent [Deflate.Encoder] (target : Location) (compression : Compression)
    (members : List Member) (fresh : Member) : Location × Object → Except IoError ByteArray
  | (_, .directory) => .error .isADirectory
  | (_, .link _) => .error .tooManyLinks
  | (_, .fullDevice) => .error .entryTooLarge
  | (location, .file content) =>
    if location = target then ownContent compression (localPart (members ++ [fresh]))
    else if sizeLimit < content.size then .error .entryTooLarge
    else .ok content

/-- What adding entries leads to. -/
structure Packing where
  /-- What the archive holds, in order. -/
  members : List Member
  /-- The entries that were added without failure, each with the number of its bytes. -/
  added : List (Entry × Nat)
  /-- The failure after which no more was added. -/
  failure : Option ArchiveError

/-- What a copy that fails leaves in the archive. -/
def keptAfter (cause : IoError) (members : List Member) (fresh : Member) : List Member :=
  match cause with
  | .entryTooLarge => members
  | _ => members ++ [fresh]

/-- Adds entries to the members of the archive at a path, whose file is at `target`. -/
def addEntries [Deflate.Encoder] (fs : FileSystem) (path : String) (target : Location)
    (compression : Compression) : List Member → List Entry → Packing
  | members, [] => ⟨members, [], none⟩
  | members, entry :: rest =>
    match fs.openForReading entry.source with
    | .error cause => ⟨members, [], some (.file entry.source cause)⟩
    | .ok source =>
      if members.any (·.name = entry.name) then
        ⟨members, [], some (.format path (.invalid (.duplicateName entry.name)))⟩
      else
        let fresh := openMember entry.name compression
        match sourceContent target compression members fresh source with
        | .error cause =>
          let kept := memberOf entry.name compression ByteArray.empty
          ⟨keptAfter cause members kept, [], some (.file entry.source cause)⟩
        | .ok content =>
          let packing := addEntries fs path target compression
            (members ++ [memberOf entry.name compression content]) rest
          { packing with added := (entry, content.size) :: packing.added }

/-- Why nothing can be written to a full device: the first source may not open, and otherwise the
first header, or the end record if there are no entries, finds no room. -/
def fullDeviceFailure (fs : FileSystem) (path : String) (entries : List Entry) : ArchiveError :=
  match entries with
  | [] => .format path (.io .storageFull)
  | entry :: _ =>
    match fs.openForReading entry.source with
    | .error cause => .file entry.source cause
    | .ok _ => .format path (.io .storageFull)

end Archive

/-- What writing an archive leads to. -/
structure Written where
  result : Except ArchiveError Unit
  files : FileSystem
  /-- The entries that were added without failure, each with the number of its bytes. -/
  added : List (Entry × Nat)

/-- Writes the archive of some entries to a path, in place of what was there. -/
def writeArchive [Deflate.Encoder] (fs : FileSystem) (path : String) (entries : List Entry)
    (compression : Compression) : Written :=
  match fs.openForWriting path with
  | .error cause => ⟨.error (.file path cause), fs, []⟩
  | .ok (.fullDevice, opened) =>
    ⟨.error (Archive.fullDeviceFailure opened path entries), opened, []⟩
  | .ok (.file target, opened) =>
    let packing := Archive.addEntries opened path target compression [] entries
    let result := match packing.failure with
      | none => .ok ()
      | some e => .error e
    ⟨result, opened.put target (.file (Archive.encode packing.members)), packing.added⟩

/-- An archive that cannot be opened leaves everything as it was. -/
theorem writeArchive_of_error [Deflate.Encoder] {fs : FileSystem} {path : String}
    {entries : List Entry} {compression : Compression} {cause : IoError}
    (h : fs.openForWriting path = .error cause) :
    writeArchive fs path entries compression = ⟨.error (.file path cause), fs, []⟩ := by
  rw [writeArchive, h]

/-- A source that cannot be opened counts before a name used twice. -/
theorem Archive.addEntries_of_missing [Deflate.Encoder] {fs : FileSystem} {path : String}
    {target : Location} {compression : Compression} {members : List Archive.Member} {entry : Entry}
    {rest : List Entry} {cause : IoError} (h : fs.openForReading entry.source = .error cause) :
    Archive.addEntries fs path target compression members (entry :: rest) =
      ⟨members, [], some (.file entry.source cause)⟩ := by
  rw [Archive.addEntries, h]

end FixtureKit

import FixtureKit.FileSystem.IoError

/-!
# Archive Errors

What can be wrong with an archive, and what can go wrong with the files that go into it or come
out of it. The faults of the format are those of the end record, of its long form for large
archives, of a local header, and of names and methods.
-/

namespace FixtureKit

namespace Archive

/-- What makes an archive invalid. -/
inductive Invalidity
  | noEndRecord
  | commentBeyondEnd
  | directoryBehindEndRecord
  | noCentralHeader
  | locatorBehindItself
  | severalDisks
  | noLongEndRecord
  | longEndRecordTooShort
  | longEndRecordTooLong
  | longEndRecordDisk
  | longEndRecordLength
  | longEndRecordCount
  | noLocalHeader
  | duplicateName (name : String)
  deriving DecidableEq

/-- The text of what makes an archive invalid. -/
def Invalidity.message : Invalidity → String
  | .noEndRecord => "Could not find EOCD"
  | .commentBeyondEnd => "EOCD comment exceeds file boundary"
  | .directoryBehindEndRecord => "Invalid CDFH offset in EOCD"
  | .noCentralHeader => "No CDFH found"
  | .locatorBehindItself => "Invalid EOCD64 Locator CD offset"
  | .severalDisks => "Multi-disk ZIP files are not supported"
  | .noLongEndRecord => "Could not find EOCD64"
  | .longEndRecordTooShort => "Low EOCD64 record size"
  | .longEndRecordTooLong => "EOCD64 extends beyond EOCD64 locator"
  | .longEndRecordDisk => "Invalid EOCD64: inconsistency with Locator data"
  | .longEndRecordLength => "Invalid EOCD64: inconsistent length"
  | .longEndRecordCount => "Invalid EOCD64: inconsistent number of files"
  | .noLocalHeader => "Invalid local file header"
  | .duplicateName name => "Duplicate filename: " ++ name

/-- Why the format of an archive, or one of its entries, is refused. -/
inductive FormatError
  | invalid (cause : Invalidity)
  /-- An encrypted entry. -/
  | encrypted
  /-- An entry that is neither stored nor deflated. -/
  | unknownMethod
  | entryNotFound
  | wrongPassword
  | io (cause : IoError)
  deriving DecidableEq

namespace FormatError

/-- The text of an error. -/
def message : FormatError → String
  | .invalid cause => "invalid Zip archive: " ++ cause.message
  | .encrypted => "unsupported Zip archive: Password required to decrypt file"
  | .unknownMethod => "unsupported Zip archive: Compression method not supported"
  | .entryNotFound => "specified file not found in archive"
  | .wrongPassword => "provided password is incorrect"
  | .io _ => "i/o error"

/-- The texts of what caused an error, the nearest first. -/
def causes : FormatError → List String
  | .io cause => [cause.message]
  | _ => []

end FormatError

end Archive

/-- Why an archive could not be written or read. -/
inductive ArchiveError
  /-- A file, the archive or one that goes into it, could not be opened, read or written. -/
  | file (path : String) (cause : IoError)
  /-- Something is wrong with the archive at a path. -/
  | format (path : String) (cause : Archive.FormatError)
  /-- An entry claims to be larger than memory can be; the program is given up. -/
  | unallocatable
  deriving DecidableEq

namespace ArchiveError

/-- The text of an error, without its causes. -/
def message : ArchiveError → String
  | .file path _ => "could not open " ++ path
  | .format path _ => "zip error in " ++ path
  | .unallocatable => "capacity overflow"

/-- The texts of what caused an error, the nearest first. -/
def causes : ArchiveError → List String
  | .file _ cause => [cause.message]
  | .format _ cause => cause.message :: cause.causes
  | .unallocatable => []

/-- What is told at once when an archive is given up for which there is no room: its end, which is
to be written in any case, finds none either. -/
def notice : ArchiveError → String
  | .format _ (.io .storageFull) =>
    "ZipWriter drop failed: Io(Os \x7b code: 28, kind: StorageFull, " ++
      "message: \"No space left on device\" \x7d)"
  | _ => ""

/-- The path that an error names. -/
def path : ArchiveError → Option String
  | .file path _ => some path
  | .format path _ => some path
  | .unallocatable => none

end ArchiveError

end FixtureKit

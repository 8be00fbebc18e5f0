/-!
# Input and Output Errors

The causes for which reading or writing fails, with the text of each. The first group comes from
the operating system and names its error number; the second from reading the data of an archive
entry; the last two from reading a record and from an entry that outgrows its size fields.
-/

namespace FixtureKit

/-- Why reading or writing failed. -/
inductive IoError
  | notFound
  | alreadyExists
  | notADirectory
  | isADirectory
  | invalidArgument
  | storageFull
  | nameTooLong
  | tooManyLinks
  | nulInPath
  | wrongChecksum
  | incompleteStream
  | corruptStream
  | shortRead
  | entryTooLarge
  deriving DecidableEq

/-- The text of an error. -/
def IoError.message : IoError → String
  | .notFound => "No such file or directory (os error 2)"
  | .alreadyExists => "File exists (os error 17)"
  | .notADirectory => "Not a directory (os error 20)"
  | .isADirectory => "Is a directory (os error 21)"
  | .invalidArgument => "Invalid argument (os error 22)"
  | .storageFull => "No space left on device (os error 28)"
  | .nameTooLong => "File name too long (os error 36)"
  | .tooManyLinks => "Too many levels of symbolic links (os error 40)"
  | .nulInPath => "file name contained an unexpected NUL byte"
  | .wrongChecksum => "Invalid checksum"
  | .incompleteStream => "incomplete deflate stream"
  | .corruptStream => "corrupt deflate stream"
  | .shortRead => "failed to fill whole buffer"
  | .entryTooLarge => "Large file option has not been set"

end FixtureKit

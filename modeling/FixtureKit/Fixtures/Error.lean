import FixtureKit.Archive.Error
import FixtureKit.Directory
import FixtureKit.RandomFile
import FixtureKit.Text.Quoted

/-!
# Why Fixtures Fail

Fixtures fail to be made because a directory, a file or the archive cannot be written, and fail to
verify because something cannot be read or is not what it should be. An error of a part is passed
on as it is: its text, its causes and its path are those of the part.
-/

namespace FixtureKit

/-- What is found that should be otherwise. -/
inductive Mismatch
  /-- The file at a path has the wrong size. -/
  | size (path : String) (actual expected : Nat)
  /-- The archive at a path lists the wrong entries. -/
  | entries (archive : String) (actual expected : List String)
  /-- An entry does not hold the bytes of its file. -/
  | content (name path : String)
  deriving DecidableEq

/-- The text of what is found. -/
def Mismatch.message : Mismatch → String
  | .size path actual expected =>
    path ++ " is " ++ toString actual ++ " bytes, expected " ++ toString expected
  | .entries archive actual expected =>
    archive ++ " lists entries " ++ Text.quoteList actual ++ ", expected " ++
      Text.quoteList expected
  | .content name path => "entry " ++ name ++ " differs from " ++ path

/-- Why fixtures could not be made or did not verify. -/
inductive FixtureError
  | directory (cause : DirectoryError)
  | fill (cause : FillError)
  | archive (cause : ArchiveError)
  /-- A file could not be looked at. -/
  | status (path : String) (cause : IoError)
  | mismatch (found : Mismatch)
  deriving DecidableEq

namespace FixtureError

/-- The text of an error, without its causes. -/
def message : FixtureError → String
  | .directory cause => cause.message
  | .fill cause => cause.message
  | .archive cause => cause.message
  | .status path _ => "could not stat " ++ path
  | .mismatch found => "verification failed: " ++ found.message

/-- The texts of what caused an error, the nearest first. -/
def causes : FixtureError → List String
  | .directory cause => cause.causes
  | .fill cause => [cause.cause.message]
  | .archive cause => cause.causes
  | .status _ cause => [cause.message]
  | .mismatch _ => []

/-- What is told in front of an error. -/
def notice : FixtureError → String
  | .archive cause => cause.notice
  | _ => ""

/-- The path that an error names. -/
def path : FixtureError → Option String
  | .directory cause => some cause.path
  | .fill cause => some cause.path
  | .archive cause => cause.path
  | .status path _ => some path
  | .mismatch _ => none

end FixtureError

end FixtureKit

import FixtureKit.FileSystem.Operations

/-!
# Destination Directories

The directory into which files are to be written is made if it is missing, with all directories
above it. What stands there already is left as it is: a directory is fine, anything else refused.

## Main results

* `ensureDirectory_of_blocked` — what is in the way is named and nothing changes.
-/

namespace FixtureKit

/-- Why a destination directory is not there. -/
inductive DirectoryError
  | cannotCreate (path : String) (cause : IoError)
  | notADirectory (path : String)
  deriving DecidableEq

namespace DirectoryError

/-- The text of an error, without its cause. -/
def message : DirectoryError → String
  | .cannotCreate path _ => "could not create directory " ++ path
  | .notADirectory path => path ++ " exists but is not a directory"

/-- The texts of what caused an error, the nearest first. -/
def causes : DirectoryError → List String
  | .cannotCreate _ cause => [cause.message]
  | .notADirectory _ => []

/-- The path that an error names. -/
def path : DirectoryError → String
  | .cannotCreate path _ => path
  | .notADirectory path => path

end DirectoryError

/-- Whether something that is not a directory stands at a path. -/
def FileSystem.isBlocked (fs : FileSystem) (text : String) : Bool :=
  match fs.object? text with
  | .ok object => object ≠ .directory
  | .error _ => false

/-- Makes a directory, with those above it, unless it is there. -/
def ensureDirectory (fs : FileSystem) (text : String) :
    Except DirectoryError Unit × FileSystem :=
  if fs.isBlocked text then
    (.error (.notADirectory text), fs)
  else
    match fs.makeDirectories text with
    | (.ok _, made) => (.ok (), made)
    | (.error cause, made) => (.error (.cannotCreate text cause), made)

/-- What is in the way is named and nothing changes. -/
theorem ensureDirectory_of_blocked {fs : FileSystem} {text : String} (h : fs.isBlocked text) :
    ensureDirectory fs text = (.error (.notADirectory text), fs) := by
  rw [ensureDirectory, if_pos h]

end FixtureKit

import FixtureKit.CommandLine.Run
import Std.Time.Format

/-!
# The Program

The program looks at the places on disk that its arguments concern, runs the command line on what
it has seen, and carries out on disk what has changed.

## Conventions

* The contents of files are not looked at, because a run reads only what it has written itself.
* What cannot be read is taken for a directory, and a link that leads nowhere for nothing.
* The random bytes that a run can need are drawn before it.
-/

namespace FixtureKit

namespace Program

/-- The path of the device without room. -/
def fullDevicePath : String := "/dev/full"

/-- The absolute path of a location. -/
def pathOf (location : Location) : String :=
  "/" ++ "/".intercalate location.reverse

/-- The location of an absolute path. -/
def locationOf (path : String) : Location :=
  ((Path.pieces path.toList).filter (· ≠ [])).reverse.map String.ofList

/-- The result of an action, or nothing if it fails. -/
def attempt {α : Type} (action : IO α) : IO (Option α) := do
  try
    return some (← action)
  catch _ =>
    return none

/-- What stands on disk at an absolute path that leads through no links but perhaps a last one. -/
def objectAt (path : String) : IO (Option Object) := do
  let some target ← attempt (IO.FS.realPath path) | return none
  if toString target ≠ path then
    return some (.link (toString target))
  else if path = fullDevicePath then
    return some .fullDevice
  else
    match ← attempt (do (← IO.FS.Handle.mk path .read).read 1) with
    | some _ => return some (.file ByteArray.empty)
    | none => return some .directory

/-- Looks at a location, unless it is known already. -/
def learn (fs : FileSystem) (location : Location) : IO FileSystem := do
  if (fs.get? location).isSome then
    return fs
  else
    match ← objectAt (pathOf location) with
    | none => return fs
    | some object => return fs.put location object

/-- Looks at the places that steps lead through, with at most `links` links followed. -/
def follow : (links : Nat) → FileSystem → Location → List Step → IO FileSystem
  | _, fs, _, [] => return fs
  | links, fs, here, .stay :: rest => follow links fs here rest
  | links, fs, here, .slash :: rest => follow links fs here rest
  | links, fs, here, .up :: rest => follow links fs here.tail rest
  | links, fs, here, .name name :: rest => do
    let fs ← learn fs (name :: here)
    match links, fs.get? (name :: here) with
    | links, some .directory => follow links fs (name :: here) rest
    | links + 1, some (.link target) =>
      let path := Path.ofText target
      follow links fs (FileSystem.startOf path here) (path.steps ++ rest)
    | _, _ => return fs
termination_by links _ _ steps => (links, steps.length)

/-- Looks at the places on disk that a run with a destination concerns. -/
def survey (destination : String) : IO FileSystem := do
  let here := locationOf (toString (← IO.currentDir))
  let layout := Layout.of destination
  [destination, layout.small, layout.large, layout.archive].foldlM
    (fun fs text =>
      let path := Path.ofText text
      follow FileSystem.linkLimit fs (FileSystem.startOf path here) path.steps)
    ⟨here, []⟩

/-- Carries out on disk what is new in a file system, the oldest change first. -/
def carryOut (before after : FileSystem) : IO Unit := do
  for (location, object) in after.objects.reverse do
    if before.get? location ≠ some object then
      match object with
      | .directory => IO.FS.createDirAll (pathOf location)
      | .file content => IO.FS.writeBinFile (pathOf location) content
      | .link _ => pure ()
      | .fullDevice => pure ()

/-- The time now, in microseconds. -/
def timeNow : IO String := do
  let now ← Std.Time.Timestamp.now
  let date := Std.Time.DateTime.ofTimestampWithZone now .UTC
  return date.format "uuuu-MM-dd'T'HH:mm:ss.SSSSSS'Z'"

/-- What a run is told apart from its arguments. -/
def environment : IO Environment := do
  return ⟨← IO.getEnv "RUST_LOG", ← IO.getEnv "NO_COLOR", ← IO.getEnv "CLICOLOR_FORCE"⟩

/-- Runs the command line on the disk and answers the status. -/
def runOnDisk (arguments : List String) : IO UInt32 := do
  let before ← match Settings.ofArguments arguments with
    | .ok settings => survey settings.destination
    | .error _ => pure ⟨[], []⟩
  let bytes ← IO.getRandomBytes (smallSize + largeSize).toUSize
  let outcome :=
    run Generator.supply (bytes, 0) before (← environment) (← timeNow) arguments
  try
    carryOut before outcome.files
    (← IO.getStderr).putStr outcome.errors
    (← IO.getStdout).putStr outcome.output
    return outcome.status.toUInt32
  catch e =>
    (← IO.getStderr).putStr (Failure.text "Failed to write to the disk" [toString e])
    return 1

end Program

end FixtureKit

/-- The entry point of the program. -/
def main (arguments : List String) : IO UInt32 :=
  FixtureKit.Program.runOnDisk arguments

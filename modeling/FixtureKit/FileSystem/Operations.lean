import FixtureKit.Bytes
import FixtureKit.FileSystem.Walk

/-!
# Operations on Files and Directories

Each operation takes a file system and a path and answers a result and, where it changes
something, the file system afterwards. An operation that fails leaves no change behind, apart from
`makeDirectories`, which keeps the directories it has made above the one it could not make, and
`removeEntry`, which has emptied the directory whose entry it could not remove.

## Main results

* `makeDirectory_eq_ok` — a directory is made exactly at a vacant place.
* `openForWriting_eq_ok` — opening for writing leaves an empty file or the full device.
-/

namespace FixtureKit

/-- What has been opened for writing. -/
inductive Sink
  /-- The file at a location, now empty. -/
  | file (location : Location)
  | fullDevice
  deriving DecidableEq

namespace FileSystem

/-! ### Looking -/

/-- The object that a path denotes, with its location. -/
def openForReading (fs : FileSystem) (text : String) : Except IoError (Location × Object) :=
  match fs.find .use text with
  | .error e => .error e
  | .ok (.occupied location object) => .ok (location, object)
  | .ok (.vacant _ _) => .error .notFound

/-- The object that a path denotes. -/
def object? (fs : FileSystem) (text : String) : Except IoError Object :=
  (fs.openForReading text).map Prod.snd

/-- Whether a path denotes a directory. -/
def isDirectory (fs : FileSystem) (path : Path) : Bool :=
  match fs.locate .use path with
  | .ok (.occupied _ .directory) => true
  | _ => false

/-- All bytes of the file that a path denotes. -/
def contentOf (fs : FileSystem) (text : String) : Except IoError ByteArray :=
  match fs.object? text with
  | .error e => .error e
  | .ok object => object.content

/-! ### Directories -/

/-- Makes one directory. -/
def makeDirectory (fs : FileSystem) (path : Path) : Except IoError FileSystem :=
  match fs.locate .entry path.trimmed with
  | .error e => .error e
  | .ok (.occupied _ _) => .error .alreadyExists
  | .ok (.vacant directory name) => .ok (fs.put (name :: directory) .directory)

/-- Makes a directory; when a directory above it is missing, lets `makeAbove` make that first. A
directory that is there already is as good as a new one. -/
def makeDirectoryVia (makeAbove : FileSystem → Except IoError Unit × FileSystem) (path : Path)
    (fs : FileSystem) : Except IoError Unit × FileSystem :=
  match fs.makeDirectory path with
  | .ok made => (.ok (), made)
  | .error .notFound =>
    match makeAbove fs with
    | (.error e, above) => (.error e, above)
    | (.ok _, above) =>
      match above.makeDirectory path with
      | .ok made => (.ok (), made)
      | .error e => if above.isDirectory path then (.ok (), above) else (.error e, above)
  | .error e => if fs.isDirectory path then (.ok (), fs) else (.error e, fs)

/-- Makes the directory of the given steps, the last step first, and those above it. -/
def makeAbove (absolute : Bool) :
    (reversed : List Step) → FileSystem → Except IoError Unit × FileSystem
  | [], fs => (.ok (), fs)
  | last :: rest, fs =>
    makeDirectoryVia (makeAbove absolute rest) ⟨absolute, (last :: rest).reverse⟩ fs

/-- Makes a directory with all that are missing above it. The empty path needs nothing. -/
def makeDirectories (fs : FileSystem) (text : String) : Except IoError Unit × FileSystem :=
  if text.isEmpty then
    (.ok (), fs)
  else
    match Path.parse text with
    | .error e => (.error e, fs)
    | .ok path => makeDirectoryVia (makeAbove path.absolute path.significant.reverse.tail) path fs

/-! ### Files, links and removal -/

/-- Opens a file for writing: makes it or empties it. -/
def openForWriting (fs : FileSystem) (text : String) : Except IoError (Sink × FileSystem) :=
  match fs.find .create text with
  | .error e => .error e
  | .ok (.vacant directory name) =>
    .ok (.file (name :: directory), fs.put (name :: directory) (.file ByteArray.empty))
  | .ok (.occupied location (.file _)) =>
    .ok (.file location, fs.put location (.file ByteArray.empty))
  | .ok (.occupied _ .fullDevice) => .ok (.fullDevice, fs)
  | .ok (.occupied _ .directory) => .error .isADirectory
  | .ok (.occupied _ (.link _)) => .error .tooManyLinks

/-- Writes a whole file. -/
def writeFile (fs : FileSystem) (text : String) (content : ByteArray) :
    Except IoError Unit × FileSystem :=
  match fs.openForWriting text with
  | .error e => (.error e, fs)
  | .ok (.file location, opened) => (.ok (), opened.put location (.file content))
  | .ok (.fullDevice, opened) =>
    (if content.isEmpty then .ok () else .error .storageFull, opened)

/-- Replaces the bytes of a file that exists by what `change` makes of them. -/
def changeFile (fs : FileSystem) (text : String)
    (change : ByteArray → Except IoError ByteArray) : Except IoError FileSystem :=
  match fs.openForReading text with
  | .error e => .error e
  | .ok (_, .directory) => .error .isADirectory
  | .ok (location, object) =>
    match object.content with
    | .error e => .error e
    | .ok content =>
      match change content with
      | .error e => .error e
      | .ok changed =>
        match object with
        | .file _ => .ok (fs.put location (.file changed))
        | _ => .error .invalidArgument

/-- Cuts a file that exists, or fills it up with zeros, to a size. -/
def setLength (fs : FileSystem) (text : String) (size : Nat) : Except IoError FileSystem :=
  fs.changeFile text fun content => .ok (Bytes.resized content size)

/-- Makes a link with the given target text. -/
def makeLink (fs : FileSystem) (target text : String) : Except IoError FileSystem :=
  match Path.parse target, Path.parse text with
  | .error e, _ => .error e
  | _, .error e => .error e
  | .ok _, .ok path =>
    match fs.locate .entry path.trimmed with
    | .error e => .error e
    | .ok (.occupied _ _) => .error .alreadyExists
    | .ok (.vacant directory name) =>
      if path.steps.getLast? = some .slash then
        .error .notFound
      else
        .ok (fs.put (name :: directory) (.link target))

/-- Removes the entry of a directory that has been emptied. The last step of the path must name it,
and not a link to it; the working directory and those above it stay. A path that led through what
was in the directory leads nowhere any more, and then nothing is left to do. -/
def removeEmptied (fs : FileSystem) (path : Path) : Except IoError FileSystem :=
  match fs.locate .entry path.trimmed with
  | .error .notFound => .ok fs
  | .error e => .error e
  | .ok (.vacant _ _) => .ok fs
  | .ok (.occupied location .directory) =>
    if path.endsInName ∧ fs.isAncestor location = false then .ok (fs.remove location)
    else .error .invalidArgument
  | .ok (.occupied _ _) => .error .notADirectory

/-- Removes an entry. A directory is emptied first, and stays empty if its own entry cannot be
removed. -/
def removeEntry (fs : FileSystem) (text : String) : Except IoError Unit × FileSystem :=
  match fs.find .entry text with
  | .error e => (.error e, fs)
  | .ok (.vacant _ _) => (.error .notFound, fs)
  | .ok (.occupied location .directory) =>
    let emptied := fs.clear location
    match emptied.removeEmptied (Path.ofText text) with
    | .error e => (.error e, emptied)
    | .ok removed => (.ok (), removed)
  | .ok (.occupied location _) => (.ok (), fs.remove location)

/-! ### What the operations change -/

/-- A directory is made exactly at a vacant place. -/
theorem makeDirectory_eq_ok {fs made : FileSystem} {path : Path} :
    fs.makeDirectory path = .ok made ↔
      ∃ directory name,
        fs.locate .entry path.trimmed =
          .ok (.vacant directory name) ∧
        made = fs.put (name :: directory) .directory := by
  unfold makeDirectory
  split
  · next h => simp [h]
  · next h => simp [h]
  · next directory name h =>
    constructor
    · intro e
      exact ⟨directory, name, h, (Except.ok.inj e).symm⟩
    · rintro ⟨directory', name', h', rfl⟩
      rw [h] at h'
      cases h'
      rfl

/-- Opening for writing leaves an empty file at the sink, or changes nothing. -/
theorem openForWriting_eq_ok {fs opened : FileSystem} {text : String} {sink : Sink}
    (h : fs.openForWriting text = .ok (sink, opened)) :
    (∃ location, sink = .file location ∧
      opened = fs.put location (.file ByteArray.empty)) ∨ (sink = .fullDevice ∧ opened = fs) := by
  unfold openForWriting at h
  split at h <;> cases h
  · exact .inl ⟨_, rfl, rfl⟩
  · exact .inl ⟨_, rfl, rfl⟩
  · exact .inr ⟨rfl, rfl⟩

end FileSystem

end FixtureKit

import FixtureKit.Bytes
import FixtureKit.FileSystem.Path

/-!
# The File System as a Store of Objects

A file system holds objects at locations. A location is the row of names from an object up to the
root, the object's own name first, so that the directory above is the tail. The directories from
the working directory up to the root exist by construction.

## Main results

* `get?_put`, `get?_remove`, `get?_clear` — what a store holds after a change, location by location.
-/

namespace FixtureKit

/-- A place in the tree: the names from the object up to the root, the object's own name first. -/
abbrev Location := List String

/-- What can stand at a location. -/
inductive Object
  | directory
  | file (content : ByteArray)
  | link (target : String)
  /-- A device on which every write finds no space left, and which reads as endless zeros. -/
  | fullDevice
  deriving DecidableEq

/-- The bytes that are read from an object; a device has none of its own. -/
def Object.content : Object → Except IoError ByteArray
  | .file content => .ok content
  | .fullDevice => .ok ByteArray.empty
  | .directory => .error .isADirectory
  | .link _ => .error .tooManyLinks

/-- The size of an object as its status tells it. -/
def Object.size : Object → Nat
  | .file content => content.size
  | _ => 0

/-- The objects of a file system and the directory at which relative paths start. -/
structure FileSystem where
  workingDirectory : Location
  objects : List (Location × Object)

namespace FileSystem

/-- Whether a location is the working directory or one of the directories above it. -/
def isAncestor (fs : FileSystem) (location : Location) : Bool :=
  location.isSuffixOf fs.workingDirectory

/-- The object at a location. -/
def get? (fs : FileSystem) (location : Location) : Option Object :=
  if fs.isAncestor location then some .directory else fs.objects.lookup location

/-- Puts an object at a location, in place of what stood there. -/
def put (fs : FileSystem) (location : Location) (object : Object) : FileSystem :=
  { fs with objects := (location, object) :: fs.objects.filter fun entry => entry.1 != location }

/-- Removes a location with everything below it. -/
def remove (fs : FileSystem) (location : Location) : FileSystem :=
  { fs with objects := fs.objects.filter fun entry => !location.isSuffixOf entry.1 }

/-- Removes everything below a location, and keeps the location itself. -/
def clear (fs : FileSystem) (location : Location) : FileSystem :=
  { fs with objects := fs.objects.filter fun entry =>
      !(location.isSuffixOf entry.1 && entry.1 != location) }

/-! ### What a store holds after a change -/

/-- Putting an object somewhere does not move the working directory. -/
@[simp]
theorem workingDirectory_put (fs : FileSystem) (location : Location) (object : Object) :
    (fs.put location object).workingDirectory = fs.workingDirectory := rfl

/-- Putting an object somewhere does not change what is above the working directory. -/
@[simp]
theorem isAncestor_put (fs : FileSystem) (location other : Location) (object : Object) :
    (fs.put location object).isAncestor other = fs.isAncestor other := rfl

/-- Of the objects that are kept by their locations, each is found where it was, and of the others
none is. -/
theorem lookup_filter {α : Type} (entries : List (Location × α)) (keep : Location → Bool)
    (location : Location) :
    (entries.filter fun entry => keep entry.1).lookup location =
      if keep location then entries.lookup location else none := by
  induction entries with
  | nil => simp
  | cons entry entries ih =>
    obtain ⟨key, object⟩ := entry
    by_cases hkey : location = key
    · subst hkey
      by_cases hkeep : keep location <;> simp [hkeep, ih]
    · have hne : (location == key) = false := by simpa using hkey
      by_cases hkeep : keep key <;> simp [hkeep, List.lookup_cons, hne, ih]

/-- Removing objects does not move the working directory. -/
@[simp]
theorem workingDirectory_remove (fs : FileSystem) (location : Location) :
    (fs.remove location).workingDirectory = fs.workingDirectory := rfl

/-- Removing objects does not change what is above the working directory. -/
@[simp]
theorem isAncestor_remove (fs : FileSystem) (location other : Location) :
    (fs.remove location).isAncestor other = fs.isAncestor other := rfl

/-- An object that is put somewhere is found there, and everywhere else what was there before.
Above the working directory there is always a directory, so nothing else can be put there. -/
theorem get?_put (fs : FileSystem) (location other : Location) (object : Object)
    (fresh : fs.isAncestor location = false) :
    (fs.put location object).get? other =
      if other = location then some object else fs.get? other := by
  by_cases h : other = location
  · subst h
    rw [get?, isAncestor_put, fresh]
    simp [put]
  · have hne : (other == location) = false := by simpa using h
    have keep := lookup_filter fs.objects (fun key => key != location) other
    simp only [bne, hne, Bool.not_false, if_true] at keep
    rw [if_neg h, get?, get?, isAncestor_put]
    simp [put, List.lookup_cons, hne, bne, keep]

/-- What is removed is gone, with all that is below it. The directories above the working directory
stay. -/
theorem get?_remove (fs : FileSystem) (location other : Location) :
    (fs.remove location).get? other =
      if location.isSuffixOf other ∧ fs.isAncestor other = false then none else fs.get? other := by
  have keep := lookup_filter fs.objects (fun key => !location.isSuffixOf key) other
  rw [get?, get?, isAncestor_remove, remove, keep]
  by_cases ha : fs.isAncestor other
  · simp [ha]
  · cases hs : location.isSuffixOf other <;> simp [ha]

/-- Clearing a directory does not change what is above the working directory. -/
@[simp]
theorem isAncestor_clear (fs : FileSystem) (location other : Location) :
    (fs.clear location).isAncestor other = fs.isAncestor other := rfl

/-- Of a directory that is cleared only what is below it is gone, and the directories above the
working directory stay. -/
theorem get?_clear (fs : FileSystem) (location other : Location) :
    (fs.clear location).get? other =
      if location.isSuffixOf other ∧ other ≠ location ∧ fs.isAncestor other = false then none
      else fs.get? other := by
  have keep := lookup_filter fs.objects
    (fun key => !(location.isSuffixOf key && key != location)) other
  rw [get?, get?, isAncestor_clear, clear, keep]
  by_cases ha : fs.isAncestor other
  · simp [ha]
  · by_cases hne : other = location
    · simp [hne]
    · cases hs : location.isSuffixOf other <;> simp [ha, hne]

end FileSystem

end FixtureKit

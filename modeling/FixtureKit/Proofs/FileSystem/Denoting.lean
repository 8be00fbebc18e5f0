import FixtureKit.Proofs.FileSystem.Filling

/-!
# The File That a Path Denotes

A path denotes a location when it leads there through all links, whether something stands
there or a file would be made. Two paths can denote one location, and then what is written
by one is read by the other. Filling a file changes what stands at a location, but not which
location a path denotes.

## Main results

* `denotes_put_iff`: filling a file leaves alone what paths denote.
* `openForReading_put_of_denotes`: what a path reads when the file that it denotes is filled.
-/

namespace FixtureKit

namespace FileSystem

/-- A path leads to a location, where something stands or a file would be made. -/
def Denotes (fs : FileSystem) (text : String) (location : Location) : Prop :=
  ∃ place, fs.find .use text = .ok place ∧ place.location = location

/-- Two paths denote one location. -/
def SameFile (fs : FileSystem) (first second : String) : Prop :=
  ∃ location, fs.Denotes first location ∧ fs.Denotes second location

variable {fs : FileSystem} {text : String} {location target : Location}

/-- A path denotes one location at most. -/
theorem Denotes.unique {other : Location} (h : fs.Denotes text location)
    (h' : fs.Denotes text other) : location = other := by
  obtain ⟨place, hfind, rfl⟩ := h
  obtain ⟨place', hfind', rfl⟩ := h'
  rw [hfind] at hfind'
  rw [Except.ok.inj hfind']

/-- Whether two paths are for the same file is whether their locations are the same. -/
theorem sameFile_iff {first second : String} {other : Location} (h : fs.Denotes first location)
    (h' : fs.Denotes second other) : fs.SameFile first second ↔ location = other := by
  constructor
  · rintro ⟨shared, hfirst, hsecond⟩
    exact (h.unique hfirst).trans (hsecond.unique h')
  · rintro rfl
    exact ⟨location, h, h'⟩

/-- Filling a file leaves alone what paths denote. -/
theorem denotes_put_iff (hfill : fs.Fillable target) (content : ByteArray) :
    (fs.put target (.file content)).Denotes text location ↔ fs.Denotes text location := by
  have hlocation (place : Place) :
      (filledPlace target content place).location = place.location := by
    rw [filledPlace]
    split
    · next heq => exact heq.symm
    · rfl
  constructor
  · rintro ⟨filled, hfilled, rfl⟩
    obtain ⟨place, hfind, rfl⟩ := exists_find_of_put hfill content hfilled
    exact ⟨place, hfind, (hlocation place).symm⟩
  · rintro ⟨place, hfind, rfl⟩
    exact ⟨_, find_put hfill content hfind, hlocation place⟩

/-- A path that can be opened for writing denotes the file that is opened. -/
theorem denotes_of_openForWriting {opened : FileSystem}
    (h : fs.openForWriting text = .ok (.file target, opened)) : fs.Denotes text target := by
  obtain ⟨-, -, place, hfind, hlocation⟩ := find_of_openForWriting h
  exact ⟨place, find_use_of_create hfind, hlocation⟩

/-- A path reads the file that it denotes. -/
theorem openForReading_of_denotes {content : ByteArray} (h : fs.Denotes text location)
    (hfile : fs.get? location = some (.file content)) :
    fs.openForReading text = .ok (location, .file content) := by
  obtain ⟨place, hfind, rfl⟩ := h
  have hsound := find_sound hfind
  rw [openForReading, hfind]
  cases place with
  | vacant directory name =>
      have hvacant : fs.get? (name :: directory) = none := hsound.2
      rw [Place.location, hvacant] at hfile
      cases hfile
  | occupied location object =>
      rw [Place.location, hsound.1] at hfile
      rw [Option.some.inj hfile]
      rfl

/-- A path reads what the file that it denotes has been filled with. -/
theorem openForReading_put_of_denotes (hfill : fs.Fillable target) (content : ByteArray)
    (h : fs.Denotes text target) :
    (fs.put target (.file content)).openForReading text = .ok (target, .file content) := by
  obtain ⟨place, hfind, hlocation⟩ := h
  exact openForReading_put_self hfill content hfind hlocation

end FileSystem

end FixtureKit

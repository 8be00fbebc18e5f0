import FixtureKit.Proofs.FileSystem.Destination
import FixtureKit.Proofs.FileSystem.OnTheWay

/-!
# Directories That Have Been Made Sure Of

When making sure of a directory succeeds, the path leads to a directory, through whatever links it
takes. This is settled by the last directory that is made: it stands at the place to which the
path led when the place was vacant, and if none was made there, the path was looked up after all
others had been made. How the directories above came about plays no part in it.

Making sure of it again finds the directory and does nothing.

## Main results

* `exists_locate_of_makeDirectoryVia`: a directory that is made or found is where the path leads.
* `exists_find_of_ensureDirectory`: the same for the text of a destination.
* `ensureDirectory_cases`: the three ways in which making sure of a directory ends.
* `ensureDirectory_settles`: what holds after each, and that a second time nothing happens.
-/

namespace FixtureKit

open FileSystem FixtureKit.Path

namespace FileSystem

variable {fs made : FileSystem} {path : Path} {text : String} {location : Location}

/-! ### Where a path leads when its directory has been made -/

/-- A path is one of a directory exactly if following it ends at one. -/
theorem isDirectory_iff :
    fs.isDirectory path = true ↔
      ∃ location, fs.locate .use path = .ok (.occupied location .directory) := by
  rw [isDirectory]
  constructor
  · intro h
    split at h
    · next location hlocate => exact ⟨location, hlocate⟩
    · cases h
  · rintro ⟨location, hlocate⟩
    rw [hlocate]

/-- Slashes at the end of a path make no difference on the way to a directory. -/
theorem locate_trimmed_iff :
    fs.locate .use path.trimmed = .ok (.occupied location .directory) ↔
      fs.locate .use path = .ok (.occupied location .directory) :=
  ⟨walk_of_counted_eq (counted_trimmed path), walk_of_counted_eq (counted_trimmed path).symm⟩

/-- The path of a directory that has just been made leads to it. -/
theorem exists_locate_of_makeDirectory (h : fs.makeDirectory path = .ok made) :
    ∃ location, made.locate .use path = .ok (.occupied location .directory) := by
  obtain ⟨location, -, -, hlocate⟩ := locate_of_makeDirectory h
  exact ⟨location, locate_trimmed_iff.1 hlocate⟩

/-- A directory that is made or found is where the path leads, whatever has been made above it. -/
theorem exists_locate_of_makeDirectoryVia
    {above : FileSystem → Except IoError Unit × FileSystem}
    (h : makeDirectoryVia above path fs = (.ok (), made)) :
    ∃ location, made.locate .use path = .ok (.occupied location .directory) := by
  rw [makeDirectoryVia] at h
  split at h
  · next hmake => cases h; exact exists_locate_of_makeDirectory hmake
  · split at h
    · cases h
    · split at h
      · next hmake => cases h; exact exists_locate_of_makeDirectory hmake
      · split at h
        · next hthere => cases h; exact isDirectory_iff.1 hthere
        · cases h
  · split at h
    · next hthere => cases h; exact isDirectory_iff.1 hthere
    · cases h

/-- The text of a path that leads to a directory is the text of its home. -/
theorem home_of_find (h : fs.find .use text = .ok (.occupied location .directory)) :
    fs.Home text location := by
  rw [find, parse_of_find h, ← locate_trimmed_iff, trimmed_ofText] at h
  exact h

/-- A path is blocked exactly if it leads to something that is not a directory. -/
theorem isBlocked_iff :
    fs.isBlocked text = true ↔
      ∃ location object, fs.find .use text = .ok (.occupied location object) ∧
        object ≠ .directory := by
  rw [isBlocked, object?, openForReading]
  cases hfind : fs.find .use text with
  | error e => simp [Except.map]
  | ok place =>
      cases place with
      | vacant directory name => simp [Except.map]
      | occupied location object =>
          constructor
          · intro h
            exact ⟨location, object, rfl, by simpa [Except.map] using h⟩
          · rintro ⟨_, _, hsame, hobject⟩
            cases hsame
            simpa [Except.map] using hobject

end FileSystem

/-! ### Making sure of a directory -/

variable {fs made : FileSystem} {text : String}

/-- Making sure of a directory ends in one of three ways: something is in the way, all directories
have been made or found, or one of them can be neither. -/
theorem ensureDirectory_cases (fs : FileSystem) (text : String) :
    (fs.isBlocked text = true ∧ ensureDirectory fs text = (.error (.notADirectory text), fs)) ∨
      (fs.isBlocked text = false ∧ ∃ made, fs.makeDirectories text = (.ok (), made) ∧
        ensureDirectory fs text = (.ok (), made)) ∨
      (fs.isBlocked text = false ∧ ∃ cause made, fs.makeDirectories text = (.error cause, made) ∧
        ensureDirectory fs text = (.error (.cannotCreate text cause), made)) := by
  cases hblocked : fs.isBlocked text with
  | true => exact .inl ⟨rfl, ensureDirectory_of_blocked hblocked⟩
  | false =>
      right
      cases hmake : fs.makeDirectories text with
      | mk result made =>
          cases result with
          | ok _ =>
              refine .inl ⟨rfl, made, rfl, ?_⟩
              rw [ensureDirectory, hblocked, hmake]
              rfl
          | error cause =>
              refine .inr ⟨rfl, cause, made, rfl, ?_⟩
              rw [ensureDirectory, hblocked, hmake]
              rfl

/-- When all directories have been made or found, the path leads to a directory. -/
theorem exists_find_of_makeDirectories (h : fs.makeDirectories text = (.ok (), made))
    (hempty : text ≠ "") :
    ∃ location, made.find .use text = .ok (.occupied location .directory) := by
  rw [makeDirectories, if_neg (by simpa using hempty)] at h
  split at h
  · cases h
  · next path hparse =>
      obtain ⟨location, hlocate⟩ := exists_locate_of_makeDirectoryVia h
      refine ⟨location, ?_⟩
      rw [find, hparse]
      exact hlocate

/-- A directory that can be found is made sure of by doing nothing. -/
theorem ensureDirectory_of_find {location : Location}
    (h : fs.find .use text = .ok (.occupied location .directory)) :
    ensureDirectory fs text = (.ok (), fs) :=
  ensureDirectory_of_home (.inr (parse_of_find h)) (home_of_find h)

/-- A directory that has been made sure of is where its path leads, unless that is empty. -/
theorem exists_find_of_ensureDirectory (h : ensureDirectory fs text = (.ok (), made))
    (hempty : text ≠ "") :
    ∃ location, made.find .use text = .ok (.occupied location .directory) := by
  rcases ensureDirectory_cases fs text with
    ⟨-, hrefused⟩ | ⟨-, after, hmake, hdone⟩ | ⟨-, cause, after, -, hfailed⟩
  · rw [h] at hrefused; cases hrefused
  · rw [h] at hdone
    cases hdone
    exact exists_find_of_makeDirectories hmake hempty
  · rw [h] at hfailed; cases hfailed

/-- To make sure of a directory again does nothing. -/
theorem ensureDirectory_again (h : ensureDirectory fs text = (.ok (), made)) :
    ensureDirectory made text = (.ok (), made) := by
  by_cases hempty : text = ""
  · rw [hempty]
    rfl
  · obtain ⟨location, hfind⟩ := exists_find_of_ensureDirectory h hempty
    exact ensureDirectory_of_find hfind

/-- What is no directory is named exactly if it is in the way. -/
theorem ensureDirectory_eq_notADirectory_iff {path : String} :
    (ensureDirectory fs text).1 = .error (.notADirectory path) ↔
      path = text ∧ fs.isBlocked text = true := by
  rcases ensureDirectory_cases fs text with
    ⟨hblocked, hrefused⟩ | ⟨hfree, after, -, hdone⟩ | ⟨hfree, cause, after, -, hfailed⟩
  · rw [hrefused, hblocked]
    simp [eq_comm]
  · rw [hdone, hfree]
    simp
  · rw [hfailed, hfree]
    simp

/-- Every failure names the whole path. -/
theorem ensureDirectory_error_cases {e : DirectoryError}
    (h : (ensureDirectory fs text).1 = .error e) :
    e = .notADirectory text ∨ ∃ cause, e = .cannotCreate text cause := by
  rcases ensureDirectory_cases fs text with
    ⟨-, hrefused⟩ | ⟨-, after, -, hdone⟩ | ⟨-, cause, after, -, hfailed⟩
  · rw [hrefused] at h; cases h; exact .inl rfl
  · rw [hdone] at h; cases h
  · rw [hfailed] at h; cases h; exact .inr ⟨cause, rfl⟩

/-! ### What stays and what is new -/

/-- All that was there is still there as it was. -/
theorem FileSystem.MadeAlong.get?_eq_some {path : Path} (h : MadeAlong path fs made)
    {location : Location} {object : Object} (hget : fs.get? location = some object) :
    made.get? location = some object := by
  cases h.changedAt location with
  | kept hsame => exact hsame.trans hget
  | made _ hvacant _ => rw [hget] at hvacant; cases hvacant
  | filled hnever => exact hnever.elim

/-- What is new is a directory. -/
theorem FileSystem.MadeAlong.eq_directory {path : Path} (h : MadeAlong path fs made)
    {location : Location} {object : Object} (hvacant : fs.get? location = none)
    (hget : made.get? location = some object) : object = .directory := by
  rcases h.new_eq hvacant hget with ⟨hdirectory, -⟩ | ⟨_, -, hnever⟩
  · exact hdirectory
  · exact hnever.elim

/-! ### All together -/

/-- **Making sure of a directory settles it**, whatever links there are and whatever the text of the
path. On success the path leads to a directory, unless it is empty, and a second time nothing
happens. What is in the way, where the path leads to something else, is named, and then nothing
has changed; every other failure names the whole path as well. However it ends, all that was
there is still there as it was, and what is new is a directory. -/
theorem ensureDirectory_settles (fs : FileSystem) (text : String) :
    let result := (ensureDirectory fs text).1
    let made := (ensureDirectory fs text).2
    (result = .ok () → ensureDirectory made text = (.ok (), made) ∧
      (text ≠ "" → ∃ location, made.find .use text = .ok (.occupied location .directory) ∧
        made.get? location = some .directory)) ∧
      (∀ path, result = .error (.notADirectory path) ↔
        path = text ∧ ∃ location object,
          fs.find .use text = .ok (.occupied location object) ∧ object ≠ .directory) ∧
      (∀ path, result = .error (.notADirectory path) → made = fs) ∧
      (∀ e, result = .error e →
        e = .notADirectory text ∨ ∃ cause, e = .cannotCreate text cause) ∧
      made.workingDirectory = fs.workingDirectory ∧
      (∀ location object, fs.get? location = some object → made.get? location = some object) ∧
      ∀ location object, fs.get? location = none → made.get? location = some object →
        object = .directory := by
  intro result made
  have hmade : MadeAlong (Path.ofText text) fs made := fs.madeAlong_ensureDirectory text
  refine ⟨?_, ?_, ?_, fun e => ensureDirectory_error_cases, hmade.workingDirectory,
    fun _ _ => hmade.get?_eq_some, fun _ _ => hmade.eq_directory⟩
  · intro hok
    have hdone : ensureDirectory fs text = (.ok (), made) := Prod.ext hok rfl
    refine ⟨ensureDirectory_again hdone, fun hempty => ?_⟩
    obtain ⟨location, hfind⟩ := exists_find_of_ensureDirectory hdone hempty
    exact ⟨location, hfind, (find_sound hfind).1⟩
  · intro path
    rw [← isBlocked_iff]
    exact ensureDirectory_eq_notADirectory_iff
  · intro path hrefused
    obtain ⟨-, hblocked⟩ := ensureDirectory_eq_notADirectory_iff.1 hrefused
    exact congrArg Prod.snd (ensureDirectory_of_blocked hblocked)

/-! ### A path through a link and back

Along the path three directories are missing. The first of them stands in front of a step up, so it
has to be made although the path does not stay in it. -/

/-- A working directory with a link back to it, and one to a file. -/
def windingPaths : FileSystem where
  workingDirectory := ["w"]
  objects :=
    [(["e", "w"], .directory), (["loop", "w"], .link "e/.."), (["file", "w"], .link "e/f"),
      (["f", "e", "w"], .file ⟨#[1, 2, 3]⟩)]

/-- Ensuring the path makes the directory in front of the step up, too, keeps the link, and leaves
a directory at its end that is there the second time. The link to the file is refused, and nothing
is changed. -/
theorem ensureDirectory_settles_winding :
    let text := "loop/a/../b//./c/"
    let made := (ensureDirectory windingPaths text).2
    (ensureDirectory windingPaths text).1 = .ok () ∧
      ensureDirectory made text = (.ok (), made) ∧
      (∃ location, made.find .use text = .ok (.occupied location .directory) ∧
        made.get? location = some .directory) ∧
      windingPaths.get? ["loop", "w"] = some (.link "e/..") ∧
      made.get? ["loop", "w"] = some (.link "e/..") ∧
      windingPaths.get? ["a", "w"] = none ∧ made.get? ["a", "w"] = some .directory ∧
      (ensureDirectory windingPaths "file").1 = .error (.notADirectory "file") ∧
      (ensureDirectory windingPaths "file").2 = windingPaths := by
  obtain ⟨hdone, -, -, -, -, hkept, -⟩ :=
    ensureDirectory_settles windingPaths "loop/a/../b//./c/"
  obtain ⟨-, hrefused, hsame, -⟩ := ensureDirectory_settles windingPaths "file"
  have hok : (ensureDirectory windingPaths "loop/a/../b//./c/").1 = .ok () := rfl
  obtain ⟨hagain, hleads⟩ := hdone hok
  have hblocked : (ensureDirectory windingPaths "file").1 = .error (.notADirectory "file") :=
    (hrefused "file").2 ⟨rfl, ["f", "e", "w"], .file ⟨#[1, 2, 3]⟩, rfl, by simp⟩
  have hlink : windingPaths.get? ["loop", "w"] = some (.link "e/..") := rfl
  exact ⟨hok, hagain, hleads (by decide), hlink, hkept _ _ hlink, rfl, rfl, hblocked,
    hsame "file" hblocked⟩

end FixtureKit

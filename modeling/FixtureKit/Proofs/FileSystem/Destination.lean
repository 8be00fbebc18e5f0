import FixtureKit.Directory
import FixtureKit.Proofs.FileSystem.Joined

/-!
# Destinations That Are There

Making sure of a directory that is there already does nothing. A path that leads to a
directory is found by every walk, with slashes at its end or without, and where a link
stands at the end of it, the entry that is found is the link. No directory is made then, and
what stands in the way is what was wanted.

## Main results

* `find_of_home`: the text of a directory leads to its home.
* `ensureDirectory_of_home`: a destination that is there is left as it is.
-/

namespace FixtureKit

namespace FileSystem

variable {fs : FileSystem} {directory : String} {location : Location}

/-- Without following a link, a walk for entries differs from one for use only if it ends at a
link. -/
theorem advance_entry_of_use (fs : FileSystem) (here : Location) (steps : List Step) :
    (∃ location link,
        fs.advance .entry here steps = .finished (.ok (.occupied location (.link link)))) ∨
      fs.advance .entry here steps = fs.advance .use here steps := by
  have huse (rest : List Step) : ¬(Purpose.use = .create ∧ rest = [.slash]) := by simp
  generalize hpurpose : Purpose.entry = purpose
  fun_induction advance fs purpose here steps with
  | case1 => exact .inr rfl
  | case2 here rest ih => exact ih
  | case3 here rest ih => exact ih
  | case4 here rest ih => exact ih
  | case5 here name rest hslash =>
      rw [← hpurpose] at hslash
      exact absurd hslash.1 (by decide)
  | case6 here name rest hslash hlong =>
      right
      rw [advance, if_neg (huse rest), if_pos hlong]
  | case7 here name rest hslash hshort hnone =>
      right
      rw [advance, if_neg (huse rest), if_neg hshort, hnone]
  | case8 here name rest hslash hshort hdirectory ih =>
      rw [advance, if_neg (huse rest), if_neg hshort, hdirectory]
      exact ih
  | case9 => exact .inl ⟨_, _, rfl⟩
  | case10 here name rest hslash hshort link hlink hend =>
      right
      rw [advance, if_neg (huse rest), if_neg hshort, hlink]
      simp
  | case11 here name rest hslash hshort object hdirectory hlink hobject =>
      right
      rw [advance, if_neg (huse rest), if_neg hshort, hobject]
      cases object <;> simp_all

/-- A walk that ends at something for use ends at something for entries. -/
theorem exists_walk_entry {links : Nat} {here : Location} {steps : List Step} {object : Object}
    (hwalk : fs.walk .use links here steps = .ok (.occupied location object)) :
    ∃ location' object', fs.walk .entry links here steps = .ok (.occupied location' object') := by
  induction links generalizing here steps with
  | zero =>
      rw [walk] at hwalk ⊢
      rcases fs.advance_entry_of_use here steps with ⟨location', link, hlink⟩ | hsame
      · exact ⟨location', .link link, by rw [hlink]⟩
      · rw [hsame]
        exact ⟨location, object, hwalk⟩
  | succ links ih =>
      rw [walk] at hwalk ⊢
      rcases fs.advance_entry_of_use here steps with ⟨location', link, hlink⟩ | hsame
      · exact ⟨location', .link link, by rw [hlink]⟩
      · rw [hsame]
        split at hwalk
        · exact ⟨location, object, hwalk⟩
        · exact ih hwalk

/-- The text of a directory leads to its home, also with slashes at its end. -/
theorem locate_of_home (h : fs.Home directory location) :
    fs.locate .use (Path.ofText directory) = .ok (.occupied location .directory) := by
  rw [locate]
  rcases Path.steps_ofText directory with hsteps | hsteps
  · rw [hsteps]
    exact h
  · obtain ⟨left, hleft⟩ := walk_append h
    rw [hsteps, hleft .use [.slash] ⟨by simp, by simp⟩]
    cases left <;> rfl

/-- A path that leads home to a location finds the directory there. -/
theorem find_of_home (hparse : Path.parse directory = .ok (Path.ofText directory))
    (h : fs.Home directory location) :
    fs.find .use directory = .ok (.occupied location .directory) := by
  rw [find, hparse]
  exact locate_of_home h

/-- Where a directory is, none is made. -/
theorem makeDirectory_of_home (h : fs.Home directory location) :
    fs.makeDirectory (Path.ofText directory) = .error .alreadyExists := by
  obtain ⟨location', object, hentry⟩ := exists_walk_entry h
  rw [makeDirectory, Path.trimmed_ofText, locate]
  rw [show startOf ⟨(Path.ofText directory).absolute, Path.innerSteps directory.toList⟩
    fs.workingDirectory = startOf (Path.ofText directory) fs.workingDirectory from rfl, hentry]

end FileSystem

open FileSystem

/-- A text that is taken for a destination is empty or can be read. -/
theorem parse_of_ensureDirectory {fs made : FileSystem} {directory : String}
    (h : ensureDirectory fs directory = (.ok (), made)) :
    directory.isEmpty = true ∨ Path.parse directory = .ok (Path.ofText directory) := by
  cases hempty : directory.isEmpty with
  | true => exact .inl rfl
  | false =>
      right
      cases hparse : Path.parse directory with
      | ok path => rw [Path.eq_ofText_of_parse hparse]
      | error e =>
          have hmake : fs.makeDirectories directory = (.error e, fs) := by
            rw [makeDirectories, hempty, hparse]
            rfl
          rw [ensureDirectory, hmake] at h
          split at h <;> cases h

/-- A destination that is there is left as it is. -/
theorem ensureDirectory_of_home {fs : FileSystem} {directory : String} {location : Location}
    (hparse : directory.isEmpty = true ∨ Path.parse directory = .ok (Path.ofText directory))
    (h : fs.Home directory location) : ensureDirectory fs directory = (.ok (), fs) := by
  rcases hparse with hempty | hparse
  · obtain rfl : directory = "" := String.isEmpty_iff.1 hempty
    rfl
  · have hobject : fs.object? directory = .ok .directory := by
      rw [object?, openForReading, find_of_home hparse h]
      rfl
    have hfree : fs.isBlocked directory = false := by
      rw [isBlocked, hobject]
      rfl
    have hthere : fs.isDirectory (Path.ofText directory) = true := by
      rw [isDirectory, locate_of_home h]
    have hmake : fs.makeDirectories directory = (.ok (), fs) := by
      rw [makeDirectories, hparse]
      split
      · rfl
      · simp only [makeDirectoryVia, makeDirectory_of_home h, hthere]
        rfl
    rw [ensureDirectory, hmake, hfree]
    rfl

end FixtureKit

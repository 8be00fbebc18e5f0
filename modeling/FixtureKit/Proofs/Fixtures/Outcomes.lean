import FixtureKit.Proofs.FileSystem.OnTheWay
import FixtureKit.Proofs.Fixtures.SharedFiles

/-!
# Where a Run Stops

A run stops at the first of its steps that fails, and each step either takes place or leaves
everything alone. So once the destination is a directory there are five ways to end, told by
`Run.Ends` with the file system that each of them leaves: the small file, the large file or the
archive is refused, an entry cannot be packed, or nothing fails. To look at what has been made
cannot fail any more.

Links are followed in the destination as it is once it is a directory. Filling files does not
change where they lead.

## Main results

* `Run.ends_generate`: a run in a directory ends in one of these ways.
* `generate_failure`: what a run that fails leaves of the files it was to make.
-/

namespace FixtureKit

open Archive FileSystem

/-- How a run ends in a destination that is a directory, and what it leaves. -/
inductive Run.Ends (run : Run) (made : FileSystem) (destination : String) :
    Except FixtureError Report × FileSystem → Prop
  | smallRefused (cause : IoError) :
    Ends run made destination (.error (.fill ⟨(Layout.of destination).small, cause⟩), made)
  | largeRefused {small : Location} (cause : IoError)
      (hsmall : made.openForWriting (Layout.of destination).small =
        .ok (.file small, made.put small (.file ByteArray.empty))) :
    Ends run made destination (.error (.fill ⟨(Layout.of destination).large, cause⟩),
      made.put small (.file run.smallDrawn.1))
  | archiveRefused {small large : Location} (cause : ArchiveError)
      (hfills : run.Fills made destination small large) :
    Ends run made destination (.error (.archive cause), run.filledAt made small large)
  | interrupted {small large archive : Location} (cause : ArchiveError) (image : ByteArray)
      (hopens : run.Opens made destination small large archive) :
    Ends run made destination
      (.error (.archive cause), (run.filledAt made small large).put archive (.file image))
  | finished {small large archive : Location} (report : Report) (image : ByteArray)
      (hopens : run.Opens made destination small large archive) :
    Ends run made destination
      (.ok report, (run.filledAt made small large).put archive (.file image))

/-- Whatever has been packed, a report can be made on what has been opened. -/
theorem Run.Opens.exists_report {run : Run} {made : FileSystem} {destination : String}
    {small large archive : Location} (h : run.Opens made destination small large archive)
    (image : ByteArray) :
    ∃ report, ((run.filledAt made small large).put archive (.file image)).report
      (Layout.of destination) = .ok report := by
  -- a file that is also the archive reads its image, any other what it was filled with
  have hread {text : String} {location : Location} {content : ByteArray}
      (hdenotes : made.Denotes text location)
      (hfilled : (run.filledAt made small large).openForReading text =
        .ok (location, .file content)) :
      ∃ bytes, ((run.filledAt made small large).put archive (.file image)).contentOf text =
        .ok bytes := by
    by_cases heq : location = archive
    · exact ⟨image, contentOf_of_openForReading (h.openForReading_archive image (heq ▸ hdenotes))⟩
    · exact ⟨content, contentOf_of_openForReading (h.openForReading_other image hfilled heq)⟩
  obtain ⟨hsmall, hlarge, harchive⟩ := h.denotes
  have hsmallRead : ∃ bytes, ((run.filledAt made small large).put archive
      (.file image)).contentOf (Layout.of destination).small = .ok bytes := by
    by_cases heq : small = large
    · exact hread (heq ▸ hsmall) (h.openForReading_small_of_eq heq)
    · exact hread hsmall (h.openForReading_small heq)
  obtain ⟨first, hfirst⟩ := hsmallRead
  obtain ⟨second, hsecond⟩ := hread hlarge h.openForReading_large
  exact ⟨_, report_of_contentOf hfirst hsecond
    (contentOf_of_openForReading (h.openForReading_archive image harchive))⟩

/-- A run whose files have been filled ends with the archive. -/
theorem Run.ends_packedAt {run : Run} {made : FileSystem} {destination : String}
    {small large : Location} (hfills : run.Fills made destination small large) :
    let written := run.packedAt made destination small large
    run.Ends made destination
      (match written.result with
        | .error e => .error (.archive e)
        | .ok _ => written.files.report (Layout.of destination),
      written.files) := by
  by_cases hfile : ∃ archive opened, (run.filledAt made small large).openForWriting
      (Layout.of destination).archive = .ok (.file archive, opened)
  · obtain ⟨archive, opened, harchive⟩ := hfile
    obtain ⟨-, rfl, -⟩ := find_of_openForWriting harchive
    have hopens : run.Opens made destination small large archive :=
      ⟨hfills.forSmall, hfills.forLarge, harchive⟩
    obtain ⟨report, hreport⟩ := hopens.exists_report
      (encode (run.packingAt made destination small large archive).members)
    simp only [hopens.files_packedAt, hreport]
    split
    · exact .interrupted _ _ hopens
    · exact .finished report _ hopens
  · obtain ⟨cause, hrefused⟩ := exists_of_openForWriting_ne
      (Layout.of destination).entries run.compression
      fun archive opened harchive => hfile ⟨archive, opened, harchive⟩
    rw [packedAt, hrefused]
    exact .archiveRefused cause hfills

/-- A run in a directory ends in one of five ways. -/
theorem Run.ends_generate (run : Run) {fs made : FileSystem} {destination : String}
    (hdirectory : ensureDirectory fs destination = (.ok (), made)) :
    run.Ends made destination (run.generate fs destination) := by
  cases hsmallResult : (writeRandomFile run.source.generator run.source.state made
      (Layout.of destination).small smallSize).result with
  | error e =>
      obtain ⟨path, cause⟩ := e
      obtain ⟨rfl, hfiles⟩ := files_of_writeRandomFile_error hsmallResult
      rw [generate, FixtureKit.generate, hdirectory]
      simp only [hsmallResult, hfiles]
      exact .smallRefused cause
  | ok _ =>
      obtain ⟨small, hsmall⟩ := openForWriting_of_writeRandomFile_ok hsmallResult
      cases hlargeResult : (writeRandomFile run.source.generator run.smallDrawn.2
          (made.put small (.file run.smallDrawn.1)) (Layout.of destination).large
          largeSize).result with
      | error e =>
          obtain ⟨path, cause⟩ := e
          obtain ⟨rfl, hfiles⟩ := files_of_writeRandomFile_error hlargeResult
          rw [generate, FixtureKit.generate, hdirectory]
          simp only [run.writeRandomFile_small hsmall, hlargeResult, hfiles]
          exact .largeRefused cause hsmall
      | ok _ =>
          obtain ⟨large, hlarge⟩ := openForWriting_of_writeRandomFile_ok hlargeResult
          rw [run.generate_of_openForWriting hdirectory hsmall hlarge]
          exact ends_packedAt ⟨hsmall, hlarge⟩

/-- What a path denotes is what it denoted before, and has not changed. -/
def FileSystem.Untouched (before after : FileSystem) (text : String) : Prop :=
  ∀ location, (after.Denotes text location ↔ before.Denotes text location) ∧
    (before.Denotes text location → after.get? location = before.get? location)

/-- Filling a file leaves untouched what is another one. -/
theorem FileSystem.untouched_put {fs : FileSystem} {target : Location} {text : String}
    (hfill : fs.Fillable target) (content : ByteArray) (hother : ¬fs.Denotes text target) :
    fs.Untouched (fs.put target (.file content)) text := by
  refine fun location => ⟨denotes_put_iff hfill content, fun hdenotes => ?_⟩
  rw [hfill.get?_put, if_neg]
  rintro rfl
  exact hother hdenotes

/-- What a run leaves that fails in a directory, when no two artifacts are one file. -/
theorem Run.Ends.files_of_error {run : Run} {made files : FileSystem} {destination : String}
    {e : FixtureError} (h : run.Ends made destination (.error e, files))
    (hapart : Apart made destination) :
    let layout := Layout.of destination
    (∃ cause, e = .fill ⟨layout.small, cause⟩ ∧ files = made) ∨
      (∃ cause, e = .fill ⟨layout.large, cause⟩ ∧
        files.contentOf layout.small = .ok run.smallDrawn.1 ∧
        made.Untouched files layout.archive) ∨
      ∃ cause, e = .archive cause ∧ files.contentOf layout.small = .ok run.smallDrawn.1 ∧
        files.contentOf layout.large = .ok run.largeDrawn.1 := by
  have ⟨hfiles, hsmallArchive, _⟩ := hapart
  cases h with
  | smallRefused cause => exact .inl ⟨cause, rfl, rfl⟩
  | @largeRefused small cause hsmall =>
      have hdenotes := denotes_of_openForWriting hsmall
      have hfill := (find_of_openForWriting hsmall).1
      refine .inr (.inl ⟨cause, rfl, ?_, ?_⟩)
      · exact contentOf_of_openForReading (openForReading_put_of_denotes hfill _ hdenotes)
      · exact untouched_put hfill _ fun harchive => hsmallArchive ⟨small, hdenotes, harchive⟩
  | @archiveRefused small large cause hfills =>
      have hne : small ≠ large := by
        rintro rfl
        exact hfiles ⟨small, hfills.denotes⟩
      exact .inr (.inr ⟨cause, rfl,
        contentOf_of_openForReading (hfills.openForReading_small hne),
        contentOf_of_openForReading hfills.openForReading_large⟩)
  | @interrupted small large archive cause image hopens =>
      obtain ⟨hne, hsmall, hlarge⟩ := hopens.apart_iff.1 hapart
      have hsmallRead := hopens.openForReading_other image (hopens.openForReading_small hne) hsmall
      have hlargeRead := hopens.openForReading_other image hopens.openForReading_large hlarge
      exact .inr (.inr ⟨cause, rfl, contentOf_of_openForReading hsmallRead,
        contentOf_of_openForReading hlargeRead⟩)

/-- Every run ends in one of these ways, or for want of a directory. -/
theorem Run.generate_cases (run : Run) (fs : FileSystem) (destination : String) :
    (∃ cause, run.generate fs destination =
        (.error (.directory cause), (ensureDirectory fs destination).2)) ∨
      run.Ends (ensureDirectory fs destination).2 destination (run.generate fs destination) := by
  cases hdirectory : ensureDirectory fs destination with
  | mk result made =>
      cases result with
      | error cause =>
          rw [generate, generate_of_directory_error hdirectory]
          exact .inl ⟨cause, rfl⟩
      | ok _ => exact .inr (run.ends_generate hdirectory)

/-- **A run that fails stops between two steps.** It never fails for what it reports on, nor with a
mismatch. The first step makes directories at most. When no two artifacts are one file, where
links are followed in the destination as it is after that step, the error tells what is there:
nothing else has been done if the directory or the small file was refused; the small file is
filled and the archive untouched if the large file was refused; and both files are filled if the
archive could not be written. -/
theorem generate_failure {run : Run} {fs files : FileSystem} {destination : String}
    {e : FixtureError} (h : run.generate fs destination = (.error e, files)) :
    let made := (ensureDirectory fs destination).2
    let small := Path.join destination "small"
    let large := Path.join destination "large"
    let archive := Path.join destination "test.zip"
    (∀ path cause, e ≠ .status path cause) ∧ (∀ found, e ≠ .mismatch found) ∧
      (∀ location, made.get? location = fs.get? location ∨
        fs.get? location = none ∧ made.get? location = some .directory) ∧
      run.smallDrawn.1.size = 8 ∧ run.largeDrawn.1.size = 10485760 ∧
      (Apart made destination →
        (∃ cause, e = .directory cause ∧ files = made) ∨
        (∃ cause, e = .fill ⟨small, cause⟩ ∧ files = made) ∨
        (∃ cause, e = .fill ⟨large, cause⟩ ∧ files.contentOf small = .ok run.smallDrawn.1 ∧
          made.Untouched files archive) ∨
        ∃ cause, e = .archive cause ∧ files.contentOf small = .ok run.smallDrawn.1 ∧
          files.contentOf large = .ok run.largeDrawn.1) := by
  intro made small large archive
  have hmade : ∀ location, made.get? location = fs.get? location ∨
      fs.get? location = none ∧ made.get? location = some .directory := by
    intro location
    cases (fs.madeAlong_ensureDirectory destination).changedAt location with
    | kept hsame => exact .inl hsame
    | made _ hvacant hdirectory => exact .inr ⟨hvacant, hdirectory⟩
    | filled hnever => exact hnever.elim
  rcases run.generate_cases fs destination with ⟨cause, hdirectory⟩ | hends
  · cases h.symm.trans hdirectory
    exact ⟨nofun, nofun, hmade, run.size_smallDrawn, run.size_largeDrawn,
      fun _ => .inl ⟨cause, rfl, rfl⟩⟩
  · rw [h] at hends
    have hkind : (∀ path cause, e ≠ .status path cause) ∧ ∀ found, e ≠ .mismatch found := by
      cases hends <;> exact ⟨nofun, nofun⟩
    exact ⟨hkind.1, hkind.2, hmade, run.size_smallDrawn, run.size_largeDrawn,
      fun hapart => .inr (hends.files_of_error hapart)⟩

/-! ### An archive that is refused -/

/-- A destination in which a directory has the name of the archive. -/
def occupiedDestination : FileSystem where
  workingDirectory := ["w"]
  objects := [(["d", "w"], .directory), (["test.zip", "d", "w"], .directory)]

/-- The run ends with the error of the archive, after both files have been filled. -/
theorem generate_failure_occupied :
    let run := constantRun 7 .deflated
    ∃ files, run.generate occupiedDestination "d" =
        (.error (.archive (.file "d/test.zip" .isADirectory)), files) ∧
      Apart occupiedDestination "d" ∧ files.contentOf "d/small" = .ok run.smallDrawn.1 ∧
      files.contentOf "d/large" = .ok run.largeDrawn.1 := by
  intro run
  have hdirectory : ensureDirectory occupiedDestination "d" = (.ok (), occupiedDestination) := rfl
  have hgenerate : run.generate occupiedDestination "d" =
      (.error (.archive (.file "d/test.zip" .isADirectory)),
        run.filledAt occupiedDestination ["small", "d", "w"] ["large", "d", "w"]) := by
    generalize run = any
    have hsmall : occupiedDestination.openForWriting (Layout.of "d").small =
        .ok (.file ["small", "d", "w"], _) := rfl
    have hlarge : (occupiedDestination.put ["small", "d", "w"]
        (.file any.smallDrawn.1)).openForWriting (Layout.of "d").large =
          .ok (.file ["large", "d", "w"], _) := rfl
    have hrefused : (any.filledAt occupiedDestination ["small", "d", "w"]
        ["large", "d", "w"]).openForWriting (Layout.of "d").archive = .error .isADirectory := rfl
    rw [any.generate_of_openForWriting hdirectory hsmall hlarge, Run.packedAt, buildArchive_eq,
      writeArchive_of_error hrefused]
    rfl
  have hapart : Apart occupiedDestination "d" := by
    have hsmall : occupiedDestination.Denotes (Layout.of "d").small ["small", "d", "w"] :=
      ⟨_, rfl, rfl⟩
    have hlarge : occupiedDestination.Denotes (Layout.of "d").large ["large", "d", "w"] :=
      ⟨_, rfl, rfl⟩
    have harchive : occupiedDestination.Denotes (Layout.of "d").archive ["test.zip", "d", "w"] :=
      ⟨_, rfl, rfl⟩
    rw [apart_iff_of_denotes hsmall hlarge harchive]
    decide
  obtain ⟨-, -, -, -, -, hleft⟩ := generate_failure hgenerate
  rcases hleft hapart with ⟨_, hcause, -⟩ | ⟨_, hcause, -⟩ | ⟨_, hcause, -⟩ | ⟨_, -, hkept⟩
  · cases hcause
  · cases hcause
  · cases hcause
  · exact ⟨_, hgenerate, hapart, hkept⟩

end FixtureKit

import FixtureKit.Proofs.Fixtures.Outcomes

/-!
# What a Run Leaves Alone

A run makes directories on the way to its destination and fills the files that the paths of its
artifacts lead to, and that is all. This holds however it ends, and whatever links there are:
which files the paths lead to is asked after the run, when it is the same as it was before they
were filled.

## Main results

* `Run.Ends.changes`: in a directory, nothing but what the three paths denote is filled.
* `changes_generate`: all changes that a run makes.
* `generate_frame`: what was there before, object by object, and what is new.
-/

namespace FixtureKit

open Archive FileSystem

/-- One of the paths of the artifacts leads to a location, where something stands or a file would
be made. -/
def FileSystem.DenotesArtifact (fs : FileSystem) (destination : String) (location : Location) :
    Prop :=
  ∃ name ∈ artifactNames, fs.Denotes (Path.join destination name) location

/-- The file at a location is what one of the paths of the artifacts reads. -/
def FileSystem.HoldsArtifact (fs : FileSystem) (destination : String) (location : Location) :
    Prop :=
  ∃ name ∈ artifactNames, ∃ content,
    fs.openForReading (Path.join destination name) = .ok (location, .file content)

section Steps

variable {run : Run} {made files : FileSystem} {destination : String}
  {result : Except FixtureError Report} {small large : Location}

/-- Filling both files changes nothing else. -/
theorem Run.Fills.changes (h : run.Fills made destination small large) :
    Changes (fun _ => False) (made.DenotesArtifact destination) made
      (run.filledAt made small large) :=
  (changes_put_file h.fillable.1 ⟨smallName, smallName_mem, h.denotes.1⟩ _).trans
    (changes_put_file h.fillable.2 ⟨largeName, largeName_mem, h.denotes.2⟩ _)

/-- Packing them as well changes only the archive besides. -/
theorem Run.Opens.changes {archive : Location}
    (h : run.Opens made destination small large archive) (image : ByteArray) :
    Changes (fun _ => False) (made.DenotesArtifact destination) made
      ((run.filledAt made small large).put archive (.file image)) :=
  h.fills.changes.trans
    (changes_put_file h.fillable.2.2 ⟨archiveName, archiveName_mem, h.denotes.2.2⟩ image)

/-- In a directory, nothing but what the three paths denote is filled. -/
theorem Run.Ends.changes (h : run.Ends made destination (result, files)) :
    Changes (fun _ => False) (made.DenotesArtifact destination) made files := by
  cases h with
  | smallRefused cause => exact Changes.refl made
  | largeRefused cause hsmall =>
      exact changes_put_file (find_of_openForWriting hsmall).1
        ⟨smallName, smallName_mem, denotes_of_openForWriting hsmall⟩ _
  | archiveRefused cause hfills => exact hfills.changes
  | interrupted cause image hopens => exact hopens.changes image
  | finished report image hopens => exact hopens.changes image

/-- However a run ends in a directory, what paths denote is what they denoted before. -/
theorem Run.Ends.denotes_iff (h : run.Ends made destination (result, files)) {text : String}
    {location : Location} : files.Denotes text location ↔ made.Denotes text location := by
  cases h with
  | smallRefused cause => exact Iff.rfl
  | largeRefused cause hsmall => exact denotes_put_iff (find_of_openForWriting hsmall).1 _
  | archiveRefused cause hfills => exact hfills.denotes_filledAt_iff
  | interrupted cause image hopens =>
      exact (denotes_put_iff hopens.fillable.2.2 _).trans hopens.denotes_filledAt_iff
  | finished report image hopens =>
      exact (denotes_put_iff hopens.fillable.2.2 _).trans hopens.denotes_filledAt_iff

/-- What has been filled is an artifact then. -/
theorem Run.Ends.changes_holdsArtifact (h : run.Ends made destination (result, files)) :
    Changes (fun _ => False) (files.HoldsArtifact destination) made files := by
  refine ⟨h.changes.workingDirectory, fun location => ?_⟩
  cases h.changes.changedAt location with
  | kept hsame => exact .kept hsame
  | made hnever => exact hnever.elim
  | filled allowed hfillable content hfile =>
      -- the path denotes the location still, and by now there is a file to be read
      obtain ⟨name, hname, hdenotes⟩ := allowed
      have hread := openForReading_of_denotes (h.denotes_iff.2 hdenotes) hfile
      exact .filled ⟨name, hname, content, hread⟩ hfillable content hfile

end Steps

/-- All changes that a run makes. -/
theorem changes_generate (run : Run) (fs : FileSystem) (destination : String) :
    let files := (run.generate fs destination).2
    Changes (files.OnTheWay (Path.ofText destination)) (files.HoldsArtifact destination)
      fs files := by
  have hmade := fs.madeAlong_ensureDirectory destination
  rcases run.generate_cases fs destination with ⟨cause, hgenerate⟩ | hends
  · rw [hgenerate]
    exact hmade.mono (fun _ h => h) fun _ hnever => hnever.elim
  · -- the directories were on the way when they were made, and still are when files are filled
    have hfilled := Run.Ends.changes_holdsArtifact hends
    exact (hmade.mono (fun _ h => h.after hfilled) fun _ hnever => hnever.elim).trans
      (hfilled.mono (fun _ hnever => hnever.elim) fun _ h => h)

/-- **A run leaves everything else alone**, however it ends. A file that is not an artifact
afterwards keeps its bytes, every file stays a file, and every directory, link and device stays
what it is. What is new is a directory on the way to the destination, or a file that is an
artifact. -/
theorem generate_frame (run : Run) (fs : FileSystem) (destination : String) :
    let files := (run.generate fs destination).2
    files.workingDirectory = fs.workingDirectory ∧
      (∀ location content, fs.get? location = some (.file content) →
        ¬files.HoldsArtifact destination location →
        files.get? location = some (.file content)) ∧
      (∀ location content, fs.get? location = some (.file content) →
        ∃ now, files.get? location = some (.file now)) ∧
      (∀ location object, fs.get? location = some object → (∀ content, object ≠ .file content) →
        files.get? location = some object) ∧
      ∀ location object, fs.get? location = none → files.get? location = some object →
        (object = .directory ∧ files.OnTheWay (Path.ofText destination) location) ∨
          ∃ content, object = .file content ∧ files.HoldsArtifact destination location := by
  intro files
  have hchanges := changes_generate run fs destination
  exact ⟨hchanges.workingDirectory, fun _ _ => hchanges.get?_of_not_fills,
    fun _ _ => hchanges.exists_file, fun _ _ => hchanges.get?_eq_some,
    fun _ _ => hchanges.new_eq⟩

end FixtureKit

import FixtureKit.Archive.Builder
import FixtureKit.Fixtures.Event
import FixtureKit.Fixtures.Report

/-!
# Making Fixtures

Fixtures are made in four steps: the destination is made a directory, the small and then the large
file are filled, and both are packed into the archive. The first step that fails ends the work and
leaves what the steps before it have made.

## Main results

* `generate_of_directory_error` — without a destination directory nothing is drawn or recorded.
-/

namespace FixtureKit

/-- What making fixtures leads to. -/
structure Generated (σ : Type) where
  result : Except FixtureError Report
  files : FileSystem
  /-- The state of the generator afterwards. -/
  state : σ
  /-- The steps that have succeeded, in order. -/
  events : List Event

/-- The events of entries that have been added. -/
def addedEvents (added : List (Entry × Nat)) : List Event :=
  added.map fun (entry, size) => .entryAdded entry.name entry.source size

/-- Packs the files of a layout into its archive; the events so far are given. -/
def packFixtures {σ : Type} (state : σ) (fs : FileSystem) (destination : String)
    (compression : Compression) (events : List Event) : Generated σ :=
  let layout := Layout.of destination
  let written := buildArchive fs layout.archive layout.entries compression
  let events := events ++ addedEvents written.added
  match written.result with
  | .error e => ⟨.error (.archive e), written.files, state, events⟩
  | .ok _ =>
    let events := events ++ [.archiveWritten layout.archive layout.entries.length]
    match written.files.report layout with
    | .error e => ⟨.error e, written.files, state, events⟩
    | .ok report => ⟨.ok report, written.files, state, events ++ [.generated destination]⟩

/-- Makes the fixtures of a destination out of the bytes of a generator. What was there under the
names of the artifacts is replaced. -/
def generate {σ : Type} (generator : Generator σ) (state : σ) (fs : FileSystem)
    (destination : String) (compression : Compression) : Generated σ :=
  let layout := Layout.of destination
  match ensureDirectory fs destination with
  | (.error e, files) => ⟨.error (.directory e), files, state, []⟩
  | (.ok _, files) =>
    let ready := Event.directoryReady destination
    let small := writeRandomFile generator state files layout.small smallSize
    match small.result with
    | .error e => ⟨.error (.fill e), small.files, small.state, [ready]⟩
    | .ok _ =>
      let filledSmall := Event.fileWritten layout.small smallSize
      let large := writeRandomFile generator small.state small.files layout.large largeSize
      match large.result with
      | .error e => ⟨.error (.fill e), large.files, large.state, [ready, filledSmall]⟩
      | .ok _ =>
        packFixtures large.state large.files destination compression
          [ready, filledSmall, .fileWritten layout.large largeSize]

/-- Without a destination directory nothing is drawn or recorded. -/
theorem generate_of_directory_error {σ : Type} {generator : Generator σ} {state : σ}
    {fs files : FileSystem} {destination : String} {compression : Compression} {e : DirectoryError}
    (h : ensureDirectory fs destination = (.error e, files)) :
    generate generator state fs destination compression =
      ⟨.error (.directory e), files, state, []⟩ := by
  rw [generate, h]

end FixtureKit

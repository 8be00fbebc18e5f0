import FixtureKit.FileSystem.Operations
import FixtureKit.Fixtures.Error
import FixtureKit.Fixtures.Layout

/-!
# Reports on Fixtures

A report tells path and size of each artifact. Two reports are alike if their sizes are equal and
their paths name the same steps; how many slashes are written between two steps does not count.
-/

namespace FixtureKit

/-- A file of the fixtures and its size. -/
structure Artifact where
  path : String
  size : Nat
  deriving DecidableEq

namespace Artifact

/-- The line of an artifact in a report. -/
def line (artifact : Artifact) : String :=
  artifact.path ++ " (" ++ toString artifact.size ++ " bytes)\n"

/-- An artifact, described. -/
def description (artifact : Artifact) : String :=
  Text.describe "Artifact"
    [("path", Text.quote artifact.path), ("size", toString artifact.size)]

/-- Whether two artifacts have one size and name the same steps. -/
def alike (a b : Artifact) : Bool :=
  Path.sameSteps a.path b.path && a.size == b.size

end Artifact

/-- The artifacts of a destination. -/
structure Report where
  small : Artifact
  large : Artifact
  archive : Artifact
  deriving DecidableEq

namespace Report

/-- A report as it is printed, with one line for each artifact. -/
def text (report : Report) : String :=
  report.small.line ++ report.large.line ++ report.archive.line

/-- A report, described. -/
def description (report : Report) : String :=
  Text.describe "Report"
    [("small", report.small.description), ("large", report.large.description),
      ("archive", report.archive.description)]

/-- Whether two reports tell the same. -/
def alike (a b : Report) : Bool :=
  a.small.alike b.small && a.large.alike b.large && a.archive.alike b.archive

end Report

/-! ### Looking at the artifacts -/

/-- The artifact at a path. -/
def FileSystem.artifact (fs : FileSystem) (path : String) : Except FixtureError Artifact :=
  match fs.object? path with
  | .error cause => .error (.status path cause)
  | .ok object => .ok ⟨path, object.size⟩

/-- The report on a layout; the artifacts are looked at in order. -/
def FileSystem.report (fs : FileSystem) (layout : Layout) : Except FixtureError Report := do
  let small ← fs.artifact layout.small
  let large ← fs.artifact layout.large
  let archive ← fs.artifact layout.archive
  return ⟨small, large, archive⟩

end FixtureKit

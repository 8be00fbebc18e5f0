import FixtureKit.Archive.Entry
import FixtureKit.FileSystem.Path

/-!
# The Layout of a Destination

A destination directory holds three artifacts: a small file, a large file and an archive of both.
Their names and sizes are fixed; their paths follow from that of the directory.

## Main results

* `names_entries` — the archive calls the two files by their names, the small one first.
-/

namespace FixtureKit

/-- The destination that is taken when none is named. -/
def defaultDestination : String := "assets"

/-- The name of the small file. -/
def smallName : String := "small"

/-- The name of the large file. -/
def largeName : String := "large"

/-- The name of the archive. -/
def archiveName : String := "test.zip"

/-- The size of the small file. -/
def smallSize : Nat := 8

/-- The size of the large file. -/
def largeSize : Nat := 10 * 1024 * 1024

/-- The paths of the artifacts. -/
structure Layout where
  small : String
  large : String
  archive : String
  deriving DecidableEq

namespace Layout

/-- The layout of a destination. -/
def of (destination : String) : Layout where
  small := Path.join destination smallName
  large := Path.join destination largeName
  archive := Path.join destination archiveName

/-- The entries of the archive. -/
def entries (layout : Layout) : List Entry :=
  [⟨layout.small, smallName⟩, ⟨layout.large, largeName⟩]

/-- The layout, described. -/
def description (layout : Layout) : String :=
  Text.describe "Layout"
    [("small", Text.quote layout.small), ("large", Text.quote layout.large),
      ("archive", Text.quote layout.archive)]

/-- The archive calls the two files by their names, the small one first. -/
theorem names_entries (layout : Layout) : layout.entries.map Entry.name = [smallName, largeName] :=
  rfl

end Layout

end FixtureKit

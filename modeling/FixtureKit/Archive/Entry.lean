import FixtureKit.Text.Description

/-!
# Entries

An entry says which file goes into an archive and what it is called there. The name is used as it
is: it need not be the file's own, and it may hold slashes.
-/

namespace FixtureKit

/-- A file on disk and the name it gets in the archive. -/
structure Entry where
  source : String
  name : String
  deriving DecidableEq

/-- An entry, described. -/
def Entry.description (entry : Entry) : String :=
  Text.describe "Entry" [("source", Text.quote entry.source), ("name", Text.quote entry.name)]

end FixtureKit

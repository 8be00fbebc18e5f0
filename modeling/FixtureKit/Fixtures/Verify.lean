import FixtureKit.Archive.Read
import FixtureKit.Fixtures.Report

/-!
# Verifying Fixtures

Fixtures verify if the two files have their sizes, the archive lists exactly the two entries in
order, and each entry holds the bytes of its file. The first of these that fails is the answer.
The sizes that the archive lists are not compared with anything.

## Main results

* `verify_eq_ok` — the answer of a verification that succeeds is the report on the layout.
-/

namespace FixtureKit

/-- Refuses an artifact that has not the size it should have. -/
def expectSize (artifact : Artifact) (expected : Nat) : Except FixtureError Unit :=
  if artifact.size = expected then .ok ()
  else .error (.mismatch (.size artifact.path artifact.size expected))

/-- Refuses an archive that does not list the entries it should, in order. -/
def expectEntries (fs : FileSystem) (archive : String) (expected : List String) :
    Except FixtureError Unit :=
  match listEntries fs archive with
  | .error e => .error (.archive e)
  | .ok listed =>
    let names := listed.map EntryInfo.name
    if names = expected then .ok () else .error (.mismatch (.entries archive names expected))

/-- Refuses an entry that does not hold the bytes of its file. -/
def expectContent (fs : FileSystem) (archive : String) (entry : Entry) :
    Except FixtureError Unit :=
  match fs.contentOf entry.source with
  | .error cause => .error (.status entry.source cause)
  | .ok onDisk =>
    match readEntry fs archive entry.name with
    | .error e => .error (.archive e)
    | .ok content =>
      if content = onDisk then .ok () else .error (.mismatch (.content entry.name entry.source))

/-- Refuses the first of some entries that does not hold the bytes of its file. -/
def expectContents (fs : FileSystem) (archive : String) : List Entry → Except FixtureError Unit
  | [] => .ok ()
  | entry :: rest =>
    match expectContent fs archive entry with
    | .error e => .error e
    | .ok _ => expectContents fs archive rest

/-- Verifies the fixtures of a destination. -/
def verify (fs : FileSystem) (destination : String) : Except FixtureError Report := do
  let layout := Layout.of destination
  let report ← fs.report layout
  expectSize report.small smallSize
  expectSize report.large largeSize
  expectEntries fs layout.archive [smallName, largeName]
  expectContents fs layout.archive layout.entries
  return report

/-- The answer of a verification that succeeds is the report on the layout. -/
theorem verify_eq_ok {fs : FileSystem} {destination : String} {report : Report}
    (h : verify fs destination = .ok report) : fs.report (Layout.of destination) = .ok report := by
  simp only [verify, bind, Except.bind] at h
  split at h
  · cases h
  · next found hfound =>
    repeat (split at h; cases h)
    cases h
    exact hfound

end FixtureKit

/-!
# Events

What happens while fixtures are made and verified, in the order in which it happens. An event is
on record once its step has succeeded; a step that fails is told by its error.
-/

namespace FixtureKit

/-- A step that has been taken. -/
inductive Event
  /-- The destination is a directory. -/
  | directoryReady (path : String)
  | fileWritten (path : String) (size : Nat)
  | entryAdded (name source : String) (size : Nat)
  | archiveWritten (archive : String) (entries : Nat)
  | generated (destination : String)
  | verified (destination : String)
  deriving DecidableEq

end FixtureKit

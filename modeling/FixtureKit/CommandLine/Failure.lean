/-!
# Failures

A failure is told as what was tried and why it failed, from the nearest cause to the farthest. A
single cause stands alone, several are numbered, and every line of a cause starts where its first
one does.
-/

namespace FixtureKit

namespace Failure

/-- A text with some blanks behind every line break. -/
def hung (blanks : String) (text : String) : String :=
  String.join (text.toList.map fun c => if c = '\n' then "\n" ++ blanks else c.toString)

/-- A cause with its number. -/
def numbered (number : Nat) (cause : String) : String :=
  let digits := toString number
  let blanks := String.ofList (List.replicate (5 - digits.length) ' ')
  blanks ++ digits ++ ": " ++ hung "       " cause

/-- Causes with their numbers, the first of which is given. -/
def numberedFrom : Nat → List String → List String
  | _, [] => []
  | number, cause :: rest => numbered number cause :: numberedFrom (number + 1) rest

/-- The paragraph that lists causes. -/
def causeText : List String → String
  | [] => ""
  | [cause] => "\n\nCaused by:\n    " ++ hung "    " cause
  | first :: second :: rest =>
    "\n\nCaused by:\n" ++ "\n".intercalate (numberedFrom 0 (first :: second :: rest))

/-- The text of a failure. -/
def text (attempt : String) (causes : List String) : String :=
  "Error: " ++ attempt ++ causeText causes ++ "\n"

end Failure

end FixtureKit

import FixtureKit.FileSystem.IoError

/-!
# Paths

A path is text in which slashes separate names. It is read as a row of steps from the root or from
the working directory; repeated slashes count once, and a slash at the end is a step of its own,
because it demands that what stands before it is a directory.
-/

namespace FixtureKit

/-- One step of a path. -/
inductive Step
  /-- Go to the object of this name. -/
  | name (name : String)
  /-- Stay, the step written as one dot. -/
  | stay
  /-- Go to the directory above, the step written as two dots. -/
  | up
  /-- Stay, the step that stands for slashes at the end. -/
  | slash
  deriving DecidableEq

/-- A path, read. -/
structure Path where
  /-- Whether the path starts at the root. -/
  absolute : Bool
  /-- The steps, in order. -/
  steps : List Step
  deriving DecidableEq

namespace Path

/-- The pieces between slashes, of which there is one more than there are slashes. -/
def pieces : List Char → List (List Char)
  | [] => [[]]
  | c :: text =>
    if c = '/' then
      [] :: pieces text
    else
      match pieces text with
      | [] => [[c]]
      | piece :: rest => (c :: piece) :: rest

/-- The step that a piece stands for, if the piece is not empty. -/
def stepOfPiece : List Char → Option Step
  | [] => none
  | ['.'] => some .stay
  | ['.', '.'] => some .up
  | piece => some (.name (String.ofList piece))

/-- The steps of a path's text. -/
def stepsOfText (text : List Char) : List Step :=
  let steps := (pieces text).filterMap stepOfPiece
  if steps ≠ [] ∧ text.getLast? = some '/' then steps ++ [.slash] else steps

/-- The path that a text denotes when it is not judged for being too long. -/
def ofText (text : String) : Path :=
  ⟨text.toList.head? = some '/', stepsOfText text.toList⟩

/-- The number of bytes at which a path is too long. -/
def lengthLimit : Nat := 4096

/-- Reads a path; the text may hold no NUL, may not be empty, and stays below the length limit. -/
def parse (text : String) : Except IoError Path :=
  if text.toList.contains '\x00' then
    .error .nulInPath
  else if text.isEmpty then
    .error .notFound
  else if lengthLimit ≤ text.utf8ByteSize then
    .error .nameTooLong
  else
    .ok (ofText text)

/-- The path without the slashes at its end. -/
def trimmed (path : Path) : Path :=
  ⟨path.absolute, path.steps.filter (· ≠ .slash)⟩

/-- Whether the last step, slashes apart, is a name. -/
def endsInName (path : Path) : Bool :=
  match path.trimmed.steps.getLast? with
  | some (.name _) => true
  | _ => false

/-- The steps that count when the directory above is looked for: slashes at the end do not, nor do
single dots, apart from one at the start of a relative path. -/
def significant (path : Path) : List Step :=
  match path.absolute, path.steps with
  | false, .stay :: rest => .stay :: rest.filter fun step => step ≠ .stay ∧ step ≠ .slash
  | _, steps => steps.filter fun step => step ≠ .stay ∧ step ≠ .slash

/-- Whether two texts name the same steps from the same start; steps that do not count may
differ. -/
def sameSteps (a b : String) : Bool :=
  (ofText a).absolute == (ofText b).absolute && (ofText a).significant == (ofText b).significant

/-- Appends a name to the text of a directory's path, with a slash between them unless the
directory's text is empty or ends in one. -/
def join (directory name : String) : String :=
  if directory.isEmpty ∨ directory.toList.getLast? = some '/' then
    directory ++ name
  else
    directory ++ "/" ++ name

/-! ### Names joined by slashes -/

/-- Between slashes there is at least one piece, be it empty. -/
theorem pieces_ne_nil (text : List Char) : pieces text ≠ [] := by
  induction text with
  | nil => simp [pieces]
  | cons c text ih =>
    rw [pieces]
    split
    · simp
    · split <;> simp

/-- A text without slashes is its only piece. -/
theorem pieces_of_no_slash {piece : List Char} (h : '/' ∉ piece) : pieces piece = [piece] := by
  induction piece with
  | nil => rfl
  | cons c piece ih =>
    have hc : c ≠ '/' := fun e => h (by simp [e])
    have hp : '/' ∉ piece := fun e => h (by simp [e])
    simp [pieces, hc, ih hp]

end Path

end FixtureKit

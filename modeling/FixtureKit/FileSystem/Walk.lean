import FixtureKit.FileSystem.Store

/-!
# Walking a Path

A walk takes the steps of a path one by one, follows the links it meets and ends at a place: a
location with its object, or a vacant name in a directory. `advance` goes on as long as no link is
met, by recursion on the steps; `walk` replaces a link by the steps of its target, by recursion on
the number of links that may still be followed.

## Conventions

* A link in the middle of a path is always followed. What happens to one at the end depends on the
  purpose of the walk.
* The error is that of the first step that cannot be taken.

## Main results

* `locate_sound`, `find_sound` — an occupied place holds the object that the walk names, and a
  vacant place is a name that its directory, a real one, does not have.
-/

namespace FixtureKit

/-- What a walk is for. -/
inductive Purpose
  /-- The object that the path denotes: a link at the end is followed. -/
  | use
  /-- A file to be opened or made: a link at the end is followed, and a name that a slash follows is
  refused, because a file has no slash after its name. -/
  | create
  /-- The entry in the directory: a link at the end is the result. -/
  | entry
  deriving DecidableEq

/-- Where a walk can end. -/
inductive Place
  /-- An object at its location. -/
  | occupied (location : Location) (object : Object)
  /-- A name that a directory does not have. -/
  | vacant (directory : Location) (name : String)
  deriving DecidableEq

/-- Where a walk stops that follows no link. -/
inductive Stop
  /-- The walk is over. -/
  | finished (result : Except IoError Place)
  /-- A link, the directory it is in, and the steps behind it. -/
  | atLink (directory : Location) (target : String) (rest : List Step)

namespace FileSystem

/-- The longest name of an object, in bytes. -/
def nameLimit : Nat := 255

/-- The number of links that one walk may follow. -/
def linkLimit : Nat := 40

/-- Takes steps from a directory until a link has to be followed. -/
def advance (fs : FileSystem) (purpose : Purpose) : Location → List Step → Stop
  | here, [] => .finished (.ok (.occupied here .directory))
  | here, .stay :: rest => advance fs purpose here rest
  | here, .slash :: rest => advance fs purpose here rest
  | here, .up :: rest => advance fs purpose here.tail rest
  | here, .name name :: rest =>
    if purpose = .create ∧ rest = [.slash] then
      .finished (.error .isADirectory)
    else if nameLimit < name.utf8ByteSize then
      .finished (.error .nameTooLong)
    else
      match fs.get? (name :: here) with
      | none =>
        .finished (if rest.isEmpty then .ok (.vacant here name) else .error .notFound)
      | some .directory => advance fs purpose (name :: here) rest
      | some (.link target) =>
        if rest.isEmpty ∧ purpose = .entry then
          .finished (.ok (.occupied (name :: here) (.link target)))
        else
          .atLink here target rest
      | some object =>
        .finished
          (if rest.isEmpty then .ok (.occupied (name :: here) object) else .error .notADirectory)

/-- The directory at which a path starts that is found in the directory `here`. -/
def startOf (path : Path) (here : Location) : Location :=
  if path.absolute then [] else here

/-- Takes all steps, with at most `links` links followed. -/
def walk (fs : FileSystem) (purpose : Purpose) :
    (links : Nat) → Location → List Step → Except IoError Place
  | 0, here, steps =>
    match fs.advance purpose here steps with
    | .finished result => result
    | .atLink _ _ _ => .error .tooManyLinks
  | links + 1, here, steps =>
    match fs.advance purpose here steps with
    | .finished result => result
    | .atLink directory target rest =>
      let path := Path.ofText target
      walk fs purpose links (startOf path directory) (path.steps ++ rest)

/-- The place that a path leads to. -/
def locate (fs : FileSystem) (purpose : Purpose) (path : Path) : Except IoError Place :=
  fs.walk purpose linkLimit (startOf path fs.workingDirectory) path.steps

/-- The place that the text of a path leads to. -/
def find (fs : FileSystem) (purpose : Purpose) (text : String) : Except IoError Place :=
  match Path.parse text with
  | .error e => .error e
  | .ok path => fs.locate purpose path

/-! ### Where a walk can end -/

/-- A location that is a directory, as are all above it. -/
def Standing (fs : FileSystem) (location : Location) : Prop :=
  ∀ above, above <:+ location → fs.get? above = some .directory

/-- The directories above the working directory stand: each of them is found, and so is all that is
above it. -/
theorem standing_of_isAncestor {fs : FileSystem} {location : Location}
    (h : fs.isAncestor location = true) : fs.Standing location := by
  intro above hsuffix
  have hancestor : fs.isAncestor above = true := by
    rw [isAncestor, List.isSuffixOf_iff_suffix] at h ⊢
    exact hsuffix.trans h
  simp [get?, hancestor]

/-- The root stands. -/
theorem standing_root (fs : FileSystem) : fs.Standing [] :=
  standing_of_isAncestor (by simp [isAncestor])

/-- The working directory stands, so a walk can start in it. -/
theorem standing_workingDirectory (fs : FileSystem) : fs.Standing fs.workingDirectory :=
  standing_of_isAncestor (by simp [isAncestor])

/-- Where a directory stands there is a directory. -/
theorem Standing.get? {fs : FileSystem} {location : Location} (h : fs.Standing location) :
    fs.get? location = some .directory :=
  h location (List.suffix_refl _)

/-- What is above a standing directory stands, so a step up leads to a standing directory. -/
theorem Standing.tail {fs : FileSystem} {location : Location} (h : fs.Standing location) :
    fs.Standing location.tail :=
  fun above hsuffix => h above (hsuffix.trans (List.tail_suffix _))

/-- A directory inside a standing one stands. -/
theorem Standing.cons {fs : FileSystem} {location : Location} {name : String}
    (h : fs.Standing location) (hname : fs.get? (name :: location) = some .directory) :
    fs.Standing (name :: location) := by
  intro above hsuffix
  rcases List.suffix_cons_iff.1 hsuffix with rfl | hsuffix
  · exact hname
  · exact h above hsuffix

/-- A walk starts in a standing directory, be it at the root or in the directory it is told. -/
theorem Standing.startOf {fs : FileSystem} {location : Location} (path : Path)
    (h : fs.Standing location) : fs.Standing (startOf path location) := by
  unfold FileSystem.startOf
  split
  · exact standing_root fs
  · exact h

/-- What a finished walk may claim about the place it ends at. -/
def Place.Sound (fs : FileSystem) : Place → Prop
  | .occupied location object =>
    fs.get? location = some object ∧ (object = .directory → fs.Standing location)
  | .vacant directory name => fs.Standing directory ∧ fs.get? (name :: directory) = none

/-- What a walk that follows no link may claim about where it stops. -/
def Stop.Sound (fs : FileSystem) : Stop → Prop
  | .finished (.ok place) => Place.Sound fs place
  | .finished (.error _) => True
  | .atLink directory _ _ => fs.Standing directory

/-- From a standing directory the steps up to the first link lead to where the files say: to a
place in a standing directory, or to a link that is in one. -/
theorem advance_sound (fs : FileSystem) (purpose : Purpose) (here : Location) (steps : List Step)
    (h : fs.Standing here) : Stop.Sound fs (fs.advance purpose here steps) := by
  fun_induction advance fs purpose here steps with
  | case1 here => exact ⟨h.get?, fun _ => h⟩
  | case2 here rest ih => exact ih h
  | case3 here rest ih => exact ih h
  | case4 here rest ih => exact ih h.tail
  | case5 => trivial
  | case6 => trivial
  | case7 here name rest _ _ hget =>
    split
    · exact ⟨h, hget⟩
    · trivial
  | case8 here name rest _ _ hget ih => exact ih (h.cons hget)
  | case9 here name rest _ _ target hget => exact ⟨hget, by simp⟩
  | case10 => exact h
  | case11 here name rest _ _ object hdirectory _ hget =>
    split
    · exact ⟨hget, fun e => absurd e (by simpa using hdirectory)⟩
    · trivial

/-- A walk that starts in a standing directory, through however many links, ends at a place that
the files bear out. -/
theorem walk_sound {fs : FileSystem} {purpose : Purpose} {links : Nat} {here : Location}
    {steps : List Step} {place : Place} (h : fs.Standing here)
    (hwalk : fs.walk purpose links here steps = .ok place) : Place.Sound fs place := by
  induction links generalizing here steps with
  | zero =>
    have sound := fs.advance_sound purpose here steps h
    rw [walk] at hwalk
    split at hwalk
    · next result hstop => rw [hstop, hwalk] at sound; exact sound
    · cases hwalk
  | succ links ih =>
    have sound := fs.advance_sound purpose here steps h
    rw [walk] at hwalk
    split at hwalk
    · next result hstop => rw [hstop, hwalk] at sound; exact sound
    · next directory target rest hstop =>
      rw [hstop] at sound
      exact ih (Standing.startOf _ sound) hwalk

/-- A located place holds what the walk says. -/
theorem locate_sound {fs : FileSystem} {purpose : Purpose} {path : Path} {place : Place}
    (h : fs.locate purpose path = .ok place) : Place.Sound fs place :=
  walk_sound (Standing.startOf path fs.standing_workingDirectory) h

/-- A place found by a text holds what the walk says. -/
theorem find_sound {fs : FileSystem} {purpose : Purpose} {text : String} {place : Place}
    (h : fs.find purpose text = .ok place) : Place.Sound fs place := by
  rw [find] at h
  split at h
  · cases h
  · exact locate_sound h

end FileSystem

end FixtureKit

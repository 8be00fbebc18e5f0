import FixtureKit.Proofs.FileSystem.Ensured
import FixtureKit.Proofs.FileSystem.Names
import FixtureKit.Proofs.FileSystem.Tree

/-!
# Which Directories Are Made

A path of ordinary names, in a tree without links, passes through its prefixes one below the other.
To make sure of its directory is to make those prefixes that are missing. The attempt on the whole
path fails as long as the directory above is missing; then the same is done for the path without
its last name, and tried again. If something that is no directory stands at one of the prefixes,
already the first attempt finds it, and nothing is made at all.

## Main results

* `makeAbove_names`: if nothing is in the way, all prefixes are directories afterwards, and the
  rest is as before.
* `ensureDirectory_of_free`, `ensureDirectory_of_object`: the two ways to end.
* `ensureDirectory_makes_missing`: what making sure of a directory does to a tree without links.
-/

namespace FixtureKit

open FileSystem

namespace FileSystem

variable {fs made : FileSystem} {names front : List String} {name : String}

/-- Nothing but directories stands at the prefixes of some names. -/
def Free (fs : FileSystem) (names : List String) : Prop :=
  ∀ front, front <+: names → ∀ object,
    fs.get? (below fs.workingDirectory front) = some object → object = .directory

/-- What is free is so up to any of its names. -/
theorem Free.of_prefix (h : fs.Free names) (hfront : front <+: names) : fs.Free front :=
  fun other hother => h other (hother.trans hfront)

/-- All prefixes of some names are directories now, and the rest is as before. -/
structure HasMade (fs : FileSystem) (names : List String) (made : FileSystem) : Prop where
  workingDirectory : made.workingDirectory = fs.workingDirectory
  directory : ∀ front, front <+: names →
    made.get? (below fs.workingDirectory front) = some .directory
  kept : ∀ location, (∀ front, front <+: names → location ≠ below fs.workingDirectory front) →
    made.get? location = fs.get? location

/-- Where there are directories already, nothing has to be made. -/
theorem hasMade_of_standing (h : fs.Standing (below fs.workingDirectory names)) :
    HasMade fs names fs where
  workingDirectory := rfl
  directory := fun _ hfront => h.get?_below hfront
  kept := fun _ _ => rfl

/-- Directories that have been made up to the last name stand. -/
theorem HasMade.standing (h : HasMade fs names made) :
    made.Standing (below made.workingDirectory names) := by
  refine standing_below made.standing_workingDirectory fun front hfront => ?_
  rw [h.workingDirectory]
  exact h.directory front hfront

/-- A name that has been missing is still missing when those before it have been made. -/
theorem HasMade.vacant (h : HasMade fs names made)
    (hvacant : fs.get? (name :: below fs.workingDirectory names) = none) :
    made.get? (name :: below made.workingDirectory names) = none := by
  rw [h.workingDirectory, h.kept _ fun front hfront heq => ?_, hvacant]
  rw [← below_concat] at heq
  obtain rfl := below_injective _ heq
  exact absurd hfront.length_le (by simp)

/-- One more directory below those that have been made. -/
theorem HasMade.concat (h : HasMade fs names made)
    (hvacant : fs.get? (name :: below fs.workingDirectory names) = none) :
    HasMade fs (names ++ [name])
      (made.put (name :: below made.workingDirectory names) .directory) := by
  have hfill : made.Fillable (name :: below made.workingDirectory names) := .inl (h.vacant hvacant)
  rw [h.workingDirectory] at hfill ⊢
  refine ⟨h.workingDirectory, fun front hfront => ?_, fun location hlocation => ?_⟩
  · rw [hfill.get?_put]
    split
    · rfl
    · next hne =>
        rcases List.prefix_concat_iff.1 hfront with rfl | hfront
        · exact absurd (below_concat _ _ _) hne
        · exact h.directory front hfront
  · have hne := hlocation (names ++ [name]) (List.prefix_refl _)
    rw [below_concat] at hne
    rw [hfill.get?_put, if_neg hne]
    exact h.kept location fun front hfront =>
      hlocation front (hfront.trans (List.prefix_append _ _))

/-! ### Making one directory -/

/-- Where a directory stands none can be made. -/
theorem makeDirectory_of_standing (hnames : ∀ name ∈ names, Path.IsOrdinary name)
    (h : fs.Standing (below fs.workingDirectory names)) :
    fs.makeDirectory (.ofNames names) = .error .alreadyExists := by
  rw [makeDirectory, Path.trimmed_ofNames, locate_of_standing (by decide) hnames h]

/-- Where a directory stands its names lead to one. -/
theorem isDirectory_of_standing (hnames : ∀ name ∈ names, Path.IsOrdinary name)
    (h : fs.Standing (below fs.workingDirectory names)) :
    fs.isDirectory (.ofNames names) = true :=
  isDirectory_iff.2 ⟨_, locate_of_standing (by decide) hnames h⟩

/-- Where nothing stands inside of a standing directory, a directory can be made, and nothing else
changes. -/
theorem makeDirectory_of_vacant (hnames : ∀ other ∈ front ++ [name], Path.IsOrdinary other)
    (h : fs.Standing (below fs.workingDirectory front))
    (hvacant : fs.get? (name :: below fs.workingDirectory front) = none) :
    fs.makeDirectory (.ofNames (front ++ [name])) =
      .ok (fs.put (name :: below fs.workingDirectory front) .directory) := by
  rw [makeDirectory, Path.trimmed_ofNames, locate_of_vacant (by decide) hnames h hvacant,
    if_pos rfl]

/-- In a tree a prefix that leads to no directory has a first one at which nothing stands. -/
theorem Free.exists_vacant (h : fs.Free names)
    (hstanding : ¬fs.Standing (below fs.workingDirectory names)) :
    ∃ front name more, names = front ++ name :: more ∧
      fs.Standing (below fs.workingDirectory front) ∧
      fs.get? (name :: below fs.workingDirectory front) = none := by
  obtain ⟨front, name, more, rfl, hfront, hname⟩ :=
    (standing_below_or_exists fs.standing_workingDirectory names).resolve_left hstanding
  refine ⟨front, name, more, rfl, hfront, ?_⟩
  cases hobject : fs.get? (name :: below fs.workingDirectory front) with
  | none => rfl
  | some object =>
      rw [← below_concat] at hobject hname
      have hprefix : front ++ [name] <+: front ++ name :: more := ⟨more, by simp⟩
      rw [hobject, h _ hprefix object hobject] at hname
      exact absurd rfl hname

/-- Where a directory further up is missing, none can be made yet. Nothing else can be in the way,
as the names are free. -/
theorem makeDirectory_of_missing (hnames : ∀ other ∈ front ++ [name], Path.IsOrdinary other)
    (hfree : fs.Free front) (h : ¬fs.Standing (below fs.workingDirectory front)) :
    fs.makeDirectory (.ofNames (front ++ [name])) = .error .notFound := by
  obtain ⟨first, missing, more, rfl, hfirst, hvacant⟩ := hfree.exists_vacant h
  rw [List.append_assoc, List.cons_append] at hnames ⊢
  rw [makeDirectory, Path.trimmed_ofNames, locate_of_vacant (by decide) hnames hfirst hvacant,
    if_neg (by simp)]

/-! ### Making all that are missing -/

/-- Where nothing is in the way, all prefixes are directories afterwards, and the rest is as before.
The induction takes the last name away, as the attempts do. -/
theorem makeAbove_names {reversed : List String} (htree : fs.IsTree)
    (hnames : ∀ name ∈ reversed.reverse, Path.IsOrdinary name)
    (hfree : fs.Free reversed.reverse) :
    ∃ made, makeAbove false (reversed.map .name) fs = (.ok (), made) ∧
      HasMade fs reversed.reverse made := by
  induction reversed with
  | nil => exact ⟨fs, rfl, hasMade_of_standing fs.standing_workingDirectory⟩
  | cons name rest ih =>
      rw [List.reverse_cons] at hnames hfree ⊢
      have hpath : (⟨false, (.name name :: rest.map .name).reverse⟩ : Path) =
          .ofNames (rest.reverse ++ [name]) := by simp [Path.ofNames]
      have hrest : rest.reverse <+: rest.reverse ++ [name] := List.prefix_append _ _
      rw [List.map_cons, makeAbove, hpath, makeDirectoryVia]
      by_cases hstanding : fs.Standing (below fs.workingDirectory (rest.reverse ++ [name]))
      · rw [makeDirectory_of_standing hnames hstanding]
        simp only [isDirectory_of_standing hnames hstanding, if_true]
        exact ⟨fs, rfl, hasMade_of_standing hstanding⟩
      · have hvacant : fs.get? (name :: below fs.workingDirectory rest.reverse) = none := by
          cases hobject : fs.get? (name :: below fs.workingDirectory rest.reverse) with
          | none => rfl
          | some object =>
              have hfront := htree.standing hobject
              rw [← below_concat] at hobject
              obtain rfl := hfree _ (List.prefix_refl _) object hobject
              rw [below_concat] at hobject hstanding
              exact absurd (hfront.cons hobject) hstanding
        by_cases hfront : fs.Standing (below fs.workingDirectory rest.reverse)
        · rw [makeDirectory_of_vacant hnames hfront hvacant]
          exact ⟨_, rfl, (hasMade_of_standing hfront).concat hvacant⟩
        · obtain ⟨made, hmade, habove⟩ :=
            ih (fun other hmem => hnames other (List.mem_append_left _ hmem))
              (hfree.of_prefix hrest)
          rw [makeDirectory_of_missing hnames (hfree.of_prefix hrest) hfront, hmade]
          simp only
          rw [makeDirectory_of_vacant hnames habove.standing (habove.vacant hvacant)]
          exact ⟨_, rfl, habove.concat hvacant⟩

/-- All steps of a path of names count. -/
theorem significant_ofNames (names : List String) :
    (Path.ofNames names).significant = names.map .name := by
  have hname : ∀ step ∈ names.map Step.name,
      decide (step ≠ .stay ∧ step ≠ .slash) = true := by simp
  cases names with
  | nil => rfl
  | cons name rest => exact List.filter_eq_self.2 hname

/-- To make the directory of a text is to make the directories of its names. -/
theorem makeDirectories_intercalate (fs : FileSystem) (hnonempty : names ≠ [])
    (hnames : ∀ name ∈ names, Path.IsOrdinary name)
    (hlength : ("/".intercalate names).utf8ByteSize < Path.lengthLimit) :
    fs.makeDirectories ("/".intercalate names) =
      makeAbove false (names.reverse.map .name) fs := by
  rw [makeDirectories, Path.isEmpty_intercalate hnonempty hnames, if_neg Bool.false_ne_true,
    Path.parse_intercalate hnonempty hnames hlength]
  simp only
  rw [significant_ofNames, ← List.map_reverse, ← List.map_tail]
  obtain ⟨last, rest, hreverse⟩ := List.exists_cons_of_ne_nil (List.reverse_ne_nil_iff.2 hnonempty)
  have hsteps : names.map Step.name = (.name last :: rest.map .name).reverse := by
    rw [← List.map_cons, ← hreverse, List.map_reverse, List.reverse_reverse]
  rw [hreverse, List.tail_cons, List.map_cons, makeAbove, ← hsteps, Path.ofNames]

end FileSystem

/-! ### Making sure of a directory -/

variable {fs : FileSystem} {names front more : List String} {name : String}

/-- A text of ordinary names with slashes between them leads where the names do. -/
theorem find_intercalate (fs : FileSystem) (hnonempty : names ≠ [])
    (hnames : ∀ name ∈ names, Path.IsOrdinary name)
    (hlength : ("/".intercalate names).utf8ByteSize < Path.lengthLimit) (purpose : Purpose) :
    fs.find purpose ("/".intercalate names) = fs.locate purpose (.ofNames names) := by
  rw [find, Path.parse_intercalate hnonempty hnames hlength]

/-- Where nothing is in the way, the directories are made that are missing. -/
theorem ensureDirectory_of_free (htree : fs.IsTree) (hnonempty : names ≠ [])
    (hnames : ∀ name ∈ names, Path.IsOrdinary name)
    (hlength : ("/".intercalate names).utf8ByteSize < Path.lengthLimit) (hfree : fs.Free names) :
    ∃ made, ensureDirectory fs ("/".intercalate names) = (.ok (), made) ∧
      HasMade fs names made := by
  have hblocked : fs.isBlocked ("/".intercalate names) = false := by
    rw [Bool.eq_false_iff]
    intro hblocked
    obtain ⟨location, object, hfind, hobject⟩ := isBlocked_iff.1 hblocked
    rw [find_intercalate fs hnonempty hnames hlength] at hfind
    by_cases hstanding : fs.Standing (below fs.workingDirectory names)
    · rw [locate_of_standing (by decide) hnames hstanding] at hfind
      cases hfind
      exact hobject rfl
    · obtain ⟨front, name, more, rfl, hfront, hvacant⟩ := hfree.exists_vacant hstanding
      rw [locate_of_vacant (by decide) hnames hfront hvacant] at hfind
      split at hfind <;> cases hfind
  have hmake := makeDirectories_intercalate fs hnonempty hnames hlength
  rw [← List.reverse_reverse names] at hnames hfree
  obtain ⟨made, hmade, hhas⟩ := makeAbove_names htree hnames hfree
  rw [List.reverse_reverse] at hhas
  refine ⟨made, ?_, hhas⟩
  rw [ensureDirectory, hblocked, hmake, hmade]
  rfl

/-- Where something is in the way, nothing is made. -/
theorem ensureDirectory_of_object {object : Object}
    (hnames : ∀ other ∈ front ++ name :: more, Path.IsOrdinary other)
    (hlength : ("/".intercalate (front ++ name :: more)).utf8ByteSize < Path.lengthLimit)
    (hfront : fs.Standing (below fs.workingDirectory front))
    (hobject : fs.get? (name :: below fs.workingDirectory front) = some object)
    (hdirectory : object ≠ .directory) (hlink : ∀ target, object ≠ .link target) :
    ensureDirectory fs ("/".intercalate (front ++ name :: more)) =
      (.error (if more = [] then .notADirectory ("/".intercalate (front ++ name :: more))
        else .cannotCreate ("/".intercalate (front ++ name :: more)) .notADirectory), fs) := by
  have hnonempty : front ++ name :: more ≠ [] := by simp
  have hlocate {purpose : Purpose} (hpurpose : purpose ≠ .create) :=
    locate_of_object hpurpose hnames hfront hobject hdirectory hlink
  have hfind := find_intercalate fs hnonempty hnames hlength .use
  rw [hlocate (by decide)] at hfind
  split
  · next hlast =>
      rw [if_pos hlast] at hfind
      exact ensureDirectory_of_blocked (isBlocked_iff.2 ⟨_, object, hfind, hdirectory⟩)
  · next hmore =>
      rw [if_neg hmore] at hfind
      have hblocked : fs.isBlocked ("/".intercalate (front ++ name :: more)) = false := by
        rw [isBlocked, object?, openForReading, hfind]
        rfl
      have hthere : fs.isDirectory (.ofNames (front ++ name :: more)) = false := by
        rw [isDirectory, hlocate (by decide), if_neg hmore]
      have hmake : fs.makeDirectory (.ofNames (front ++ name :: more)) = .error .notADirectory := by
        rw [makeDirectory, Path.trimmed_ofNames, hlocate (by decide), if_neg hmore]
      have hfailed : fs.makeDirectories ("/".intercalate (front ++ name :: more)) =
          (.error .notADirectory, fs) := by
        rw [makeDirectories, Path.isEmpty_intercalate hnonempty hnames,
          if_neg Bool.false_ne_true, Path.parse_intercalate hnonempty hnames hlength]
        simp [makeDirectoryVia, hmake, hthere]
      rw [ensureDirectory, hblocked, hfailed]
      rfl

/-- What is in the way at a prefix is in the way, and nothing is made. -/
theorem ensureDirectory_of_not_directory (htree : fs.IsTree) (hlinks : fs.Unlinked)
    (hnames : ∀ name ∈ names, Path.IsOrdinary name)
    (hlength : ("/".intercalate names).utf8ByteSize < Path.lengthLimit)
    (hfront : front <+: names) {object : Object}
    (hobject : fs.get? (below fs.workingDirectory front) = some object)
    (hdirectory : object ≠ .directory) :
    ensureDirectory fs ("/".intercalate names) =
      (.error (if front = names then .notADirectory ("/".intercalate names)
        else .cannotCreate ("/".intercalate names) .notADirectory), fs) := by
  rcases List.eq_nil_or_concat front with rfl | ⟨above, name, rfl⟩
  · rw [below_nil, fs.standing_workingDirectory.get?] at hobject
    exact absurd (Option.some.inj hobject).symm hdirectory
  · obtain ⟨more, rfl⟩ := hfront
    have hrow : above.concat name ++ more = above ++ name :: more := by simp
    have hwhole : above.concat name = above ++ name :: more ↔ more = [] := by simp
    have hlink : ∀ target, object ≠ .link target := by
      rintro target rfl
      exact hlinks _ target hobject
    rw [List.concat_eq_append, below_concat] at hobject
    rw [hrow] at hnames hlength ⊢
    simp only [hwhole]
    exact ensureDirectory_of_object hnames hlength (htree.standing hobject) hobject hdirectory hlink

/-- **Making sure of a directory makes exactly the prefixes that are missing**, along a path of
ordinary names in a tree without links. It succeeds if and only if nothing but directories stands
at the prefixes. Then all of them are directories, those among them that are new hold nothing but
the next one, and all the rest is as before. If something else stands at one of them, nothing
changes: if it stands at the whole path, that is refused as no directory, and if it stands further
up, the whole path cannot be made because of it. -/
theorem ensureDirectory_makes_missing (htree : fs.IsTree) (hlinks : fs.Unlinked)
    (hnonempty : names ≠ []) (hnames : ∀ name ∈ names, Path.IsOrdinary name)
    (hlength : ("/".intercalate names).utf8ByteSize < Path.lengthLimit) :
    let text := "/".intercalate names
    let result := (ensureDirectory fs text).1
    let made := (ensureDirectory fs text).2
    (result = .ok () ↔ fs.Free names) ∧
      (result = .ok () → fs.HasMade names made ∧ made.IsTree) ∧
      ∀ front, front <+: names → ∀ object,
        fs.get? (below fs.workingDirectory front) = some object → object ≠ .directory →
        made = fs ∧ result = .error (if front = names then .notADirectory text
          else .cannotCreate text .notADirectory) := by
  intro text result made
  have hok : result = .ok () ↔ fs.Free names := by
    constructor
    · intro hok front hfront object hobject
      refine Decidable.byContradiction fun hdirectory => ?_
      have hrefused := ensureDirectory_of_not_directory htree hlinks hnames hlength hfront hobject
        hdirectory
      cases hok.symm.trans (congrArg Prod.fst hrefused)
    · intro hfree
      obtain ⟨after, hmade, -⟩ := ensureDirectory_of_free htree hnonempty hnames hlength hfree
      exact congrArg Prod.fst hmade
  refine ⟨hok, ?_, ?_⟩
  · intro hdone
    obtain ⟨after, hmade, hhas⟩ :=
      ensureDirectory_of_free htree hnonempty hnames hlength (hok.1 hdone)
    obtain rfl : made = after := congrArg Prod.snd hmade
    exact ⟨hhas, htree.ensureDirectory text⟩
  · intro front hfront object hobject hdirectory
    have hrefused := ensureDirectory_of_not_directory htree hlinks hnames hlength hfront hobject
      hdirectory
    exact ⟨congrArg Prod.snd hrefused, congrArg Prod.fst hrefused⟩

/-! ### A branch with a file on it

Of the path to the left two prefixes are missing; the paths to the right run into the file. -/

/-- A working directory with a directory, and a file in that. -/
def branchingPaths : FileSystem where
  workingDirectory := ["w"]
  objects := [(["a", "w"], .directory), (["f", "a", "w"], .file ⟨#[1, 2, 3]⟩)]

/-- The two missing directories to the left are made next to the file. Both paths to the right are
refused, each with its own error, and nothing is changed. -/
theorem ensureDirectory_makes_missing_branching :
    let left := (ensureDirectory branchingPaths "a/b/c").2
    (ensureDirectory branchingPaths "a/b/c").1 = .ok () ∧
      branchingPaths.get? ["b", "a", "w"] = none ∧
      left.get? ["c", "b", "a", "w"] = some .directory ∧
      left.get? ["f", "a", "w"] = some (.file ⟨#[1, 2, 3]⟩) ∧
      ensureDirectory branchingPaths "a/f" = (.error (.notADirectory "a/f"), branchingPaths) ∧
      ensureDirectory branchingPaths "a/f/g" =
        (.error (.cannotCreate "a/f/g" .notADirectory), branchingPaths) := by
  have htree : branchingPaths.IsTree := isTree_of_objects (by decide)
  have hlinks : branchingPaths.Unlinked := unlinked_of_objects (by simp [branchingPaths])
  have hfile : branchingPaths.get? ["f", "a", "w"] = some (.file ⟨#[1, 2, 3]⟩) := rfl
  obtain ⟨-, hmade, -⟩ := ensureDirectory_makes_missing htree hlinks
    (List.cons_ne_nil "a" ["b", "c"]) (by decide +kernel) (by decide +kernel)
  obtain ⟨-, -, hwhole⟩ := ensureDirectory_makes_missing htree hlinks
    (List.cons_ne_nil "a" ["f"]) (by decide +kernel) (by decide +kernel)
  obtain ⟨-, -, habove⟩ := ensureDirectory_makes_missing htree hlinks
    (List.cons_ne_nil "a" ["f", "g"]) (by decide +kernel) (by decide +kernel)
  have hok : (ensureDirectory branchingPaths "a/b/c").1 = .ok () := rfl
  obtain ⟨hhas, -⟩ := hmade hok
  obtain ⟨hsame, hrefused⟩ := hwhole ["a", "f"] (List.prefix_refl _) _ hfile (by decide)
  obtain ⟨hunchanged, hfailed⟩ := habove ["a", "f"] ⟨["g"], rfl⟩ _ hfile (by decide)
  refine ⟨hok, rfl, hhas.directory ["a", "b", "c"] (List.prefix_refl _), ?_,
    Prod.ext hrefused hsame, Prod.ext hfailed hunchanged⟩
  refine (hhas.kept ["f", "a", "w"] fun front hfront heq => ?_).trans hfile
  obtain rfl : ["a", "f"] = front := below_injective ["w"] heq
  exact absurd hfront (by decide)

end FixtureKit

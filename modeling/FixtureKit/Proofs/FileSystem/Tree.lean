import FixtureKit.Directory
import FixtureKit.Proofs.FileSystem.Filling

/-!
# File Systems That Are Trees

A store could hold an object at any location. What can come about from directories that are made
and files that are put into them is a tree: above every object there is a directory. Making sure of
a directory keeps it so, along any path and however it ends.

## Main results

* `IsTree.standing`: above an object there are directories up to the root.
* `IsTree.put`: what is put into a directory, in place of no other directory, keeps the tree.
* `IsTree.ensureDirectory`: making sure of a directory keeps the tree.
-/

namespace FixtureKit

namespace FileSystem

variable {fs made : FileSystem} {location : Location}

/-- A file system in which there is a directory above every object. -/
def IsTree (fs : FileSystem) : Prop :=
  ∀ name location object, fs.get? (name :: location) = some object →
    fs.get? location = some .directory

/-- A file system without links. -/
def Unlinked (fs : FileSystem) : Prop :=
  ∀ location target, fs.get? location ≠ some (.link target)

/-- An object is either on the way to the working directory, or it is one of those held. -/
theorem mem_objects_of_get? {object : Object} (h : fs.get? location = some object) :
    fs.isAncestor location = true ∧ object = .directory ∨ (location, object) ∈ fs.objects := by
  rw [get?] at h
  split at h
  · next hancestor => exact .inl ⟨hancestor, (Option.some.inj h).symm⟩
  · obtain ⟨before, after, hobjects, -⟩ := List.lookup_eq_some_iff.1 h
    right
    rw [hobjects]
    simp

/-- A file system is a tree if there is a directory above every object it holds. -/
theorem isTree_of_objects
    (h : ∀ entry ∈ fs.objects, fs.get? entry.1.tail = some .directory) : fs.IsTree := by
  intro name location object hget
  rcases mem_objects_of_get? hget with ⟨hancestor, -⟩ | hmem
  · exact standing_of_isAncestor hancestor location (List.suffix_cons _ _)
  · exact h _ hmem

/-- A file system is without links if it holds none. -/
theorem unlinked_of_objects (h : ∀ entry ∈ fs.objects, ∀ target, entry.2 ≠ .link target) :
    fs.Unlinked := by
  intro location target hget
  rcases mem_objects_of_get? hget with ⟨-, hdirectory⟩ | hmem
  · cases hdirectory
  · exact h _ hmem target rfl

/-! ### Above an object -/

/-- Above an object there are directories up to the root. -/
theorem IsTree.standing (h : fs.IsTree) {name : String} {object : Object}
    (hget : fs.get? (name :: location) = some object) : fs.Standing location := by
  induction location generalizing name object with
  | nil => exact standing_root fs
  | cons above location ih =>
      have habove := h name (above :: location) object hget
      exact (ih habove).cons habove

/-- What is put into a directory, in place of no other directory, keeps the tree. -/
theorem IsTree.put (h : fs.IsTree) {name : String} {object : Object}
    (habove : fs.get? location = some .directory)
    (hfree : fs.get? (name :: location) ≠ some .directory) :
    (fs.put (name :: location) object).IsTree := by
  have hfresh : fs.isAncestor (name :: location) = false := by
    cases hancestor : fs.isAncestor (name :: location) with
    | false => rfl
    | true => exact absurd (standing_of_isAncestor hancestor).get? hfree
  intro other above otherObject hget
  rw [get?_put _ _ _ _ hfresh] at hget ⊢
  have hdirectory : fs.get? above = some .directory := by
    split at hget
    · next heq => cases heq; exact habove
    · exact h other above otherObject hget
  rw [if_neg]
  · exact hdirectory
  · rintro rfl
    exact hfree hdirectory

/-! ### Making directories -/

/-- A directory that is made has one above it, so a tree stays one. -/
theorem IsTree.makeDirectory (h : fs.IsTree) {path : Path}
    (hmake : fs.makeDirectory path = .ok made) : made.IsTree := by
  obtain ⟨directory, name, hlocate, rfl⟩ := makeDirectory_eq_ok.1 hmake
  obtain ⟨hstanding, hvacant⟩ := locate_sound hlocate
  exact h.put hstanding.get? (by simp [hvacant])

/-- A tree stays one when a directory is made after those above it. -/
theorem IsTree.makeDirectoryVia {above : FileSystem → Except IoError Unit × FileSystem}
    {path : Path} (habove : ∀ fs, fs.IsTree → (above fs).2.IsTree) (h : fs.IsTree) :
    (makeDirectoryVia above path fs).2.IsTree := by
  rw [FileSystem.makeDirectoryVia]
  split
  · next hmake => exact h.makeDirectory hmake
  · have hfirst := habove fs h
    split
    · next heq => rwa [heq] at hfirst
    · next heq =>
        rw [heq] at hfirst
        split
        · next hmake => exact hfirst.makeDirectory hmake
        · split <;> exact hfirst
  · split <;> exact h

/-- A tree stays one when the directories above a path are made. -/
theorem IsTree.makeAbove (absolute : Bool) (reversed : List Step) (h : fs.IsTree) :
    (makeAbove absolute reversed fs).2.IsTree := by
  induction reversed generalizing fs with
  | nil => exact h
  | cons last rest ih => exact makeDirectoryVia (fun _ => ih) h

/-- A tree stays one, whatever directories are asked for and whether or not they can be made. -/
theorem IsTree.makeDirectories (h : fs.IsTree) (text : String) :
    (fs.makeDirectories text).2.IsTree := by
  rw [FileSystem.makeDirectories]
  split
  · exact h
  · split
    · exact h
    · exact makeDirectoryVia (fun _ hfs => hfs.makeAbove _ _) h

/-- Making sure of a directory keeps the tree, along any path and however it ends. -/
theorem IsTree.ensureDirectory (h : fs.IsTree) (text : String) :
    (ensureDirectory fs text).2.IsTree := by
  have hmade := h.makeDirectories text
  rw [FixtureKit.ensureDirectory]
  split
  · exact h
  · split
    · next heq => rwa [heq] at hmade
    · next heq => rwa [heq] at hmade

end FileSystem

end FixtureKit

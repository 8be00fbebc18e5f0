import FixtureKit.FileSystem.Store

/-!
# Listing a Tree

The objects below the working directory, each with the names that lead to it, ordered name by name.
Because a row of names comes before every longer row that starts with it, a directory comes before
what is in it.

## Main results

* `mem_listing_iff` — the listing holds exactly the objects below the working directory.
-/

namespace FixtureKit

namespace FileSystem

/-- The names that lead from the working directory down to a location below it. -/
def namesBelow (fs : FileSystem) (location : Location) : List String :=
  (location.take (location.length - fs.workingDirectory.length)).reverse

/-- Whether a location is below the working directory. -/
def isBelow (fs : FileSystem) (location : Location) : Bool :=
  fs.workingDirectory.isSuffixOf location && location != fs.workingDirectory

/-- A row of names as numbers: those of the characters, with a zero in front of each name. No
name holds the character zero, so that a name comes before the longer ones that start with it. -/
def sortKey (names : List String) : List Nat :=
  names.flatMap fun name => 0 :: name.toList.map Char.toNat

/-- Whether a row of numbers comes first, or is equal to another. -/
def precedes : List Nat → List Nat → Bool
  | [], _ => true
  | _ :: _, [] => false
  | a :: as, b :: bs => Nat.blt a b || (a == b && precedes as bs)

/-- The objects below the working directory, in order. -/
def listing (fs : FileSystem) : List (List String × Object) :=
  ((fs.objects.filter fun entry => fs.isBelow entry.1).map
    fun entry => (fs.namesBelow entry.1, entry.2)).mergeSort
      fun a b => precedes (sortKey a.1) (sortKey b.1)

/-- The listing holds exactly the objects below the working directory. -/
theorem mem_listing_iff {fs : FileSystem} {names : List String} {object : Object} :
    (names, object) ∈ fs.listing ↔
      ∃ location, (location, object) ∈ fs.objects ∧ fs.isBelow location = true ∧
        fs.namesBelow location = names := by
  simp only [listing, List.mem_mergeSort, List.mem_map, List.mem_filter, Prod.exists, Prod.mk.injEq]
  constructor
  · rintro ⟨location, found, ⟨hmem, hbelow⟩, hnames, rfl⟩
    exact ⟨location, hmem, hbelow, hnames⟩
  · rintro ⟨location, hmem, hbelow, hnames⟩
    exact ⟨location, object, ⟨hmem, hbelow⟩, hnames, rfl⟩

end FileSystem

end FixtureKit

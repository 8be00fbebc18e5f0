import FixtureKit.Proofs.FileSystem.Filling

/-!
# Changes Between Two File Systems

What an operation leaves alone is told location by location. A location holds what it held, or
a directory where nothing was, or a file where a file or nothing was. The relation `Changes`
says of two file systems that these are all their differences, and at which locations a
directory may have been made and a file filled.

Directories and links are never changed, so whatever has led to a directory still leads there,
and a walk that came to a vacant name comes to it again and finds what is there by now.

## Main results

* `Changes.trans`: changes add up.
* `Changes.locate_directory`: what leads to a directory goes on leading there.
* `Changes.locate_vacant`: a vacant name at which a directory is made leads to that directory.
-/

namespace FixtureKit

namespace FileSystem

/-- What has become of a location, where `makes` and `fills` tell at which locations a directory
may be made and a file filled. -/
inductive ChangedAt (makes fills : Location → Prop) (before after : FileSystem)
    (location : Location) : Prop
  | kept (same : after.get? location = before.get? location)
  | made (allowed : makes location) (vacant : before.get? location = none)
      (directory : after.get? location = some .directory)
  | filled (allowed : fills location) (fillable : before.Fillable location) (content : ByteArray)
      (file : after.get? location = some (.file content))

/-- Two file systems that differ in nothing but directories that have been made and files that
have been filled. -/
structure Changes (makes fills : Location → Prop) (before after : FileSystem) : Prop where
  workingDirectory : after.workingDirectory = before.workingDirectory
  changedAt : ∀ location, ChangedAt makes fills before after location

variable {makes fills : Location → Prop} {fs fs' : FileSystem}

/-- Nothing having changed is a change of any kind. -/
theorem Changes.refl (fs : FileSystem) : Changes makes fills fs fs :=
  ⟨rfl, fun _ => .kept rfl⟩

/-- Changes add up: a directory that has been made is not filled, and a file that has been filled
does not make room for a directory. -/
theorem Changes.trans {last : FileSystem} (first : Changes makes fills fs fs')
    (second : Changes makes fills fs' last) : Changes makes fills fs last := by
  refine ⟨second.workingDirectory.trans first.workingDirectory, fun location => ?_⟩
  cases first.changedAt location with
  | kept hsame =>
      cases second.changedAt location with
      | kept hagain => exact .kept (hagain.trans hsame)
      | made allowed hvacant hdirectory => exact .made allowed (hsame ▸ hvacant) hdirectory
      | filled allowed hfillable content hfile =>
          rw [Fillable, hsame] at hfillable
          exact .filled allowed hfillable content hfile
  | made allowed hvacant hdirectory =>
      cases second.changedAt location with
      | kept hagain => exact .made allowed hvacant (hagain.trans hdirectory)
      | made _ hgone _ => rw [hdirectory] at hgone; cases hgone
      | filled _ hfillable _ _ =>
          obtain ⟨content, hfile⟩ := hfillable.exists_file hdirectory
          cases hfile
  | filled allowed hfillable content hfile =>
      cases second.changedAt location with
      | kept hagain => exact .filled allowed hfillable content (hagain.trans hfile)
      | made _ hgone _ => rw [hfile] at hgone; cases hgone
      | filled _ _ content hagain => exact .filled allowed hfillable content hagain

/-- What may be made and filled can be widened. -/
theorem Changes.mono {makes' fills' : Location → Prop} (h : Changes makes fills fs fs')
    (hmakes : ∀ location, makes location → makes' location)
    (hfills : ∀ location, fills location → fills' location) : Changes makes' fills' fs fs' := by
  refine ⟨h.workingDirectory, fun location => ?_⟩
  cases h.changedAt location with
  | kept hsame => exact .kept hsame
  | made allowed hvacant hdirectory => exact .made (hmakes _ allowed) hvacant hdirectory
  | filled allowed hfillable content hfile =>
      exact .filled (hfills _ allowed) hfillable content hfile

/-- Filling a file changes nothing else. -/
theorem changes_put_file {target : Location} (hfill : fs.Fillable target) (allowed : fills target)
    (content : ByteArray) : Changes makes fills fs (fs.put target (.file content)) := by
  refine ⟨rfl, fun location => ?_⟩
  have hget := hfill.get?_put (.file content) location
  by_cases heq : location = target
  · subst heq
    rw [if_pos rfl] at hget
    exact .filled allowed hfill content hget
  · rw [if_neg heq] at hget
    exact .kept hget

/-- Making a directory changes nothing else. -/
theorem changes_put_directory {target : Location} (hvacant : fs.get? target = none)
    (allowed : makes target) : Changes makes fills fs (fs.put target .directory) := by
  have hfill : fs.Fillable target := .inl hvacant
  refine ⟨rfl, fun location => ?_⟩
  have hget := hfill.get?_put .directory location
  by_cases heq : location = target
  · subst heq
    rw [if_pos rfl] at hget
    exact .made allowed hvacant hget
  · rw [if_neg heq] at hget
    exact .kept hget

/-- What is not a file stays as it is. -/
theorem Changes.get?_eq_some (h : Changes makes fills fs fs') {location : Location}
    {object : Object} (hget : fs.get? location = some object)
    (hfile : ∀ content, object ≠ .file content) : fs'.get? location = some object := by
  cases h.changedAt location with
  | kept hsame => exact hsame.trans hget
  | made _ hvacant _ => rw [hget] at hvacant; cases hvacant
  | filled _ hfillable _ _ =>
      obtain ⟨content, hold⟩ := hfillable.exists_file hget
      exact absurd hold (hfile content)

/-- What is a file stays one. -/
theorem Changes.exists_file (h : Changes makes fills fs fs') {location : Location}
    {content : ByteArray} (hget : fs.get? location = some (.file content)) :
    ∃ now, fs'.get? location = some (.file now) := by
  cases h.changedAt location with
  | kept hsame => exact ⟨content, hsame.trans hget⟩
  | made _ hvacant _ => rw [hget] at hvacant; cases hvacant
  | filled _ _ now hfile => exact ⟨now, hfile⟩

/-- A file that is not filled keeps its bytes. -/
theorem Changes.get?_of_not_fills (h : Changes makes fills fs fs') {location : Location}
    {content : ByteArray} (hget : fs.get? location = some (.file content))
    (hnot : ¬fills location) : fs'.get? location = some (.file content) := by
  cases h.changedAt location with
  | kept hsame => exact hsame.trans hget
  | made _ hvacant _ => rw [hget] at hvacant; cases hvacant
  | filled allowed => exact absurd allowed hnot

/-- What is new is a directory that may be made or a file that may be filled. -/
theorem Changes.new_eq (h : Changes makes fills fs fs') {location : Location} {object : Object}
    (hvacant : fs.get? location = none) (hget : fs'.get? location = some object) :
    (object = .directory ∧ makes location) ∨
      ∃ content, object = .file content ∧ fills location := by
  cases h.changedAt location with
  | kept hsame => rw [hget, hvacant] at hsame; cases hsame
  | made allowed _ hdirectory =>
      exact .inl ⟨Option.some.inj (hget.symm.trans hdirectory), allowed⟩
  | filled allowed _ content hfile =>
      exact .inr ⟨content, Option.some.inj (hget.symm.trans hfile), allowed⟩

/-! ### Walks after changes -/

/-- Where a walk stops after changes when it stopped somewhere before: at the same directory, at
the same link, or in the directory that has been made under a vacant name. Of other walks nothing
is said. -/
def Stop.LeadsAfter (after : FileSystem) (now : Stop) : (before : Stop) → Prop
  | .finished (.ok (.occupied location .directory)) =>
    now = .finished (.ok (.occupied location .directory))
  | .finished (.ok (.vacant directory name)) =>
    after.get? (name :: directory) = some .directory →
      now = .finished (.ok (.occupied (name :: directory) .directory))
  | .atLink directory text rest => now = .atLink directory text rest
  | _ => True

/-- Without following a link, a walk that passes directories passes them again. -/
theorem Changes.leadsAfter_advance (h : Changes makes fills fs fs') (purpose : Purpose)
    (here : Location) (steps : List Step) :
    Stop.LeadsAfter fs' (fs'.advance .use here steps) (fs.advance purpose here steps) := by
  have huse (rest : List Step) : ¬(Purpose.use = .create ∧ rest = [.slash]) := by simp
  -- directories and links are where they were; a vacant name is the one place that may differ
  fun_induction advance fs purpose here steps with
  | case1 here => rfl
  | case2 here rest ih => exact ih
  | case3 here rest ih => exact ih
  | case4 here rest ih => exact ih
  | case5 => trivial
  | case6 => trivial
  | case7 here name rest hslash hshort hnone =>
      cases rest with
      | cons step rest => trivial
      | nil =>
          intro hmade
          rw [advance, if_neg (huse []), if_neg hshort, hmade, advance]
  | case8 here name rest hslash hshort hdirectory ih =>
      rw [advance, if_neg (huse rest), if_neg hshort, h.get?_eq_some hdirectory (by simp)]
      exact ih
  | case9 => trivial
  | case10 here name rest hslash hshort link hlink hend =>
      rw [advance, if_neg (huse rest), if_neg hshort, h.get?_eq_some hlink (by simp)]
      simp [Stop.LeadsAfter]
  | case11 here name rest hslash hshort object hdirectory hlink hobject =>
      split
      · cases object with
        | directory => exact absurd rfl hdirectory
        | _ => trivial
      · trivial

/-- What leads to a directory goes on leading there. -/
theorem Changes.walk_directory (h : Changes makes fills fs fs') {links : Nat}
    {here location : Location} {steps : List Step} (hstanding : fs.Standing here)
    (hwalk : fs.walk .use links here steps = .ok (.occupied location .directory)) :
    fs'.walk .use links here steps = .ok (.occupied location .directory) := by
  refine walk_of_advance ?_ ?_ hstanding hwalk
  · intro here steps _ hstop
    have hleads := h.leadsAfter_advance .use here steps
    rwa [hstop] at hleads
  · intro here steps directory text rest _ hstop
    have hleads := h.leadsAfter_advance .use here steps
    rwa [hstop] at hleads

/-- Where a directory has been made under a vacant name, what led to the name leads to it. -/
theorem Changes.walk_vacant (h : Changes makes fills fs fs') {purpose : Purpose} {links : Nat}
    {here directory : Location} {name : String} {steps : List Step}
    (hstanding : fs.Standing here)
    (hwalk : fs.walk purpose links here steps = .ok (.vacant directory name))
    (hmade : fs'.get? (name :: directory) = some .directory) :
    fs'.walk .use links here steps = .ok (.occupied (name :: directory) .directory) := by
  refine walk_of_advance ?_ ?_ hstanding hwalk
  · intro here steps _ hstop
    have hleads := h.leadsAfter_advance purpose here steps
    rw [hstop] at hleads
    exact hleads hmade
  · intro here steps directory text rest _ hstop
    have hleads := h.leadsAfter_advance purpose here steps
    rwa [hstop] at hleads

/-- A path to a directory goes on leading there. -/
theorem Changes.locate_directory (h : Changes makes fills fs fs') {path : Path}
    {location : Location} (hlocate : fs.locate .use path = .ok (.occupied location .directory)) :
    fs'.locate .use path = .ok (.occupied location .directory) := by
  rw [locate] at hlocate ⊢
  rw [h.workingDirectory]
  exact h.walk_directory (Standing.startOf path fs.standing_workingDirectory) hlocate

/-- A path to a vacant name at which a directory has been made leads to that directory. -/
theorem Changes.locate_vacant (h : Changes makes fills fs fs') {purpose : Purpose} {path : Path}
    {directory : Location} {name : String}
    (hlocate : fs.locate purpose path = .ok (.vacant directory name))
    (hmade : fs'.get? (name :: directory) = some .directory) :
    fs'.locate .use path = .ok (.occupied (name :: directory) .directory) := by
  rw [locate] at hlocate ⊢
  rw [h.workingDirectory]
  exact h.walk_vacant (Standing.startOf path fs.standing_workingDirectory) hlocate hmade

end FileSystem

end FixtureKit

import FixtureKit.Directory
import FixtureKit.Proofs.FileSystem.Changes
import FixtureKit.Proofs.FileSystem.PathText

/-!
# Directories on the Way

Making sure of a directory makes those that are missing above it, and nothing else, whether it
succeeds or not. A directory that has been made is on the way along the path: some of its first
steps lead there. The steps that are tried one by one leave out single dots and slashes at the
end, but a walk to a directory takes no notice of these.

## Main results

* `walk_of_counted_eq`: steps that do not count make no difference on the way to a directory.
* `locate_of_makeDirectory`: a directory that is made is where its path leads.
* `madeAlong_makeDirectory`: what is made under one part of a path is on the way along it.
* `madeAlong_ensureDirectory`: making sure of a directory makes directories on the way.
-/

namespace FixtureKit

namespace Path

/-- The steps that lead from one directory to another. -/
def counted (steps : List Step) : List Step :=
  steps.filter fun step => step ≠ .stay ∧ step ≠ .slash

/-- The steps that count are counted part by part. -/
@[simp]
theorem counted_append (first second : List Step) :
    counted (first ++ second) = counted first ++ counted second :=
  List.filter_append ..

/-- Of the steps that count all do. -/
@[simp]
theorem counted_counted (steps : List Step) : counted (counted steps) = counted steps := by
  simp [counted]

/-- Leaving out a step at the end that does not count changes nothing that does. -/
theorem counted_trimmed (path : Path) : counted path.trimmed.steps = counted path.steps := by
  rw [counted, counted, trimmed, List.filter_filter]
  congr 1
  funext step
  cases step <;> rfl

/-- The significant steps of a path have all of its steps that count. -/
theorem counted_significant (path : Path) : counted path.significant = counted path.steps := by
  rw [significant]
  split
  · next rest _ hsteps =>
      rw [hsteps]
      exact counted_counted rest
  · exact counted_counted path.steps

/-- A path that takes the first steps of another one, those apart that do not count. -/
structure IsPart (part path : Path) : Prop where
  absolute : part.absolute = path.absolute
  steps : counted part.steps <+: counted path.steps

/-- A part of a path is one without the step at its end that does not count. -/
theorem IsPart.trimmed {part path : Path} (h : part.IsPart path) : part.trimmed.IsPart path where
  absolute := h.absolute
  steps := by
    rw [counted_trimmed]
    exact h.steps

end Path

namespace FileSystem

open FixtureKit.Path

variable {fs fs' : FileSystem}

/-! ### Steps that do not count -/

/-- A stop, as far as it matters to a walk to a directory: an end elsewhere is as good as any, and
behind a link the steps that do not count are left out. -/
def Stop.skimmed : Stop → Stop
  | .finished (.ok (.occupied location .directory)) =>
    .finished (.ok (.occupied location .directory))
  | .finished _ => .finished (.error .notADirectory)
  | .atLink directory text rest => .atLink directory text (counted rest)

/-- A walk that stops in a directory, steps that do not count apart, stops there with them. -/
theorem Stop.eq_of_skimmed_directory {stop : Stop} {location : Location}
    (h : skimmed stop = .finished (.ok (.occupied location .directory))) :
    stop = .finished (.ok (.occupied location .directory)) := by
  unfold skimmed at h
  split at h
  · exact h
  · cases h
  · cases h

/-- A walk that stops at a link, steps that do not count apart, stops there with them, and what is
left to go is the same but for those. -/
theorem Stop.exists_of_skimmed_link {stop : Stop} {directory : Location} {text : String}
    {rest : List Step} (h : skimmed stop = .atLink directory text rest) :
    ∃ more, stop = .atLink directory text more ∧ counted more = rest := by
  unfold skimmed at h
  split at h
  · cases h
  · cases h
  · next more => cases h; exact ⟨more, rfl, rfl⟩

/-- Leaving out the steps that do not count, a walk stops at the same directory or link. -/
theorem skimmed_advance_counted (fs : FileSystem) (here : Location) (steps : List Step) :
    Stop.skimmed (fs.advance .use here (counted steps)) =
      Stop.skimmed (fs.advance .use here steps) := by
  have hname (name : String) (rest : List Step) :
      counted (.name name :: rest) = .name name :: counted rest := rfl
  -- the steps in front of a name are skipped by both walks; behind it, the two may end in different
  -- errors, or keep different steps for what comes after a link
  generalize hpurpose : Purpose.use = purpose
  have huse (rest : List Step) : ¬(purpose = .create ∧ rest = [.slash]) := by simp [← hpurpose]
  have hfollow (rest : List Step) : ¬(rest.isEmpty = true ∧ purpose = .entry) := by
    simp [← hpurpose]
  fun_induction advance fs purpose here steps with
  | case1 here => rfl
  | case2 here rest ih => exact ih
  | case3 here rest ih => exact ih
  | case4 here rest ih => exact ih
  | case5 here name rest hslash => exact absurd hslash (huse rest)
  | case6 here name rest hslash hlong => rw [hname, advance, if_neg (huse _), if_pos hlong]
  | case7 here name rest hslash hshort hnone =>
      rw [hname, advance, if_neg (huse _), if_neg hshort, hnone]
      simp only
      split <;> split <;> rfl
  | case8 here name rest hslash hshort hdirectory ih =>
      rw [hname, advance, if_neg (huse _), if_neg hshort, hdirectory]
      exact ih
  | case9 here name rest hslash hshort link hlink hend => exact absurd hend (hfollow rest)
  | case10 here name rest hslash hshort link hlink hend =>
      rw [hname, advance, if_neg (huse _), if_neg hshort, hlink]
      simp only [if_neg (hfollow _), Stop.skimmed, counted_counted]
  | case11 here name rest hslash hshort object hdirectory hlink hobject =>
      have hskimmed (more : List Step) : Stop.skimmed (.finished (if more.isEmpty then
          .ok (.occupied (name :: here) object) else .error .notADirectory)) =
          .finished (.error .notADirectory) := by
        split
        · cases object with
          | directory => exact absurd rfl hdirectory
          | _ => rfl
        · rfl
      rw [hname, advance, if_neg (huse _), if_neg hshort, hobject, hskimmed]
      cases object with
      | directory => exact absurd rfl hdirectory
      | link text => exact absurd rfl (hlink text)
      | _ => exact hskimmed _

/-- Steps that do not count make no difference on the way to a directory. -/
theorem walk_of_counted_eq {links : Nat} {here location : Location} {steps other : List Step}
    (hsame : counted steps = counted other)
    (hwalk : fs.walk .use links here steps = .ok (.occupied location .directory)) :
    fs.walk .use links here other = .ok (.occupied location .directory) := by
  induction links generalizing here steps other with
  | zero =>
      have hskimmed := (fs.skimmed_advance_counted here steps).symm
      rw [hsame, skimmed_advance_counted] at hskimmed
      rw [walk] at hwalk ⊢
      split at hwalk
      · next result hstop =>
          subst hwalk
          rw [hstop] at hskimmed
          rw [Stop.eq_of_skimmed_directory hskimmed.symm]
      · cases hwalk
  | succ links ih =>
      have hskimmed := (fs.skimmed_advance_counted here steps).symm
      rw [hsame, skimmed_advance_counted] at hskimmed
      rw [walk] at hwalk ⊢
      split at hwalk
      · next result hstop =>
          subst hwalk
          rw [hstop] at hskimmed
          rw [Stop.eq_of_skimmed_directory hskimmed.symm]
      · next directory text rest hstop =>
          rw [hstop] at hskimmed
          obtain ⟨more, hmore, hcounted⟩ := Stop.exists_of_skimmed_link hskimmed.symm
          rw [hmore]
          exact ih (by rw [counted_append, counted_append, hcounted]) hwalk

/-! ### The way along a path -/

/-- A directory on the way along a path: some of the first steps lead there. -/
def OnTheWay (fs : FileSystem) (path : Path) (location : Location) : Prop :=
  ∃ steps, steps <+: path.steps ∧
    fs.locate .use ⟨path.absolute, steps⟩ = .ok (.occupied location .directory)

/-- What a part of a path leads to is on the way, whether or not the part has the steps that do
not count. -/
theorem onTheWay_of_locate {path part : Path} {location : Location} (hpart : part.IsPart path)
    (hlocate : fs.locate .use part = .ok (.occupied location .directory)) :
    fs.OnTheWay path location := by
  obtain ⟨rest, hrest⟩ := hpart.steps
  obtain ⟨first, second, hsplit, hfirst, -⟩ := List.filter_eq_append_iff.1 hrest.symm
  refine ⟨first, ⟨second, hsplit.symm⟩, ?_⟩
  rw [← hpart.absolute]
  exact walk_of_counted_eq hfirst.symm hlocate

/-- A directory on the way along a path is still there, and still on the way, when directories have
been made and files filled. -/
theorem OnTheWay.after {makes fills : Location → Prop} {path : Path} {location : Location}
    (h : fs.OnTheWay path location) (hchanges : Changes makes fills fs fs') :
    fs'.OnTheWay path location := by
  obtain ⟨steps, hsteps, hlocate⟩ := h
  exact ⟨steps, hsteps, hchanges.locate_directory hlocate⟩

/-! ### Making directories -/

/-- Nothing has changed but that directories have been made on the way along a path. -/
def MadeAlong (path : Path) (before after : FileSystem) : Prop :=
  Changes (after.OnTheWay path) (fun _ => False) before after

variable {path part : Path}

/-- When nothing has changed, no directory has been made anywhere else. -/
theorem MadeAlong.refl (path : Path) (fs : FileSystem) : MadeAlong path fs fs :=
  Changes.refl fs

/-- Directories made along a path in two goes are made along it. -/
theorem MadeAlong.trans {last : FileSystem} (first : MadeAlong path fs fs')
    (second : MadeAlong path fs' last) : MadeAlong path fs last :=
  (first.mono (fun _ h => h.after second) fun _ h => h).trans second

/-- A directory that is made was vacant, and is where its path leads then. -/
theorem locate_of_makeDirectory {made : FileSystem} (h : fs.makeDirectory part = .ok made) :
    ∃ location, fs.get? location = none ∧ made = fs.put location .directory ∧
      made.locate .use part.trimmed = .ok (.occupied location .directory) := by
  obtain ⟨directory, name, hlocate, rfl⟩ := makeDirectory_eq_ok.1 h
  have hvacant : fs.get? (name :: directory) = none := (locate_sound hlocate).2
  have hfill : fs.Fillable (name :: directory) := .inl hvacant
  have hmade : (fs.put (name :: directory) .directory).get? (name :: directory) =
      some .directory := by rw [hfill.get?_put, if_pos rfl]
  have hchanges : Changes (fun _ => True) (fun _ => False) fs
      (fs.put (name :: directory) .directory) := changes_put_directory hvacant trivial
  exact ⟨name :: directory, hvacant, rfl, hchanges.locate_vacant hlocate hmade⟩

/-- What is made under one part of a path is on the way along it. -/
theorem madeAlong_makeDirectory {made : FileSystem} (hpart : part.IsPart path)
    (h : fs.makeDirectory part = .ok made) : MadeAlong path fs made := by
  obtain ⟨location, hvacant, rfl, hlocate⟩ := locate_of_makeDirectory h
  exact changes_put_directory hvacant (onTheWay_of_locate hpart.trimmed hlocate)

/-- Making a directory for a part of a path, after those above it, makes directories along the path
only, as long as making those above it does. -/
theorem madeAlong_makeDirectoryVia {above : FileSystem → Except IoError Unit × FileSystem}
    (hpart : part.IsPart path) (habove : ∀ fs, MadeAlong path fs (above fs).2) (fs : FileSystem) :
    MadeAlong path fs (makeDirectoryVia above part fs).2 := by
  rw [makeDirectoryVia]
  split
  · next made hmade => exact madeAlong_makeDirectory hpart hmade
  · have hfirst := habove fs
    split
    · next heq => rwa [heq] at hfirst
    · next made heq =>
        rw [heq] at hfirst
        split
        · next made hmade => exact hfirst.trans (madeAlong_makeDirectory hpart hmade)
        · split <;> exact hfirst
  · split <;> exact MadeAlong.refl path fs

/-- The directories made above a part of a path are on the way along it. The induction is on the
steps from the last one back, as they are tried. -/
theorem madeAlong_makeAbove {reversed : List Step}
    (hsteps : counted reversed.reverse <+: counted path.steps) (fs : FileSystem) :
    MadeAlong path fs (makeAbove path.absolute reversed fs).2 := by
  induction reversed generalizing fs with
  | nil => exact MadeAlong.refl path fs
  | cons last rest ih =>
      have hrest : counted rest.reverse <+: counted path.steps := by
        rw [List.reverse_cons, counted_append] at hsteps
        exact (List.prefix_append _ _).trans hsteps
      have hpart : IsPart ⟨path.absolute, (last :: rest).reverse⟩ path := ⟨rfl, hsteps⟩
      exact madeAlong_makeDirectoryVia hpart (ih hrest) fs

/-- All that is made for a path is made on the way along it, whether or not the last step
succeeds. -/
theorem madeAlong_makeDirectories (fs : FileSystem) (text : String) :
    MadeAlong (ofText text) fs (fs.makeDirectories text).2 := by
  rw [makeDirectories]
  split
  · exact MadeAlong.refl _ fs
  · split
    · exact MadeAlong.refl _ fs
    · next path hparse =>
        obtain rfl := eq_ofText_of_parse hparse
        refine madeAlong_makeDirectoryVia ⟨rfl, List.prefix_refl _⟩
          (madeAlong_makeAbove ?_) fs
        rw [List.tail_reverse, List.reverse_reverse, ← counted_significant]
        exact (List.dropLast_prefix _).filter _

end FileSystem

/-- Making sure of a directory makes directories on the way to it, and changes nothing else. -/
theorem FileSystem.madeAlong_ensureDirectory (fs : FileSystem) (text : String) :
    MadeAlong (Path.ofText text) fs (ensureDirectory fs text).2 := by
  have hmade := fs.madeAlong_makeDirectories text
  rw [ensureDirectory]
  split
  · exact MadeAlong.refl _ fs
  · split
    · next heq => rwa [heq] at hmade
    · next heq => rwa [heq] at hmade

end FixtureKit

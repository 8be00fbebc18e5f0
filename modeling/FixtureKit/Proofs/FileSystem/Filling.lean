import FixtureKit.FileSystem.Operations

/-!
# Walks after a File Is Filled

Writing puts a file where a file or nothing stands. Such a change is seen by those walks
only that end at the changed location: no directory and no link is touched, so a walk that
succeeds takes the same steps as before, follows the same links, and ends at the same
place. At the changed location it finds the file.

A walk that fails goes on failing. Where nothing stood, one that goes on beyond the name
fails for another reason once there is a file.

## Main results

* `find_put`, `exists_find_of_put`: where a path leads when a file has been filled.
* `openForReading_put_of_ne`, `openForReading_put_self`: what is read by it then.
* `openForReading_of_openForWriting`: a path that was opened for writing reads what is
  written through it.
-/

namespace FixtureKit

/-- The location of a place, whether something stands there or not. -/
def Place.location : Place → Location
  | .occupied location _ => location
  | .vacant directory name => name :: directory

namespace FileSystem

/-- A location at which a file or nothing stands. -/
def Fillable (fs : FileSystem) (target : Location) : Prop :=
  fs.get? target = none ∨ ∃ content, fs.get? target = some (.file content)

/-- What a walk that ended at a place finds there when the file at `target` has been filled. -/
def filledPlace (target : Location) (content : ByteArray) (place : Place) : Place :=
  if place.location = target then .occupied target (.file content) else place

/-- A place at the location that was filled holds the content now. -/
theorem filledPlace_of_eq {target : Location} {place : Place} (content : ByteArray)
    (h : place.location = target) :
    filledPlace target content place = .occupied target (.file content) :=
  if_pos h

/-- A place at any other location is as it was. -/
theorem filledPlace_of_ne {target : Location} {place : Place} (content : ByteArray)
    (h : place.location ≠ target) : filledPlace target content place = place :=
  if_neg h

/-- The same for a walk that may have stopped at a link. -/
def filledStop (target : Location) (content : ByteArray) : Stop → Stop
  | .finished (.ok place) => .finished (.ok (filledPlace target content place))
  | stop => stop

variable {fs : FileSystem} {target : Location}

/-- Only a file can stand at a location for a file. -/
theorem Fillable.exists_file {object : Object} (h : fs.Fillable target)
    (hget : fs.get? target = some object) : ∃ content, object = .file content := by
  rcases h with hnone | ⟨content, hfile⟩
  · rw [hget] at hnone; cases hnone
  · exact ⟨content, Option.some.inj (hget.symm.trans hfile)⟩

/-- What can be filled is not above the working directory, where directories are. -/
theorem Fillable.isAncestor (h : fs.Fillable target) : fs.isAncestor target = false := by
  rcases Bool.eq_false_or_eq_true (fs.isAncestor target) with hancestor | hfresh
  · have hget : fs.get? target = some .directory := by rw [get?, if_pos hancestor]
    obtain ⟨content, hfile⟩ := h.exists_file hget
    cases hfile
  · exact hfresh

/-- Filling a file changes what is found at its location, and nothing else. -/
theorem Fillable.get?_put (h : fs.Fillable target) (object : Object) (location : Location) :
    (fs.put target object).get? location =
      if location = target then some object else fs.get? location :=
  FileSystem.get?_put fs target location object h.isAncestor

/-- Filling one file leaves every location fillable that was so before. -/
theorem Fillable.put {other : Location} (h : fs.Fillable target) (hother : fs.Fillable other)
    (content : ByteArray) : (fs.put target (.file content)).Fillable other := by
  rw [Fillable, h.get?_put]
  split
  · exact .inr ⟨content, rfl⟩
  · exact hother

/-- Filling one file makes no other location fillable. -/
theorem Fillable.of_put {other : Location} (h : fs.Fillable target) (content : ByteArray)
    (hother : (fs.put target (.file content)).Fillable other) : fs.Fillable other := by
  rw [Fillable, h.get?_put] at hother
  split at hother
  · next heq => exact heq ▸ h
  · exact hother

/-- Only the last of two fillings counts. -/
theorem put_put (fs : FileSystem) (target : Location) (first second : Object) :
    (fs.put target first).put target second = fs.put target second := by
  simp [put, List.filter_filter]

/-! ### Walks -/

/-- Two walks that agree wherever they follow no link agree altogether: it is enough to know
what becomes of the place at which the first one ends. -/
theorem walk_of_advance {fs fs' : FileSystem} {purpose purpose' : Purpose} {place place' : Place}
    (hfinish : ∀ here steps, fs.Standing here →
      fs.advance purpose here steps = .finished (.ok place) →
      fs'.advance purpose' here steps = .finished (.ok place'))
    (hlink : ∀ here steps directory text rest, fs.Standing here →
      fs.advance purpose here steps = .atLink directory text rest →
      fs'.advance purpose' here steps = .atLink directory text rest)
    {links : Nat} {here : Location} {steps : List Step} (hstanding : fs.Standing here)
    (hwalk : fs.walk purpose links here steps = .ok place) :
    fs'.walk purpose' links here steps = .ok place' := by
  induction links generalizing here steps with
  | zero =>
      rw [walk] at hwalk ⊢
      split at hwalk
      · next result hstop =>
          subst hwalk
          rw [hfinish here steps hstanding hstop]
      · cases hwalk
  | succ links ih =>
      have hsound := fs.advance_sound purpose here steps hstanding
      rw [walk] at hwalk ⊢
      split at hwalk
      · next result hstop =>
          subst hwalk
          rw [hfinish here steps hstanding hstop]
      · next directory text rest hstop =>
          rw [hstop] at hsound
          rw [hlink here steps directory text rest hstanding hstop]
          exact ih (Standing.startOf _ hsound) hwalk

/-- What holds of every place at which a walk ends that follows no link holds of every place at
which a walk ends. -/
theorem place_of_walk {purpose : Purpose} {motive : Place → Prop}
    (hadvance : ∀ here steps place, fs.advance purpose here steps = .finished (.ok place) →
      motive place)
    {links : Nat} {here : Location} {steps : List Step} {place : Place}
    (hwalk : fs.walk purpose links here steps = .ok place) : motive place := by
  induction links generalizing here steps with
  | zero =>
      rw [walk] at hwalk
      split at hwalk
      · next result hstop => subst hwalk; exact hadvance here steps place hstop
      · cases hwalk
  | succ links ih =>
      rw [walk] at hwalk
      split at hwalk
      · next result hstop => subst hwalk; exact hadvance here steps place hstop
      · exact ih hwalk

/-- Without following a link, a walk fails both times, or takes the same steps as before. -/
theorem advance_put (hfill : fs.Fillable target) (content : ByteArray) (purpose : Purpose)
    {here : Location} (steps : List Step) (hstanding : fs.Standing here) :
    (∃ e e', fs.advance purpose here steps = .finished (.error e) ∧
        (fs.put target (.file content)).advance purpose here steps = .finished (.error e')) ∨
      (fs.put target (.file content)).advance purpose here steps =
        filledStop target content (fs.advance purpose here steps) := by
  have hget := hfill.get?_put (.file content)
  -- what stands at the changed location is neither a directory nor a link
  have hother {location : Location} {object : Object} (hobject : fs.get? location = some object)
      (hfile : ∀ content, object ≠ .file content) : location ≠ target := by
    rintro rfl
    obtain ⟨old, hold⟩ := hfill.exists_file hobject
    exact hfile old hold
  fun_induction advance fs purpose here steps with
  | case1 here =>
      have hne : here ≠ target := hother hstanding.get? (by simp)
      right
      have hplace : (Place.occupied here .directory).location ≠ target := hne
      rw [advance, filledStop, filledPlace_of_ne content hplace]
  | case2 here rest ih => exact ih hstanding
  | case3 here rest ih => exact ih hstanding
  | case4 here rest ih => exact ih hstanding.tail
  | case5 here name rest hslash =>
      left
      rw [advance, if_pos hslash]
      exact ⟨_, _, rfl, rfl⟩
  | case6 here name rest hslash hlong =>
      left
      rw [advance, if_neg hslash, if_pos hlong]
      exact ⟨_, _, rfl, rfl⟩
  | case7 here name rest hslash hshort hnone =>
      cases rest with
      | cons step rest =>
          left
          rw [advance, if_neg hslash, if_neg hshort, hget]
          by_cases heq : name :: here = target
          · rw [if_pos heq]
            exact ⟨_, _, rfl, rfl⟩
          · rw [if_neg heq, hnone]
            exact ⟨_, _, rfl, rfl⟩
      | nil =>
          right
          rw [advance, if_neg hslash, if_neg hshort, hget]
          by_cases heq : name :: here = target
          · simp [filledStop, filledPlace, Place.location, heq]
          · simp [filledStop, filledPlace, Place.location, heq, hnone]
  | case8 here name rest hslash hshort hdirectory ih =>
      have hne := hother hdirectory (by simp)
      rw [advance, if_neg hslash, if_neg hshort, hget, if_neg hne, hdirectory]
      exact ih (hstanding.cons hdirectory)
  | case9 here name rest hslash hshort link hlink hend =>
      have hne := hother hlink (by simp)
      right
      rw [advance, if_neg hslash, if_neg hshort, hget, if_neg hne, hlink]
      have hplace : (Place.occupied (name :: here) (.link link)).location ≠ target := hne
      simp only [if_pos hend, filledStop, filledPlace_of_ne content hplace]
  | case10 here name rest hslash hshort link hlink hend =>
      have hne := hother hlink (by simp)
      right
      rw [advance, if_neg hslash, if_neg hshort, hget, if_neg hne, hlink]
      simp only [if_neg hend, filledStop]
  | case11 here name rest hslash hshort object hdirectory hlink hobject =>
      cases rest with
      | cons step rest =>
          left
          rw [advance, if_neg hslash, if_neg hshort, hget]
          by_cases heq : name :: here = target
          · rw [if_pos heq]
            exact ⟨_, _, rfl, rfl⟩
          · rw [if_neg heq, hobject]
            cases object with
            | directory => exact absurd rfl hdirectory
            | link text => exact absurd rfl (hlink text)
            | file old => exact ⟨_, _, rfl, rfl⟩
            | fullDevice => exact ⟨_, _, rfl, rfl⟩
      | nil =>
          right
          rw [advance, if_neg hslash, if_neg hshort, hget]
          by_cases heq : name :: here = target
          · simp [filledStop, filledPlace, Place.location, heq]
          · rw [if_neg heq, hobject]
            cases object <;> simp_all [filledStop, filledPlace, Place.location]

/-- Filling a file does not lead a walk astray: it ends at the place it ended at, which holds the
content now if it is the one that was filled. -/
theorem walk_put (hfill : fs.Fillable target) (content : ByteArray) {purpose : Purpose}
    {links : Nat} {here : Location} {steps : List Step} {place : Place}
    (hstanding : fs.Standing here) (hwalk : fs.walk purpose links here steps = .ok place) :
    (fs.put target (.file content)).walk purpose links here steps =
      .ok (filledPlace target content place) := by
  refine walk_of_advance ?_ ?_ hstanding hwalk
  · intro here steps hstanding hstop
    rcases advance_put hfill content purpose steps hstanding with ⟨e, -, herror, -⟩ | hsame
    · rw [hstop] at herror; cases herror
    · rw [hsame, hstop, filledStop]
  · intro here steps directory text rest hstanding hstop
    rcases advance_put hfill content purpose steps hstanding with ⟨e, -, herror, -⟩ | hsame
    · rw [hstop] at herror; cases herror
    · rw [hsame, hstop]
      rfl

/-- A walk that ends when the file at `target` has been filled ended before. -/
theorem exists_walk_of_put (hfill : fs.Fillable target) (content : ByteArray) {purpose : Purpose}
    {links : Nat} {here : Location} {steps : List Step} {filled : Place}
    (hstanding : fs.Standing here)
    (hwalk : (fs.put target (.file content)).walk purpose links here steps = .ok filled) :
    ∃ place, fs.walk purpose links here steps = .ok place := by
  induction links generalizing here steps with
  | zero =>
      rw [walk] at hwalk ⊢
      rcases advance_put hfill content purpose steps hstanding with ⟨-, e, -, herror⟩ | hsame
      · rw [herror] at hwalk; cases hwalk
      · rw [hsame] at hwalk
        cases hstop : fs.advance purpose here steps with
        | atLink directory text rest => rw [hstop] at hwalk; cases hwalk
        | finished result =>
            cases result with
            | error e => rw [hstop] at hwalk; cases hwalk
            | ok place => exact ⟨place, rfl⟩
  | succ links ih =>
      have hsound := fs.advance_sound purpose here steps hstanding
      rw [walk] at hwalk ⊢
      rcases advance_put hfill content purpose steps hstanding with ⟨-, e, -, herror⟩ | hsame
      · rw [herror] at hwalk; cases hwalk
      · rw [hsame] at hwalk
        cases hstop : fs.advance purpose here steps with
        | atLink directory text rest =>
            rw [hstop] at hwalk hsound
            exact ih (Standing.startOf _ hsound) hwalk
        | finished result =>
            cases result with
            | error e => rw [hstop] at hwalk; cases hwalk
            | ok place => exact ⟨place, rfl⟩

/-- Where a path leads when the file at `target` has been filled. -/
theorem locate_put (hfill : fs.Fillable target) (content : ByteArray) {purpose : Purpose}
    {path : Path} {place : Place} (h : fs.locate purpose path = .ok place) :
    (fs.put target (.file content)).locate purpose path =
      .ok (filledPlace target content place) :=
  walk_put hfill content (Standing.startOf path fs.standing_workingDirectory) h

/-- Where the text of a path leads when the file at `target` has been filled. -/
theorem find_put (hfill : fs.Fillable target) (content : ByteArray) {purpose : Purpose}
    {text : String} {place : Place} (h : fs.find purpose text = .ok place) :
    (fs.put target (.file content)).find purpose text =
      .ok (filledPlace target content place) := by
  rw [find] at h ⊢
  split at h
  · cases h
  · exact locate_put hfill content h

/-- A path that leads to a place when the file at `target` has been filled led there before. -/
theorem exists_find_of_put (hfill : fs.Fillable target) (content : ByteArray) {purpose : Purpose}
    {text : String} {filled : Place}
    (h : (fs.put target (.file content)).find purpose text = .ok filled) :
    ∃ place, fs.find purpose text = .ok place ∧ filled = filledPlace target content place := by
  have hfound : ∃ place, fs.find purpose text = .ok place := by
    rw [find] at h ⊢
    split at h
    · cases h
    · exact exists_walk_of_put hfill content (Standing.startOf _ fs.standing_workingDirectory) h
  obtain ⟨place, hplace⟩ := hfound
  exact ⟨place, hplace, Except.ok.inj (h.symm.trans (find_put hfill content hplace))⟩

/-! ### Reading -/

/-- A path that opens for reading leads to what it opens. -/
theorem find_of_openForReading {text : String} {location : Location} {object : Object}
    (h : fs.openForReading text = .ok (location, object)) :
    fs.find .use text = .ok (.occupied location object) := by
  rw [openForReading] at h
  split at h
  · cases h
  · next hfind => cases h; exact hfind
  · cases h

/-- Whatever is known of the object at a path, some location has it. -/
theorem openForReading_of_object? {text : String} {object : Object}
    (h : fs.object? text = .ok object) :
    ∃ location, fs.openForReading text = .ok (location, object) := by
  rw [object?] at h
  cases hopen : fs.openForReading text with
  | error cause => rw [hopen] at h; cases h
  | ok found =>
      obtain ⟨location, other⟩ := found
      rw [hopen] at h
      obtain rfl : other = object := Except.ok.inj h
      exact ⟨location, rfl⟩

/-- A path that opens a file reads its content. -/
theorem contentOf_of_openForReading {text : String} {location : Location} {content : ByteArray}
    (h : fs.openForReading text = .ok (location, .file content)) :
    fs.contentOf text = .ok content := by
  rw [contentOf, object?, h]
  rfl

/-- Without following a link, a walk for any use does not end at one. -/
theorem advance_use_ne_link (fs : FileSystem) (here : Location) (steps : List Step)
    (location : Location) (link : String) :
    fs.advance .use here steps ≠ .finished (.ok (.occupied location (.link link))) := by
  generalize hpurpose : Purpose.use = purpose
  fun_induction advance fs purpose here steps with
  | case1 => simp
  | case2 here rest ih => exact ih
  | case3 here rest ih => exact ih
  | case4 here rest ih => exact ih
  | case5 => simp
  | case6 => simp
  | case7 => split <;> simp
  | case8 here name rest _ _ _ ih => exact ih
  | case9 here name rest _ _ text _ hend =>
      rw [← hpurpose] at hend
      exact absurd hend.2 (by decide)
  | case10 => simp
  | case11 here name rest _ _ object _ hlink =>
      split
      · intro heq
        cases heq
        exact hlink link rfl
      · simp

/-- What is opened for reading is never a link. -/
theorem openForReading_ne_link {text : String} {location : Location} {object : Object}
    (h : fs.openForReading text = .ok (location, object)) (link : String) :
    object ≠ .link link := by
  rintro rfl
  have hfind := find_of_openForReading h
  rw [find] at hfind
  split at hfind
  · cases hfind
  · refine place_of_walk (motive := (· ≠ .occupied location (.link link))) ?_ hfind rfl
    rintro here steps place hstop rfl
    exact fs.advance_use_ne_link here steps location link hstop

/-- Another file than the one that has been filled is read as before. -/
theorem openForReading_put_of_ne (hfill : fs.Fillable target) (content : ByteArray)
    {text : String} {location : Location} {object : Object}
    (h : fs.openForReading text = .ok (location, object)) (hne : location ≠ target) :
    (fs.put target (.file content)).openForReading text = .ok (location, object) := by
  have hfind := find_put hfill content (find_of_openForReading h)
  have hplace : (Place.occupied location object).location ≠ target := hne
  rw [filledPlace_of_ne content hplace] at hfind
  rw [openForReading, hfind]

/-- Every path that leads to the place of a file that has been filled reads what it was filled
with. -/
theorem openForReading_put_self (hfill : fs.Fillable target) (content : ByteArray) {text : String}
    {place : Place} (h : fs.find .use text = .ok place) (heq : place.location = target) :
    (fs.put target (.file content)).openForReading text = .ok (target, .file content) := by
  have hfind := find_put hfill content h
  rw [filledPlace_of_eq content heq] at hfind
  rw [openForReading, hfind]

/-! ### Writing -/

/-- Without following a link, a walk to a file that may be made is a walk for any use. -/
theorem advance_use_of_create (fs : FileSystem) (here : Location) (steps : List Step) :
    (∃ e, fs.advance .create here steps = .finished (.error e)) ∨
      fs.advance .use here steps = fs.advance .create here steps := by
  generalize hpurpose : Purpose.create = purpose
  fun_induction advance fs purpose here steps with
  | case1 => exact .inr rfl
  | case2 here rest ih => exact ih
  | case3 here rest ih => exact ih
  | case4 here rest ih => exact ih
  | case5 => exact .inl ⟨_, rfl⟩
  | case6 => exact .inl ⟨_, rfl⟩
  | case7 here name rest hslash hshort hnone =>
      right
      rw [advance, if_neg (by simp), if_neg hshort, hnone]
  | case8 here name rest hslash hshort hdirectory ih =>
      rw [advance, if_neg (by simp), if_neg hshort, hdirectory]
      exact ih
  | case9 here name rest hslash hshort link hlink hend =>
      rw [← hpurpose] at hend
      exact absurd hend.2 (by decide)
  | case10 here name rest hslash hshort link hlink hend =>
      right
      rw [advance, if_neg (by simp), if_neg hshort, hlink]
      simp
  | case11 here name rest hslash hshort object hdirectory hlink hobject =>
      right
      rw [advance, if_neg (by simp), if_neg hshort, hobject]
      cases object <;> simp_all

/-- Where a file can be opened or made by a path, the path leads there for any use. -/
theorem find_use_of_create {text : String} {place : Place} (h : fs.find .create text = .ok place) :
    fs.find .use text = .ok place := by
  rw [find] at h ⊢
  split at h
  · cases h
  · refine walk_of_advance ?_ ?_ (Standing.startOf _ fs.standing_workingDirectory) h
    · intro here steps _ hstop
      rcases fs.advance_use_of_create here steps with ⟨e, herror⟩ | hsame
      · rw [hstop] at herror; cases herror
      · rw [hsame, hstop]
    · intro here steps directory text rest _ hstop
      rcases fs.advance_use_of_create here steps with ⟨e, herror⟩ | hsame
      · rw [hstop] at herror; cases herror
      · rw [hsame, hstop]

/-- Opening a file for writing finds the place for it and leaves an empty file there. -/
theorem find_of_openForWriting {opened : FileSystem} {text : String}
    (h : fs.openForWriting text = .ok (.file target, opened)) :
    fs.Fillable target ∧ opened = fs.put target (.file ByteArray.empty) ∧
      ∃ place, fs.find .create text = .ok place ∧ place.location = target := by
  rw [openForWriting] at h
  split at h
  · cases h
  · next directory name hfind => cases h; exact ⟨.inl (find_sound hfind).2, rfl, _, hfind, rfl⟩
  · next location old hfind => cases h; exact ⟨.inr ⟨old, (find_sound hfind).1⟩, rfl, _, hfind, rfl⟩
  · cases h
  · cases h
  · cases h

/-- A path that was opened for writing reads what is written through it. -/
theorem openForReading_of_openForWriting {opened : FileSystem} {text : String}
    (h : fs.openForWriting text = .ok (.file target, opened)) (content : ByteArray) :
    (opened.put target (.file content)).openForReading text =
      .ok (target, .file content) := by
  obtain ⟨hfill, rfl, place, hfind, hlocation⟩ := find_of_openForWriting h
  rw [put_put]
  exact openForReading_put_self hfill content (find_use_of_create hfind) hlocation

end FileSystem

end FixtureKit

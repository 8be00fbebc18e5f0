import FixtureKit.Proofs.FileSystem.Filling
import FixtureKit.Proofs.FileSystem.PathText

/-!
# Walks to Names Joined to a Directory

A walk along the steps of a path with more steps behind them goes as far as the walk along
the path alone goes, following the same links, and takes the other steps from the directory
at its end. Several names that are joined to one path are therefore looked up in one and
the same directory.

## Main results

* `walk_append`: a walk that goes on behind a directory starts again there.
* `exists_of_walk_append`: a walk that goes on behind a path has come to a directory.
* `find_create_of_use`: what is not a directory is found by a path for a file as well.
* `reaches_of_plain`: where a plain file or nothing stands under a joined name, every walk leads
  to the place in the directory.
-/

namespace FixtureKit

namespace FileSystem

variable {fs : FileSystem}

/-! ### Going on behind a directory -/

/-- What a walk does that goes on by more steps from where another one stops. -/
def goOn (fs : FileSystem) (purpose : Purpose) (more : List Step) : Stop → Stop
  | .finished (.ok (.occupied location .directory)) => fs.advance purpose location more
  | .finished (.ok (.occupied _ _)) => .finished (.error .notADirectory)
  | .finished (.ok (.vacant _ _)) => .finished (.error .notFound)
  | .finished (.error e) => .finished (.error e)
  | .atLink directory text rest => .atLink directory text (rest ++ more)

/-- Steps that a walk can go on by. A file that may be made has no slash behind its name. -/
def CanFollow (purpose : Purpose) (more : List Step) : Prop :=
  more ≠ [] ∧ (purpose = .create → more ≠ [.slash])

/-- Steps that a walk can go on by do not turn the steps in front of them into a mere slash. -/
theorem CanFollow.append {purpose : Purpose} {more : List Step} (h : CanFollow purpose more)
    (rest : List Step) : ¬(purpose = .create ∧ rest ++ more = [.slash]) := by
  rintro ⟨hpurpose, hslash⟩
  rcases List.append_eq_singleton_iff.1 hslash with ⟨-, hmore⟩ | ⟨-, hmore⟩
  · exact h.2 hpurpose hmore
  · exact h.1 hmore

/-- Going along steps that are followed by others is going along the first ones, as those of a
directory that is used, and then on along the others. -/
theorem advance_append {purpose : Purpose} {more : List Step} (h : CanFollow purpose more)
    (here : Location) (steps : List Step) :
    fs.advance purpose here (steps ++ more) =
      fs.goOn purpose more (fs.advance .use here steps) := by
  have hmore (rest : List Step) : (rest ++ more).isEmpty = false := by
    rw [List.isEmpty_eq_false_iff]
    exact List.append_ne_nil_of_right_ne_nil rest h.1
  generalize hpurpose : Purpose.use = first
  fun_induction advance fs first here steps with
  | case1 here => rfl
  | case2 here rest ih => exact ih
  | case3 here rest ih => exact ih
  | case4 here rest ih => exact ih
  | case5 here name rest hslash =>
      rw [← hpurpose] at hslash
      exact absurd hslash.1 (by decide)
  | case6 here name rest hslash hlong =>
      rw [List.cons_append, advance, if_neg (h.append rest), if_pos hlong]
      rfl
  | case7 here name rest hslash hshort hnone =>
      rw [List.cons_append, advance, if_neg (h.append rest), if_neg hshort, hnone]
      simp only [hmore]
      cases rest <;> rfl
  | case8 here name rest hslash hshort hdirectory ih =>
      rw [List.cons_append, advance, if_neg (h.append rest), if_neg hshort, hdirectory]
      exact ih
  | case9 here name rest hslash hshort link hlink hend =>
      rw [← hpurpose] at hend
      exact absurd hend.2 (by decide)
  | case10 here name rest hslash hshort link hlink hend =>
      rw [List.cons_append, advance, if_neg (h.append rest), if_neg hshort, hlink]
      simp [hmore, goOn]
  | case11 here name rest hslash hshort object hdirectory hlink hobject =>
      rw [List.cons_append, advance, if_neg (h.append rest), if_neg hshort, hobject]
      cases object with
      | directory => exact absurd rfl hdirectory
      | link text => exact absurd rfl (hlink text)
      | file content => simp only [hmore]; cases rest <;> rfl
      | fullDevice => simp only [hmore]; cases rest <;> rfl

/-- A walk that goes on behind a directory starts again there, with the links that are left. -/
theorem walk_append {links : Nat} {here location : Location} {steps : List Step}
    (hwalk : fs.walk .use links here steps = .ok (.occupied location .directory)) :
    ∃ left, ∀ purpose more, CanFollow purpose more →
      fs.walk purpose links here (steps ++ more) = fs.walk purpose left location more := by
  induction links generalizing here steps with
  | zero =>
      refine ⟨0, fun purpose more hmore => ?_⟩
      rw [walk] at hwalk
      split at hwalk
      · next result hstop =>
          subst hwalk
          rw [walk, walk, advance_append hmore, hstop]
          rfl
      · cases hwalk
  | succ links ih =>
      rw [walk] at hwalk
      split at hwalk
      · next result hstop =>
          subst hwalk
          refine ⟨links + 1, fun purpose more hmore => ?_⟩
          rw [walk, walk, advance_append hmore, hstop]
          rfl
      · next directory text rest hstop =>
          obtain ⟨left, hleft⟩ := ih hwalk
          refine ⟨left, fun purpose more hmore => ?_⟩
          rw [walk, advance_append hmore, hstop]
          simp only [goOn]
          rw [← List.append_assoc]
          exact hleft purpose more hmore

/-- A walk goes on from where another one has finished only if that is a directory. Otherwise it
fails. -/
theorem goOn_finished (fs : FileSystem) (purpose : Purpose) (more : List Step)
    (result : Except IoError Place) :
    (∃ location, result = .ok (.occupied location .directory)) ∨
      ∃ e, fs.goOn purpose more (.finished result) = .finished (.error e) := by
  cases result with
  | error e => exact .inr ⟨e, rfl⟩
  | ok place =>
      cases place with
      | vacant directory name => exact .inr ⟨_, rfl⟩
      | occupied location object =>
          cases object with
          | directory => exact .inl ⟨location, rfl⟩
          | file content => exact .inr ⟨_, rfl⟩
          | link text => exact .inr ⟨_, rfl⟩
          | fullDevice => exact .inr ⟨_, rfl⟩

/-- A walk that goes on behind a path has come to a directory. -/
theorem exists_of_walk_append {purpose : Purpose} {more : List Step}
    (hmore : CanFollow purpose more) {links : Nat} {here : Location} {steps : List Step}
    {place : Place} (hwalk : fs.walk purpose links here (steps ++ more) = .ok place) :
    ∃ location, fs.walk .use links here steps = .ok (.occupied location .directory) := by
  induction links generalizing here steps with
  | zero =>
      rw [walk, advance_append hmore] at hwalk
      rw [walk]
      cases hstop : fs.advance .use here steps with
      | finished result =>
          rcases fs.goOn_finished purpose more result with hdirectory | ⟨e, herror⟩
          · exact hdirectory
          · rw [hstop, herror] at hwalk; cases hwalk
      | atLink directory text rest => rw [hstop] at hwalk; cases hwalk
  | succ links ih =>
      rw [walk, advance_append hmore] at hwalk
      rw [walk]
      cases hstop : fs.advance .use here steps with
      | finished result =>
          rcases fs.goOn_finished purpose more result with hdirectory | ⟨e, herror⟩
          · exact hdirectory
          · rw [hstop, herror] at hwalk; cases hwalk
      | atLink directory text rest =>
          rw [hstop] at hwalk
          simp only [goOn] at hwalk
          rw [← List.append_assoc] at hwalk
          exact ih hwalk

/-! ### Paths to what is not a directory -/

/-- At the entry of a name, whatever it is, a walk for entries ends. -/
theorem walk_entry_name {location : Location} {name : String} {object : Object} (left : Nat)
    (hshort : name.utf8ByteSize ≤ nameLimit) (hget : fs.get? (name :: location) = some object) :
    fs.walk .entry left location [.name name] = .ok (.occupied (name :: location) object) := by
  have hadvance : fs.advance .entry location [.name name] =
      .finished (.ok (.occupied (name :: location) object)) := by
    rw [advance, if_neg (by simp), if_neg (Nat.not_lt.2 hshort), hget]
    cases object with
    | directory => rfl
    | _ => simp
  cases left <;> rw [walk, hadvance]

/-- At a name that stands for a file or for nothing, every walk ends. -/
theorem exists_walk_name {location : Location} {name : String}
    (hshort : name.utf8ByteSize ≤ nameLimit) (hfill : fs.Fillable (name :: location)) :
    ∃ place, place.location = name :: location ∧
      ∀ purpose left, fs.walk purpose left location [.name name] = .ok place := by
  rcases hfill with hnone | ⟨content, hfile⟩
  · refine ⟨.vacant location name, rfl, fun purpose left => ?_⟩
    have hadvance : fs.advance purpose location [.name name] =
        .finished (.ok (.vacant location name)) := by
      rw [advance, if_neg (by simp), if_neg (Nat.not_lt.2 hshort), hnone]
      rfl
    cases left <;> rw [walk, hadvance]
  · refine ⟨.occupied (name :: location) (.file content), rfl, fun purpose left => ?_⟩
    have hadvance : fs.advance purpose location [.name name] =
        .finished (.ok (.occupied (name :: location) (.file content))) := by
      rw [advance, if_neg (by simp), if_neg (Nat.not_lt.2 hshort), hfile]
      rfl
    cases left <;> rw [walk, hadvance]

/-! ### Paths to files -/

/-- Every walk along a path leads to one location, at which a file or nothing stands. -/
def Reaches (fs : FileSystem) (text : String) (target : Location) : Prop :=
  fs.Fillable target ∧
    ∃ place, place.location = target ∧ ∀ purpose, fs.find purpose text = .ok place

/-- A path at which a plain file stands, which is neither a link nor a directory, or nothing at
all. -/
def Plain (fs : FileSystem) (text : String) : Prop :=
  (∃ directory name, fs.find .entry text = .ok (.vacant directory name)) ∨
    ∃ location content, fs.find .entry text = .ok (.occupied location (.file content))

/-- The directory that the path of a directory leads to, slashes at its end apart. -/
def Home (fs : FileSystem) (directory : String) (location : Location) : Prop :=
  fs.walk .use linkLimit (startOf (Path.ofText directory) fs.workingDirectory)
    (Path.innerSteps directory.toList) = .ok (.occupied location .directory)

/-- A path leads home to one location. -/
theorem Home.unique {directory : String} {location other : Location}
    (h : fs.Home directory location) (hother : fs.Home directory other) : location = other := by
  rw [Home, h] at hother
  cases hother
  rfl

/-- A walk can go on by a name, whatever its purpose. -/
theorem canFollow_name (purpose : Purpose) (name : String) :
    CanFollow purpose [.name name] :=
  ⟨by simp, by simp⟩

/-- A path that leads somewhere has a text that is taken. -/
theorem parse_of_find {purpose : Purpose} {text : String} {place : Place}
    (h : fs.find purpose text = .ok place) : Path.parse text = .ok (Path.ofText text) := by
  rw [find] at h
  split at h
  · cases h
  · next path hparse => rw [hparse, Path.eq_ofText_of_parse hparse]

/-- Once one walk along a joined text has come to a place, every walk along it takes the steps
of the directory and then the name. -/
theorem find_join {directory name : String} (hname : Path.IsName name) {purpose : Purpose}
    {place : Place} (h : fs.find purpose (Path.join directory name) = .ok place)
    (other : Purpose) :
    fs.find other (Path.join directory name) =
      fs.walk other linkLimit (startOf (Path.ofText directory) fs.workingDirectory)
        (Path.innerSteps directory.toList ++ [.name name]) := by
  rw [find, parse_of_find h, Path.ofText_join directory hname]
  rfl

/-- A name that leads somewhere is not too long. -/
theorem short_of_walk_name {purpose : Purpose} {left : Nat} {location : Location} {name : String}
    {place : Place} (h : fs.walk purpose left location [.name name] = .ok place) :
    name.utf8ByteSize ≤ nameLimit := by
  refine Nat.le_of_not_lt fun hlong => ?_
  have hadvance : fs.advance purpose location [.name name] =
      .finished (.error .nameTooLong) := by
    rw [advance, if_neg (by simp), if_pos hlong]
  cases left <;> (rw [walk, hadvance] at h; cases h)

/-- A path of a plain file leads to a place at which no other object stands. -/
theorem Plain.exists_find {text : String} (h : fs.Plain text) :
    ∃ place, fs.find .entry text = .ok place ∧
      ∀ location object, place = .occupied location object → ∃ content, object = .file content := by
  rcases h with ⟨directory, name, hvacant⟩ | ⟨location, content, hfile⟩
  · exact ⟨_, hvacant, nofun⟩
  · exact ⟨_, hfile, fun _ _ heq => ⟨content, by cases heq; rfl⟩⟩

/-- Where a plain file or nothing stands under a joined name, the path of the directory leads to
its home, and every walk to the file leads to the name there. -/
theorem reaches_of_plain {directory name : String} (hname : Path.IsName name)
    (h : fs.Plain (Path.join directory name)) :
    ∃ location, fs.Home directory location ∧
      fs.Reaches (Path.join directory name) (name :: location) := by
  obtain ⟨place, hentry, hplain⟩ := h.exists_find
  have hfind (purpose : Purpose) := find_join hname hentry purpose
  rw [hfind] at hentry
  obtain ⟨location, hhome⟩ := exists_of_walk_append (canFollow_name .entry name) hentry
  obtain ⟨left, hleft⟩ := walk_append hhome
  have hlast (purpose : Purpose) : fs.find purpose (Path.join directory name) =
      fs.walk purpose left location [.name name] := by
    rw [hfind, hleft purpose _ (canFollow_name purpose name)]
  rw [hleft .entry _ (canFollow_name .entry name)] at hentry
  have hshort := short_of_walk_name hentry
  have hfill : fs.Fillable (name :: location) := by
    cases hget : fs.get? (name :: location) with
    | none => exact .inl hget
    | some object =>
        rw [walk_entry_name left hshort hget] at hentry
        obtain ⟨content, rfl⟩ := hplain _ _ (Except.ok.inj hentry).symm
        exact .inr ⟨content, hget⟩
  obtain ⟨place, hplace, hwalk⟩ := exists_walk_name hshort hfill
  exact ⟨location, hhome, hfill, place, hplace, fun purpose => by rw [hlast, hwalk]⟩

/-! ### Files that are filled -/

section Filled

variable {text : String} {target : Location}

/-- A path that reaches a location still does when some file has been filled. -/
theorem Reaches.put {other : Location} (h : fs.Reaches text target) (hother : fs.Fillable other)
    (content : ByteArray) : (fs.put other (.file content)).Reaches text target := by
  obtain ⟨hfill, place, hplace, hfind⟩ := h
  refine ⟨hother.put hfill content, filledPlace other content place, ?_, fun purpose =>
    find_put hother content (hfind purpose)⟩
  by_cases heq : place.location = other
  · rw [filledPlace_of_eq content heq]
    exact heq.symm.trans hplace
  · rw [filledPlace_of_ne content heq, hplace]

/-- At a path that is reached stands a plain file or nothing. -/
theorem Reaches.plain (h : fs.Reaches text target) : fs.Plain text := by
  obtain ⟨hfill, place, rfl, hfind⟩ := h
  cases place with
  | vacant directory name => exact .inl ⟨directory, name, hfind .entry⟩
  | occupied location object =>
      have hget : fs.get? location = some object := (find_sound (hfind .entry)).1
      obtain ⟨content, rfl⟩ := hfill.exists_file hget
      exact .inr ⟨location, content, hfind .entry⟩

/-- Where a plain file or nothing stands after some file has been filled, the same was so before. -/
theorem Plain.of_put {text : String} {other : Location} (hfill : fs.Fillable other)
    (content : ByteArray) (h : (fs.put other (.file content)).Plain text) : fs.Plain text := by
  obtain ⟨filled, hfilled, hkind⟩ := h.exists_find
  obtain ⟨place, hplace, rfl⟩ := exists_find_of_put hfill content hfilled
  cases place with
  | vacant directory name => exact .inl ⟨directory, name, hplace⟩
  | occupied location object =>
      have hget : fs.get? location = some object := (find_sound hplace).1
      by_cases heq : location = other
      · obtain ⟨old, rfl⟩ := hfill.exists_file (heq ▸ hget)
        exact .inr ⟨location, old, hplace⟩
      · obtain ⟨old, rfl⟩ := hkind location object (filledPlace_of_ne content heq)
        exact .inr ⟨location, old, hplace⟩

/-- A file that is reached can be made or emptied. -/
theorem Reaches.openForWriting (h : fs.Reaches text target) :
    fs.openForWriting text = .ok (.file target, fs.put target (.file ByteArray.empty)) := by
  obtain ⟨hfill, place, rfl, hfind⟩ := h
  have hsound := find_sound (hfind .create)
  rw [FileSystem.openForWriting, hfind]
  cases place with
  | vacant directory name => rfl
  | occupied location object =>
      have hget : fs.get? location = some object := hsound.1
      obtain ⟨content, rfl⟩ := hfill.exists_file hget
      rfl

/-- A file that has been filled is read by the path that reaches it. -/
theorem Reaches.openForReading_put (h : fs.Reaches text target) (content : ByteArray) :
    (fs.put target (.file content)).openForReading text = .ok (target, .file content) := by
  obtain ⟨hfill, place, hplace, hfind⟩ := h
  exact openForReading_put_self hfill content (hfind .use) hplace

end Filled

/-- The home of a directory stays the same when some file is filled. -/
theorem Home.put {directory : String} {location target : Location}
    (h : fs.Home directory location) (hfill : fs.Fillable target) (content : ByteArray) :
    (fs.put target (.file content)).Home directory location := by
  have hstanding := Standing.startOf (Path.ofText directory) fs.standing_workingDirectory
  have hlocation := (walk_sound hstanding h).1
  have hne : (Place.occupied location .directory).location ≠ target := by
    rintro rfl
    obtain ⟨old, hfile⟩ := hfill.exists_file hlocation
    cases hfile
  have hwalk := walk_put hfill content hstanding h
  rwa [filledPlace_of_ne content hne] at hwalk

end FileSystem

end FixtureKit

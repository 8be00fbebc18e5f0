import FixtureKit.FileSystem.Walk
import FixtureKit.Proofs.FileSystem.PathText

/-!
# Rows of Names

A relative path of ordinary names, with a slash between each two, is read as just these names. They
lead down from the working directory for as long as there is a directory of the next name. Where
the first is missing or something else stands there, the walk ends, and how it ends depends only on
what stands there and on whether more names follow.

## Main results

* `Path.parse_intercalate`: the text of some names is read as these names.
* `FileSystem.standing_below_or_exists`: names lead to a directory, or there is a first that does
  not.
* `FileSystem.locate_of_standing`, `FileSystem.locate_of_vacant`, `FileSystem.locate_of_object`:
  where a walk along names ends.
-/

namespace FixtureKit

/-! ### Names in texts -/

namespace Path

/-- A name that may stand anywhere in a path and is nothing but a name. -/
structure IsOrdinary (name : String) : Prop where
  ne_empty : name ≠ ""
  ne_stay : name ≠ "."
  ne_up : name ≠ ".."
  noSlash : '/' ∉ name.toList
  noNul : '\x00' ∉ name.toList
  short : name.utf8ByteSize ≤ FileSystem.nameLimit

instance (name : String) : Decidable (IsOrdinary name) :=
  decidable_of_iff (name ≠ "" ∧ name ≠ "." ∧ name ≠ ".." ∧ '/' ∉ name.toList ∧
      '\x00' ∉ name.toList ∧ name.utf8ByteSize ≤ FileSystem.nameLimit)
    ⟨fun ⟨empty, stay, up, slash, nul, short⟩ => ⟨empty, stay, up, slash, nul, short⟩,
      fun h => ⟨h.ne_empty, h.ne_stay, h.ne_up, h.noSlash, h.noNul, h.short⟩⟩

/-- An ordinary name is a name: it is one step. -/
theorem IsOrdinary.isName {name : String} (h : IsOrdinary name) : IsName name where
  noSlash := h.noSlash
  step := by
    have hname : String.ofList name.toList = name := String.ofList_toList
    rw [stepOfPiece.eq_def]
    split
    · next hnil => exact absurd (hname.symm.trans (congrArg String.ofList hnil)) h.ne_empty
    · next hstay => exact absurd (hname.symm.trans (congrArg String.ofList hstay)) h.ne_stay
    · next hup => exact absurd (hname.symm.trans (congrArg String.ofList hup)) h.ne_up
    · rw [hname]

/-- The relative path of some names. -/
def ofNames (names : List String) : Path :=
  ⟨false, names.map .name⟩

/-- A path of names has no step at its end to be left out. -/
theorem trimmed_ofNames (names : List String) : (ofNames names).trimmed = ofNames names := by
  have hname : ∀ step ∈ names.map Step.name, decide (step ≠ .slash) = true := by simp
  rw [trimmed, ofNames, List.filter_eq_self.2 hname]

/-- The text of some names starts with the first. -/
theorem toList_intercalate_cons (name : String) (rest : List String) :
    ("/".intercalate (name :: rest)).toList =
      name.toList ++ if rest = [] then [] else '/' :: ("/".intercalate rest).toList := by
  cases rest with
  | nil => simp
  | cons next rest =>
      rw [String.intercalate_cons_cons, String.toList_append, String.toList_append,
        if_neg (by simp), List.append_assoc]
      rfl

/-- The text of some names ends with the last. -/
theorem exists_toList_intercalate_concat (front : List String) (name : String) :
    ∃ text, ("/".intercalate (front ++ [name])).toList = text ++ name.toList := by
  induction front with
  | nil => exact ⟨[], by simp⟩
  | cons first front ih =>
      obtain ⟨text, htext⟩ := ih
      refine ⟨first.toList ++ '/' :: text, ?_⟩
      rw [List.cons_append, toList_intercalate_cons, if_neg (by simp), htext]
      simp

variable {names : List String}

/-- The steps of ordinary names with slashes between them are the names. -/
theorem innerSteps_intercalate (hnames : ∀ name ∈ names, IsOrdinary name) :
    innerSteps ("/".intercalate names).toList = names.map .name := by
  induction names with
  | nil => rfl
  | cons name rest ih =>
      have hname := innerSteps_of_isName (hnames name List.mem_cons_self).isName
      have hrest := ih fun other hmem => hnames other (List.mem_cons_of_mem _ hmem)
      rw [toList_intercalate_cons, List.map_cons]
      split
      · next hnil => rw [hnil, List.append_nil, hname, List.map_nil]
      · rw [innerSteps_append_cons_slash, hname, hrest, List.singleton_append]

/-- A text of ordinary names with slashes between them is read as their path. -/
theorem ofText_intercalate (hnonempty : names ≠ []) (hnames : ∀ name ∈ names, IsOrdinary name) :
    ofText ("/".intercalate names) = ofNames names := by
  have hhead : ("/".intercalate names).toList.head? ≠ some '/' := by
    obtain ⟨first, rest, rfl⟩ := List.exists_cons_of_ne_nil hnonempty
    rw [toList_intercalate_cons]
    exact (hnames first List.mem_cons_self).isName.head?_append_ne _
  have hlast : ("/".intercalate names).toList.getLast? ≠ some '/' := by
    obtain ⟨text, htext⟩ :=
      exists_toList_intercalate_concat names.dropLast (names.getLast hnonempty)
    rw [List.dropLast_concat_getLast] at htext
    rw [htext]
    exact (hnames _ (List.getLast_mem hnonempty)).isName.getLast?_append_ne text
  have hsteps : stepsOfText ("/".intercalate names).toList = names.map .name := by
    rw [← innerSteps_intercalate hnames, stepsOfText]
    exact if_neg fun hslash => hlast hslash.2
  rw [ofText, hsteps, decide_eq_false hhead, ofNames]

/-- Slashes between ordinary names do not bring in a character that no path can have. -/
theorem nul_notMem_intercalate (hnames : ∀ name ∈ names, IsOrdinary name) :
    '\x00' ∉ ("/".intercalate names).toList := by
  induction names with
  | nil => simp
  | cons name rest ih =>
      have hname := (hnames name List.mem_cons_self).noNul
      have hrest := ih fun other hmem => hnames other (List.mem_cons_of_mem _ hmem)
      rw [toList_intercalate_cons, List.mem_append]
      rintro (hmem | hmem)
      · exact hname hmem
      · split at hmem
        · cases hmem
        · rcases List.mem_cons.1 hmem with hslash | hmem
          · exact absurd hslash (by decide)
          · exact hrest hmem

/-- The text of at least one ordinary name is not empty. -/
theorem isEmpty_intercalate (hnonempty : names ≠ [])
    (hnames : ∀ name ∈ names, IsOrdinary name) : ("/".intercalate names).isEmpty = false := by
  obtain ⟨first, rest, rfl⟩ := List.exists_cons_of_ne_nil hnonempty
  rw [Bool.eq_false_iff, Ne, String.isEmpty_iff]
  intro hempty
  have hnil := congrArg String.toList hempty
  rw [toList_intercalate_cons] at hnil
  exact (hnames first List.mem_cons_self).isName.ne_nil (List.append_eq_nil_iff.1 hnil).1

/-- The text of some names is read as these names. -/
theorem parse_intercalate (hnonempty : names ≠ []) (hnames : ∀ name ∈ names, IsOrdinary name)
    (hlength : ("/".intercalate names).utf8ByteSize < lengthLimit) :
    parse ("/".intercalate names) = .ok (ofNames names) := by
  rw [parse, if_neg, isEmpty_intercalate hnonempty hnames, if_neg Bool.false_ne_true,
    if_neg (Nat.not_le_of_gt hlength), ofText_intercalate hnonempty hnames]
  simpa using nul_notMem_intercalate hnames

end Path

namespace FileSystem

variable {fs : FileSystem} {here : Location} {name : String} {names front : List String}

/-! ### The way down -/

/-- Where names lead that are taken one after the other from a directory. -/
def below (here : Location) (names : List String) : Location :=
  names.reverse ++ here

@[simp]
theorem below_nil (here : Location) : below here [] = here := rfl

/-- The first name leads down from where a walk stands, and the others from there. -/
theorem below_cons (here : Location) (name : String) (names : List String) :
    below here (name :: names) = below (name :: here) names := by
  rw [below, below, List.reverse_cons, List.append_assoc, List.singleton_append]

/-- The last name is the location's own. -/
theorem below_concat (here : Location) (names : List String) (name : String) :
    below here (names ++ [name]) = name :: below here names := by
  rw [below, below, List.reverse_append, List.reverse_singleton, List.singleton_append,
    List.cons_append]

/-- Different names lead to different locations. -/
theorem below_injective (here : Location) : Function.Injective (below here) :=
  fun _ _ h => List.reverse_inj.1 (List.append_cancel_right h)

/-- Where the first of some names lead is above where all of them do. -/
theorem below_suffix (here : Location) (h : front <+: names) :
    below here front <:+ below here names := by
  obtain ⟨rest, rfl⟩ := h
  exact ⟨rest.reverse, by rw [below, below, List.reverse_append, List.append_assoc]⟩

/-- Above a standing directory, down from where a walk started, there is a directory at each of its
names. -/
theorem Standing.get?_below (h : fs.Standing (below here names)) (hfront : front <+: names) :
    fs.get? (below here front) = some .directory :=
  h _ (below_suffix here hfront)

/-- Names lead to a directory if all along there are directories. -/
theorem standing_below (hhere : fs.Standing here)
    (h : ∀ front, front <+: names → fs.get? (below here front) = some .directory) :
    fs.Standing (below here names) := by
  induction names generalizing here with
  | nil => exact hhere
  | cons name names ih =>
      have hname : fs.get? (name :: here) = some .directory :=
        h [name] (List.prefix_append [name] names)
      rw [below_cons]
      refine ih (hhere.cons hname) fun front hfront => ?_
      rw [← below_cons]
      exact h (name :: front) (List.cons_prefix_cons.2 ⟨rfl, hfront⟩)

/-- Names lead to a directory, or there is a first that does not. -/
theorem standing_below_or_exists (hhere : fs.Standing here) (names : List String) :
    fs.Standing (below here names) ∨
      ∃ front name more, names = front ++ name :: more ∧ fs.Standing (below here front) ∧
        fs.get? (name :: below here front) ≠ some .directory := by
  induction names generalizing here with
  | nil => exact .inl hhere
  | cons first names ih =>
      by_cases hfirst : fs.get? (first :: here) = some .directory
      · rcases ih (hhere.cons hfirst) with hstanding | ⟨front, name, more, rfl, hfront, hname⟩
        · left
          rwa [below_cons]
        · right
          rw [← below_cons] at hfront hname
          exact ⟨first :: front, name, more, rfl, hfront, hname⟩
      · exact .inr ⟨[], first, names, rfl, hhere, hfirst⟩

/-! ### Walking -/

variable {purpose : Purpose}

/-- Along directories a walk goes on. -/
theorem advance_below (hpurpose : purpose ≠ .create) (hnames : ∀ name ∈ names, Path.IsOrdinary name)
    (h : fs.Standing (below here names)) (rest : List Step) :
    fs.advance purpose here (names.map .name ++ rest) =
      fs.advance purpose (below here names) rest := by
  induction names generalizing here with
  | nil => rfl
  | cons name names ih =>
      have hname : fs.get? (name :: here) = some .directory :=
        h.get?_below (List.prefix_append [name] names)
      have hlong : ¬nameLimit < name.utf8ByteSize :=
        Nat.not_lt_of_ge (hnames name List.mem_cons_self).short
      rw [below_cons] at h ⊢
      rw [List.map_cons, List.cons_append, advance, if_neg fun hcreate => hpurpose hcreate.1,
        if_neg hlong, hname]
      exact ih (fun other hmem => hnames other (List.mem_cons_of_mem _ hmem)) h

/-- A walk that meets no link ends where it would end without following any. -/
theorem locate_of_advance {result : Except IoError Place}
    (h : fs.advance purpose fs.workingDirectory (names.map .name) = .finished result) :
    fs.locate purpose (.ofNames names) = result := by
  change fs.walk purpose linkLimit fs.workingDirectory (names.map .name) = result
  rw [linkLimit, walk, h]

/-- Names that all lead to directories lead to the last of them. -/
theorem locate_of_standing (hpurpose : purpose ≠ .create)
    (hnames : ∀ name ∈ names, Path.IsOrdinary name)
    (h : fs.Standing (below fs.workingDirectory names)) :
    fs.locate purpose (.ofNames names) =
      .ok (.occupied (below fs.workingDirectory names) .directory) := by
  refine locate_of_advance ?_
  have hadvance := advance_below hpurpose hnames h []
  rw [List.append_nil] at hadvance
  rw [hadvance, advance]

/-- The first name that is missing is the end of the walk, in vain if more follow. -/
theorem locate_of_vacant {more : List String} (hpurpose : purpose ≠ .create)
    (hnames : ∀ other ∈ front ++ name :: more, Path.IsOrdinary other)
    (h : fs.Standing (below fs.workingDirectory front))
    (hvacant : fs.get? (name :: below fs.workingDirectory front) = none) :
    fs.locate purpose (.ofNames (front ++ name :: more)) =
      if more = [] then .ok (.vacant (below fs.workingDirectory front) name)
      else .error .notFound := by
  have hlong : ¬nameLimit < name.utf8ByteSize :=
    Nat.not_lt_of_ge (hnames name (by simp)).short
  have hfront := fun other hmem => hnames other (List.mem_append_left _ hmem)
  refine locate_of_advance ?_
  rw [List.map_append, advance_below hpurpose hfront h, List.map_cons, advance,
    if_neg fun hcreate => hpurpose hcreate.1, if_neg hlong, hvacant]
  simp [List.isEmpty_iff]

/-- Something else than a directory, or a link, is the end of the walk, in vain if more names
follow. -/
theorem locate_of_object {more : List String} {object : Object} (hpurpose : purpose ≠ .create)
    (hnames : ∀ other ∈ front ++ name :: more, Path.IsOrdinary other)
    (h : fs.Standing (below fs.workingDirectory front))
    (hobject : fs.get? (name :: below fs.workingDirectory front) = some object)
    (hdirectory : object ≠ .directory) (hlink : ∀ target, object ≠ .link target) :
    fs.locate purpose (.ofNames (front ++ name :: more)) =
      if more = [] then .ok (.occupied (name :: below fs.workingDirectory front) object)
      else .error .notADirectory := by
  have hlong : ¬nameLimit < name.utf8ByteSize :=
    Nat.not_lt_of_ge (hnames name (by simp)).short
  have hfront := fun other hmem => hnames other (List.mem_append_left _ hmem)
  refine locate_of_advance ?_
  rw [List.map_append, advance_below hpurpose hfront h, List.map_cons, advance,
    if_neg fun hcreate => hpurpose hcreate.1, if_neg hlong, hobject]
  cases object with
  | directory => exact absurd rfl hdirectory
  | link target => exact absurd rfl (hlink target)
  | file content => simp [List.isEmpty_iff]
  | fullDevice => simp [List.isEmpty_iff]

end FileSystem

end FixtureKit

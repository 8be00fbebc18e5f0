import FixtureKit.FileSystem.Path

/-!
# The Steps of Joined Texts

The text of a path and a name joined to it are read as the steps of the one and the name
behind them, from the same start. A slash at the end of the path makes no difference, nor
does an empty path, which has no steps.

## Main results

* `trimmed_ofText`: without the slashes at its end, a text has its inner steps.
* `ofText_join`: the steps of a joined text.
-/

namespace FixtureKit

namespace Path

/-! ### Texts -/

/-- A text that is taken is read as the path of its steps. -/
theorem eq_ofText_of_parse {text : String} {path : Path} (h : parse text = .ok path) :
    path = ofText text := by
  rw [parse] at h
  repeat' split at h
  all_goals cases h
  rfl

/-- The steps of a text, without the one for slashes at its end. -/
def innerSteps (text : List Char) : List Step :=
  (pieces text).filterMap stepOfPiece

/-- A text that is one step by itself, a name. -/
structure IsName (name : String) : Prop where
  step : stepOfPiece name.toList = some (.name name)
  noSlash : '/' ∉ name.toList

/-- A name has at least one character. -/
theorem IsName.ne_nil {name : String} (h : IsName name) : name.toList ≠ [] := by
  intro hnil
  have hstep := h.step
  rw [hnil] at hstep
  cases hstep

/-- A text with a name at its end has no slash there. -/
theorem IsName.getLast?_append_ne {name : String} (h : IsName name) (text : List Char) :
    (text ++ name.toList).getLast? ≠ some '/' := by
  rw [List.getLast?_append]
  cases hname : name.toList.getLast? with
  | none => exact absurd (List.getLast?_eq_none_iff.1 hname) h.ne_nil
  | some c =>
      intro heq
      rw [Option.some_or] at heq
      exact h.noSlash (List.mem_of_getLast? (hname.trans heq))

/-- A text with a name at its start has no slash there. -/
theorem IsName.head?_append_ne {name : String} (h : IsName name) (text : List Char) :
    (name.toList ++ text).head? ≠ some '/' := by
  obtain ⟨c, more, hname⟩ := List.exists_cons_of_ne_nil h.ne_nil
  rw [hname]
  intro hhead
  have hslash : c = '/' := Option.some.inj hhead
  exact h.noSlash (by simp [hname, hslash])

/-- A name is one step. -/
theorem innerSteps_of_isName {name : String} (h : IsName name) :
    innerSteps name.toList = [.name name] := by
  rw [innerSteps, pieces_of_no_slash h.noSlash, List.filterMap_cons_some h.step,
    List.filterMap_nil]

/-- A slash splits a text wherever it stands. -/
theorem pieces_append_cons_slash (text more : List Char) :
    pieces (text ++ '/' :: more) = pieces text ++ pieces more := by
  induction text with
  | nil => simp [pieces]
  | cons c text ih =>
      rw [List.cons_append, pieces, pieces, ih]
      split
      · rfl
      · obtain ⟨piece, rest, hpieces⟩ := List.exists_cons_of_ne_nil (pieces_ne_nil text)
        rw [hpieces]
        rfl

/-- The steps on both sides of a slash follow each other. -/
theorem innerSteps_append_cons_slash (text more : List Char) :
    innerSteps (text ++ '/' :: more) = innerSteps text ++ innerSteps more := by
  rw [innerSteps, pieces_append_cons_slash, List.filterMap_append, innerSteps, innerSteps]

/-- Inside of a path slashes are not steps of their own. Only the one at its end is. -/
theorem slash_notMem_innerSteps (text : List Char) : .slash ∉ innerSteps text := by
  rw [innerSteps, List.mem_filterMap]
  rintro ⟨piece, -, hpiece⟩
  rw [stepOfPiece.eq_def] at hpiece
  split at hpiece <;> cases hpiece

/-- A path is absolute if its text starts with a slash. -/
theorem ofText_absolute (text : String) :
    (ofText text).absolute = decide (text.toList.head? = some '/') := rfl

/-- The steps of a text are its inner steps, with one more if slashes stand at its end. -/
theorem steps_ofText (text : String) :
    (ofText text).steps = innerSteps text.toList ∨
      (ofText text).steps = innerSteps text.toList ++ [.slash] := by
  change stepsOfText text.toList = _ ∨ stepsOfText text.toList = _
  rw [stepsOfText]
  by_cases h : innerSteps text.toList ≠ [] ∧ text.toList.getLast? = some '/'
  · exact .inr (if_pos h)
  · exact .inl (if_neg h)

/-- A path without the slash at its end has the steps inside of its text. -/
theorem trimmed_ofText (text : String) :
    (ofText text).trimmed = ⟨(ofText text).absolute, innerSteps text.toList⟩ := by
  have hinner : (innerSteps text.toList).filter (· ≠ .slash) = innerSteps text.toList := by
    rw [List.filter_eq_self]
    intro step hmem
    simp only [ne_eq, decide_not, Bool.not_eq_eq_eq_not, Bool.not_true, decide_eq_false_iff_not]
    rintro rfl
    exact slash_notMem_innerSteps _ hmem
  rw [trimmed]
  rcases steps_ofText text with hsteps | hsteps
  · rw [hsteps, hinner]
  · rw [hsteps, List.filter_append, hinner]
    simp

/-- What a joined text is made of: the name stands at its end, behind the directory and, where
none is there yet, a slash. -/
theorem toList_join (directory name : String) :
    ∃ front, (join directory name).toList = front ++ name.toList ∧
      (front = directory.toList ∧
          (directory.toList = [] ∨ directory.toList.getLast? = some '/') ∨
        front = directory.toList ++ ['/'] ∧ directory.toList ≠ []) := by
  rw [join]
  split
  · next h =>
      refine ⟨directory.toList, String.toList_append, .inl ⟨rfl, ?_⟩⟩
      rcases h with h | h
      · rw [String.isEmpty_iff] at h
        subst h
        exact .inl rfl
      · exact .inr h
  · next h =>
      refine ⟨directory.toList ++ ['/'], by simp [String.toList_append], .inr ⟨rfl, ?_⟩⟩
      intro hnil
      apply h
      left
      rw [String.isEmpty_iff]
      exact String.toList_eq_nil_iff.1 hnil

/-- A joined text is read as the steps of the directory with the name behind them, from the
same start. -/
theorem ofText_join (directory : String) {name : String} (h : IsName name) :
    ofText (join directory name) =
      ⟨(ofText directory).absolute, innerSteps directory.toList ++ [.name name]⟩ := by
  obtain ⟨front, hjoin, hfront⟩ := toList_join directory name
  have hinner : innerSteps (join directory name).toList =
      innerSteps directory.toList ++ [.name name] := by
    rw [hjoin, ← innerSteps_of_isName h]
    rcases hfront with ⟨rfl, hempty | hslash⟩ | ⟨rfl, -⟩
    · rw [hempty]
      rfl
    · obtain ⟨text, htext⟩ := List.getLast?_eq_some_iff.1 hslash
      rw [htext, List.append_assoc, List.singleton_append, innerSteps_append_cons_slash,
        innerSteps_append_cons_slash]
      simp [innerSteps, pieces, stepOfPiece]
    · rw [List.append_assoc, List.singleton_append, innerSteps_append_cons_slash]
  have hlast : (join directory name).toList.getLast? ≠ some '/' := by
    rw [hjoin]
    exact h.getLast?_append_ne front
  have hhead : ((join directory name).toList.head? = some '/') =
      (directory.toList.head? = some '/') := by
    have hname : name.toList.head? ≠ some '/' := by
      simpa using h.head?_append_ne []
    rw [hjoin]
    cases hdirectory : directory.toList with
    | nil =>
        rw [hdirectory] at hfront
        rcases hfront with ⟨rfl, -⟩ | ⟨-, hne⟩
        · simp [hname]
        · exact absurd rfl hne
    | cons c text =>
        rw [hdirectory] at hfront
        rcases hfront with ⟨rfl, -⟩ | ⟨rfl, -⟩
        · rfl
        · rfl
  have hsteps : stepsOfText (join directory name).toList =
      innerSteps directory.toList ++ [.name name] := by
    rw [← hinner]
    rw [stepsOfText]
    exact if_neg fun hslash => hlast hslash.2
  rw [ofText, hsteps, ofText_absolute]
  simp only [hhead]

end Path

end FixtureKit

/-!
# Similar Words

The similarity of two words counts the characters that they share at nearly the same place. It is
the mean of three quotients: the share of such characters in either word, and the share of them
that stand in the same order. It lies between 0 for nothing in common and 1 for equal words.

## Conventions

* Places are near if they differ by less than half the length of the longer word.
* The quotients are added from left to right in floating-point numbers, which settles what counts
  as equal.
-/

namespace FixtureKit

namespace Similarity

/-- How far apart the places of a shared character may be. -/
def reach (a b : List Char) : Nat :=
  max a.length b.length / 2 - 1

/-- Takes the first free place of a character in a stretch of places; `here` is the place at which
the rest of the word starts. Free places hold their character, taken ones nothing. -/
def take? (c : Char) (first last : Nat) : (here : Nat) → List (Option Char) →
    Option (List (Option Char))
  | _, [] => none
  | here, free :: rest =>
    if last < here then
      none
    else if first ≤ here ∧ free = some c then
      some (none :: rest)
    else
      (take? c first last (here + 1) rest).map (free :: ·)

/-- The characters of a word that find a free place in the other, in order, and what is left free
of the other. The first character of the word stands at `here`. -/
def matchedFrom (reach : Nat) : (here : Nat) → List Char → List (Option Char) →
    List Char × List (Option Char)
  | _, [], free => ([], free)
  | here, c :: rest, free =>
    match take? c (here - reach) (here + reach) 0 free with
    | some taken =>
      let (matched, left) := matchedFrom reach (here + 1) rest taken
      (c :: matched, left)
    | none => matchedFrom reach (here + 1) rest free

/-- The characters of a word that stand at taken places. -/
def takenOf : List Char → List (Option Char) → List Char
  | c :: rest, none :: free => c :: takenOf rest free
  | _ :: rest, some _ :: free => takenOf rest free
  | _, _ => []

/-- The number of places at which two rows of characters differ. -/
def differences (a b : List Char) : Nat :=
  (List.zip a b).countP fun pair => pair.1 ≠ pair.2

end Similarity

open Similarity in
/-- The similarity of two words. -/
def similarity (a b : List Char) : Float :=
  if a.isEmpty ∧ b.isEmpty then
    1.0
  else
    let (matched, left) := matchedFrom (reach a b) 0 a (b.map some)
    let common := matched.length
    if common = 0 then
      0.0
    else
      let ordered := common - differences matched (takenOf b left) / 2
      (common.toFloat / a.length.toFloat + common.toFloat / b.length.toFloat +
        ordered.toFloat / common.toFloat) / 3.0

end FixtureKit

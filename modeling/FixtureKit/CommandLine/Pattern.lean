import FixtureKit.Text.Blank
import FixtureKit.Text.Letter

/-!
# Patterns

A pattern is a regular expression: characters, sets of them, groups, alternatives, repetitions and
places. Here it is only told which texts are patterns. The checks go through a text from left to
right; `isPattern` is the whole of it.

## Conventions

* A pattern speaks of all characters, unless its flag `u` is taken away; then it speaks of bytes,
  and must not match any beyond ASCII.
* Which letters are one letter in two cases, and which characters are digits, blanks or parts of
  words, is known for ASCII alone. A pattern of all characters that needs to know is refused.
* No text holds a closing brace, because values stand between braces. So a count of repetitions is
  never closed.
-/

namespace FixtureKit

namespace Pattern

/-! ### Flags -/

/-- The flags that decide what is a pattern. -/
structure Flags where
  /-- Whether letters match in either case, the flag `i`. -/
  eitherCase : Bool
  /-- Whether the pattern speaks of all characters and not of bytes, the flag `u`. -/
  wide : Bool
  /-- Whether blanks and comments in the pattern do not count, the flag `x`. -/
  spaced : Bool
  deriving DecidableEq

/-- The flags at the start. -/
def Flags.start : Flags := ⟨false, true, false⟩

/-- The letters of flags, and the sign that takes those behind it away. -/
def flagSigns : List Char := ['i', 'm', 's', 'U', 'u', 'R', 'x', '-']

/-- Whether signs, none of them twice, set flags; the last one must not take nothing away. -/
def areFlags : List Char → Bool
  | [] => true
  | [sign] => sign ∈ flagSigns && sign ≠ '-'
  | sign :: next :: rest =>
    sign ∈ flagSigns && !(next :: rest).contains sign && areFlags (next :: rest)

/-- The state of a flag behind signs that set flags. -/
def stateOfFlag (signs : List Char) (flag : Char) (before : Bool) : Bool :=
  if (signs.takeWhile (· ≠ '-')).contains flag then true
  else if signs.contains flag then false
  else before

/-- The flags behind signs that set flags. -/
def Flags.set (flags : Flags) (signs : List Char) : Flags where
  eitherCase := stateOfFlag signs 'i' flags.eitherCase
  wide := stateOfFlag signs 'u' flags.wide
  spaced := stateOfFlag signs 'x' flags.spaced

/-- A text from the first character on that is no blank and not in a comment. A comment runs from
a number sign to the end of its line. -/
def skipFrom : (inComment : Bool) → List Char → List Char
  | _, [] => []
  | true, c :: rest => skipFrom (c ≠ '\n') rest
  | false, c :: rest =>
    if Text.isBlank c then skipFrom false rest
    else if c = '#' then skipFrom true rest
    else c :: rest

/-- A text from the first character on that counts. -/
def Flags.skip (flags : Flags) (text : List Char) : List Char :=
  if flags.spaced then skipFrom false text else text

/-- The next character that counts behind another one; of a comment only its first word is passed
over. -/
def Flags.peek? (flags : Flags) (text : List Char) : Option Char :=
  if flags.spaced then
    match text.dropWhile Text.isBlank with
    | '#' :: comment => (comment.dropWhile Text.isBlank).head?
    | rest => rest.head?
  else
    text.head?

/-! ### Single items -/

/-- What a single item of a pattern is. -/
inductive Item
  /-- A character; one whose number has two digits is a byte in a pattern of bytes. -/
  | literal (c : Char) (isByte : Bool)
  /-- The digits, the blanks or the parts of words, or all but these. -/
  | shorthand (negated : Bool)
  /-- A place, which can be one at the edge of a word. -/
  | place (ofWord : Bool)
  deriving DecidableEq

/-- The value of a hexadecimal digit. -/
def hexValue? (c : Char) : Option Nat :=
  if '0' ≤ c ∧ c ≤ '9' then some (c.toNat - '0'.toNat)
  else if 'a' ≤ c ∧ c ≤ 'f' then some (c.toNat - 'a'.toNat + 10)
  else if 'A' ≤ c ∧ c ≤ 'F' then some (c.toNat - 'A'.toNat + 10)
  else none

/-- Reads `count` hexadecimal digits behind those of the value so far. -/
def hexNumber? (flags : Flags) : (count value : Nat) → List Char → Option (Nat × List Char)
  | 0, value, text => some (value, text)
  | count + 1, value, text =>
    match flags.skip text with
    | [] => none
    | c :: rest =>
      match hexValue? c with
      | none => none
      | some digit => hexNumber? flags count (16 * value + digit) rest

/-- Reads the character of a number of `count` hexadecimal digits. -/
def numbered? (flags : Flags) (count : Nat) (text : List Char) : Option (Item × List Char) :=
  match hexNumber? flags count 0 text with
  | none => none
  | some (number, rest) =>
    if number.isValidChar then some (.literal (Char.ofNat number) (count == 2), rest) else none

/-- Reads what stands behind a backslash. Digits would refer back to groups, which a pattern
cannot. -/
def escaped? (flags : Flags) : List Char → Option (Item × List Char)
  | [] => none
  | 'x' :: rest => numbered? flags 2 rest
  | 'u' :: rest => numbered? flags 4 rest
  | 'U' :: rest => numbered? flags 8 rest
  | c :: rest =>
    if c ∈ ['d', 's', 'w'] then some (.shorthand false, rest)
    else if c ∈ ['D', 'S', 'W'] then some (.shorthand true, rest)
    else if c ∈ ['A', 'z'] then some (.place false, rest)
    else if c ∈ ['b', 'B', '<', '>'] then some (.place true, rest)
    else if c ∈ ['a', 'f', 't', 'n', 'r', 'v'] ∨ (c.toNat < 128 ∧ !c.isAlphanum) then
      some (.literal c false, rest)
    else none

/-- Whether an item can stand outside of sets. -/
def Flags.allow (flags : Flags) : Item → Bool
  | .literal c isByte => if flags.wide then !flags.eitherCase else !(isByte && 128 ≤ c.toNat)
  | .shorthand negated => !flags.wide && !negated
  | .place ofWord => !(ofWord && flags.wide)

/-- Whether an item can stand in a set. -/
def Flags.allowInSet (flags : Flags) : Item → Bool
  | .literal c _ => if flags.wide then !flags.eitherCase else c.toNat < 128
  | .shorthand negated => !flags.wide && !negated
  | .place _ => false

/-! ### Sets -/

/-- The names of sets between brackets and colons. -/
def setNames : List String :=
  ["alnum", "alpha", "ascii", "blank", "cntrl", "digit", "graph", "lower", "print", "punct",
    "space", "upper", "word", "xdigit"]

/-- Reads the name of a set behind a bracket, and answers whether it stands for all others. -/
def namedSet? : List Char → Option (Bool × List Char)
  | ':' :: text =>
    let negated := text.head? = some '^'
    let text := if negated then text.tail else text
    let name := text.takeWhile (· ≠ ':')
    match text.dropWhile (· ≠ ':') with
    | ':' :: ']' :: rest =>
      if setNames.any (·.toList = name) then some (negated, rest) else none
    | _ => none
  | _ => none

/-- Whether a named set can stand in a set. -/
def Flags.allowNamed (flags : Flags) (negated : Bool) : Bool :=
  if flags.wide then !flags.eitherCase else !negated

/-- Reads the start of a set behind its bracket: the sign for all others, and a closing bracket
that belongs to the set because it is the first of its characters. -/
def setStart? (flags : Flags) (text : List Char) : Option (List Char) :=
  let text := flags.skip text
  let negated := text.head? = some '^'
  let text := if negated then flags.skip text.tail else text
  if negated ∧ !flags.wide then
    none
  else
    match text with
    | [] => none
    | '-' :: _ => if flags.allowInSet (.literal '-' false) then some text else none
    | ']' :: rest => if flags.allowInSet (.literal ']' false) then some rest else none
    | _ => some text

/-- Reads a single item of a set. -/
def setItem? (flags : Flags) : List Char → Option (Item × List Char)
  | [] => none
  | '\\' :: rest => escaped? flags rest
  | c :: rest => some (.literal c false, rest)

/-- Reads an item of a set, or a range from one character to another. -/
def setRange? (flags : Flags) (text : List Char) : Option (List Char) :=
  match setItem? flags text with
  | none => none
  | some (first, rest) =>
    match flags.skip rest with
    | [] => none
    | c :: behind =>
      if c ≠ '-' ∨ flags.peek? behind = some ']' ∨ flags.peek? behind = some '-' then
        if flags.allowInSet first then some (c :: behind) else none
      else
        match first, setItem? flags (flags.skip behind) with
        | .literal low _, some (.literal high isByte, rest) =>
          if flags.allowInSet first && flags.allowInSet (.literal high isByte) && low ≤ high then
            some rest
          else none
        | _, _ => none

/-- Reads to the end of a set, with `depth` sets around it, in at most `fuel` steps. -/
def setEnd? (flags : Flags) : (fuel depth : Nat) → List Char → Option (List Char)
  | 0, _, _ => none
  | fuel + 1, depth, text =>
    match flags.skip text with
    | [] => none
    | '[' :: rest =>
      match namedSet? rest with
      | some (negated, rest) =>
        if flags.allowNamed negated then setEnd? flags fuel depth rest else none
      | none =>
        match setStart? flags rest with
        | none => none
        | some rest => setEnd? flags fuel (depth + 1) rest
    | ']' :: rest =>
      match depth with
      | 0 => some rest
      | depth + 1 => setEnd? flags fuel depth rest
    | '&' :: '&' :: rest => setEnd? flags fuel depth rest
    | '-' :: '-' :: rest => setEnd? flags fuel depth rest
    | '~' :: '~' :: rest => setEnd? flags fuel depth rest
    | c :: rest =>
      match setRange? flags (c :: rest) with
      | none => none
      | some rest => setEnd? flags fuel depth rest

/-- Reads a set behind its bracket. -/
def set? (flags : Flags) (text : List Char) : Option (List Char) :=
  match setStart? flags text with
  | none => none
  | some rest => setEnd? flags (text.length + 1) 0 rest

/-! ### Groups -/

/-- Whether a character can stand in the name of a group, at its start or behind it. -/
def isNameSign (atStart : Bool) (c : Char) : Bool :=
  c = '_' || Text.isLetter c ||
    (!atStart && (Text.isNumber c || c = '.' || c = '[' || c = ']'))

/-- Whether a text is the name of a group. -/
def isName : List Char → Bool
  | [] => false
  | c :: rest => isNameSign true c && rest.all (isNameSign false)

/-- What stands at the start of a group. -/
inductive Opening
  /-- A group with flags of its own. -/
  | group (signs : List Char)
  /-- A group with a name. -/
  | named (name : List Char)
  /-- No group at all but flags for the rest of the group around. -/
  | flags (signs : List Char)

/-- Reads the name of a group up to the sign behind it. -/
def named? (text : List Char) : Option (Opening × List Char) :=
  let name := text.takeWhile (· ≠ '>')
  match text.dropWhile (· ≠ '>') with
  | '>' :: rest => if isName name then some (.named name, rest) else none
  | _ => none

/-- Reads flags up to the sign behind them. -/
def flagged? (text : List Char) : Option (Opening × List Char) :=
  let isFlag (c : Char) : Bool := c ≠ ':' ∧ c ≠ ')'
  let signs := text.takeWhile isFlag
  match text.dropWhile isFlag with
  | ':' :: rest => if areFlags signs then some (.group signs, rest) else none
  | ')' :: rest => if areFlags signs ∧ signs ≠ [] then some (.flags signs, rest) else none
  | _ => none

/-- Reads the start of a group behind its parenthesis. A pattern cannot look around. -/
def opening? : List Char → Option (Opening × List Char)
  | '?' :: '=' :: _ => none
  | '?' :: '!' :: _ => none
  | '?' :: '<' :: '=' :: _ => none
  | '?' :: '<' :: '!' :: _ => none
  | '?' :: 'P' :: '<' :: rest => named? rest
  | '?' :: '<' :: rest => named? rest
  | '?' :: rest => flagged? rest
  | text => some (.group [], text)

/-! ### The whole -/

/-- What has been read of a pattern. -/
structure Reading where
  flags : Flags
  /-- The flags behind each group that is open, the innermost first. -/
  outer : List Flags
  /-- The names of groups. -/
  names : List (List Char)
  /-- Whether something stands before that can be repeated. -/
  repeatable : Bool
  deriving DecidableEq

/-- The reading before the first character. -/
def Reading.start : Reading := ⟨.start, [], [], false⟩

/-- The reading behind the start of a group, if no other group has its name. -/
def Reading.opened? (reading : Reading) : Opening → Option Reading
  | .flags signs => some { reading with flags := reading.flags.set signs, repeatable := false }
  | .group signs =>
    some
      { reading with
        flags := reading.flags.set signs
        outer := reading.flags :: reading.outer
        repeatable := false }
  | .named name =>
    if name ∈ reading.names then none
    else
      some
        { reading with
          outer := reading.flags :: reading.outer
          names := name :: reading.names
          repeatable := false }

/-- Reads one part of a pattern, of which the first character is given: a sign or an item, a whole
set, or the start of a group. -/
def Reading.part? (reading : Reading) (c : Char) (rest : List Char) :
    Option (Reading × List Char) :=
  let flags := reading.flags
  let done := { reading with repeatable := true }
  if c = '(' then
    match opening? (flags.skip rest) with
    | none => none
    | some (opening, rest) => (reading.opened? opening).map fun reading => (reading, rest)
  else if c = ')' then
    match reading.outer with
    | [] => none
    | flags :: outer => some ({ done with flags, outer }, rest)
  else if c = '|' then
    some ({ reading with repeatable := false }, rest)
  else if c = '[' then
    (set? flags rest).map fun rest => (done, rest)
  else if c = '{' then
    none
  else if c = '?' ∨ c = '*' ∨ c = '+' then
    if reading.repeatable then
      some (done, if rest.head? = some '?' then rest.tail else rest)
    else none
  else if c = '\\' then
    match escaped? flags rest with
    | none => none
    | some (item, rest) => if flags.allow item then some (done, rest) else none
  else if c = '.' then
    if flags.wide then some (done, rest) else none
  else if c = '^' ∨ c = '$' then
    some (done, rest)
  else if flags.allow (.literal c false) then
    some (done, rest)
  else none

/-- Whether a text goes on with a pattern, read in at most `fuel` steps. -/
def Reading.goesOn : (fuel : Nat) → Reading → List Char → Bool
  | 0, _, _ => false
  | fuel + 1, reading, text =>
    match reading.flags.skip text with
    | [] => reading.outer.isEmpty
    | c :: rest =>
      match reading.part? c rest with
      | none => false
      | some (reading, rest) => reading.goesOn fuel rest

end Pattern

/-- Whether a text is a pattern. -/
def isPattern (text : List Char) : Bool :=
  Pattern.Reading.start.goesOn (text.length + 1) text

end FixtureKit

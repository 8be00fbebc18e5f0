import FixtureKit.CommandLine.Log
import FixtureKit.CommandLine.Pattern

/-!
# Message Filters

A filter is a row of directives with commas between them. A directive names a part of the program,
asks for a detail, or both: `zipper=debug`. Which messages are shown is decided by the directive
that says most about where they come from: the one with the longest name that the name of their
part starts with, and among equals one that asks for a value.

## Conventions

* A directive may ask, between square brackets, that the message comes from within a span of work
  or has a certain value. There are no spans of work here, so that a directive which names one
  shows nothing.
* A part alone asks for all detail; a detail alone is for all parts. Without a directive only
  errors are shown.
* A filter with a directive that cannot be read is no filter.
* What a directive says is seen without the blanks around it, but its words are cut out of it with
  the blanks, at the same places: blanks in front push every word on by their number of bytes, and
  those behind belong to a detail or to a word that stands alone.
-/

namespace FixtureKit

/-- What a part of a filter says. -/
structure Directive where
  /-- What the name of the part of the program starts with, if that matters. -/
  part : Option String
  /-- The name of a value that the message must have, if any. -/
  value : Option String
  /-- Whether messages have to come from within a span of work. -/
  inSpan : Bool
  detail : Nat
  deriving DecidableEq

/-- Which messages are shown. -/
structure Filter where
  directives : List Directive
  deriving DecidableEq

namespace Filter

/-! ### Words -/

/-- All detail. -/
def fullDetail : Nat := 5

/-- The words for details, each at the place of its number. -/
def detailWords : List String := ["off", "error", "warn", "info", "debug", "trace"]

/-- The value of decimal digits, of which there is at least one; a plus may stand before them. -/
def number? (text : List Char) : Option Nat :=
  let digits := if text.head? = some '+' then text.tail else text
  if digits ≠ [] ∧ digits.all Char.isDigit then
    some (digits.foldl (fun n c => 10 * n + (c.toNat - '0'.toNat)) 0)
  else
    none

/-- The detail that a text asks for, by its number or by its word in any case. -/
def detail? (text : List Char) : Option Nat :=
  match number? text with
  | some n => if n ≤ fullDetail then some n else none
  | none => detailWords.findIdx? (·.toList = text.map Char.toLower)

/-- The detail behind an equals sign; nothing there asks for all. -/
def detailAfterEquals? (text : List Char) : Option Nat :=
  if text.isEmpty then some fullDetail else detail? text

/-- Whether a text is an exponent with its letter, or nothing. -/
def isExponent : List Char → Bool
  | [] => true
  | letter :: digits =>
    let digits := if digits.head? = some '+' ∨ digits.head? = some '-' then digits.tail else digits
    (letter = 'e' || letter = 'E') && digits ≠ [] && digits.all Char.isDigit

/-- Whether a text is a number without a sign: digits with a point anywhere among them and an
exponent behind, or the word for infinity or for no number. -/
def isUnsigned (text : List Char) : Bool :=
  let whole := text.takeWhile Char.isDigit
  let rest := text.dropWhile Char.isDigit
  let behind := if rest.head? = some '.' then rest.tail else rest
  let places := if rest.head? = some '.' then behind.takeWhile Char.isDigit else []
  (["inf", "infinity", "nan"].any fun word => word.toList = text.map Char.toLower) ||
    ((whole ++ places) ≠ [] && isExponent (behind.drop places.length))

/-- Whether a value can be asked for: a number, which may have a plus before it, or a pattern. -/
def isWanted (text : List Char) : Bool :=
  (text.head? = some '+' && isUnsigned text.tail) || isPattern text

/-! ### Directives -/

/-- A character of a directive seen without the blanks around it, with the bytes of the directive
that are cut out at its place. -/
structure Mark where
  seen : Char
  cut : List UInt8

/-- The marks of the characters that are seen, and the bytes behind the last of them. -/
def marksOf : List Char → List UInt8 → List Mark × List UInt8
  | [], bytes => ([], bytes)
  | c :: rest, bytes =>
    let (marks, left) := marksOf rest (bytes.drop c.utf8Size)
    (⟨c, bytes.take c.utf8Size⟩ :: marks, left)

/-- The word that is cut out at marks, with some bytes behind it, if it is text. -/
def word? (marks : List Mark) (left : List UInt8) : Option (List Char) :=
  (String.fromUTF8? ⟨(marks.flatMap Mark.cut ++ left).toArray⟩).map String.toList

/-- The marks up to the first at which a character is seen that ends a word. -/
def upTo (isEnd : Char → Bool) (marks : List Mark) : List Mark :=
  marks.takeWhile fun mark => !isEnd mark.seen

/-- The marks from the first on at which a character is seen that ends a word. -/
def onFrom (isEnd : Char → Bool) (marks : List Mark) : List Mark :=
  marks.dropWhile fun mark => !isEnd mark.seen

/-- What a directive says between square brackets. -/
structure Demand where
  value : Option String
  inSpan : Bool
  /-- The marks behind the brackets. -/
  rest : List Mark

/-- Reads the name of a value and, behind an equals sign, what it must be, which can only be known
of a span. What stands behind a second equals sign does not count. -/
def value? (text : List Char) : Option (String × Bool) :=
  let name := String.ofList (text.takeWhile (· ≠ '='))
  match text.dropWhile (· ≠ '=') with
  | [] => some (name, false)
  | _ :: wanted =>
    if isWanted (wanted.takeWhile (· ≠ '=')) then some (name, true) else none

/-- Reads the braces with a value, from behind the opening one. -/
def braces? (inSpan : Bool) (marks : List Mark) : Option Demand :=
  match onFrom (· = '\x7d') marks with
  | _ :: bracket :: rest =>
    match word? (upTo (· = '\x7d') marks) [] with
    | none => none
    | some text =>
      if text.isEmpty ∨ bracket.seen ≠ ']' then none
      else (value? text).map fun (name, isSpan) => ⟨some name, inSpan || isSpan, rest⟩
  | _ => none

/-- Reads what stands behind an opening square bracket. -/
def demand? (marks : List Mark) : Option Demand :=
  let isEnd (c : Char) : Bool := c = ']' ∨ c = '\x7b'
  match word? (upTo isEnd marks) [], onFrom isEnd marks with
  | some span, mark :: rest =>
    if mark.seen = ']' then some ⟨none, true, rest⟩ else braces? (!span.isEmpty) rest
  | _, _ => none

/-- Reads the detail behind what else a directive says. -/
def withDetail? (part value : Option String) (inSpan : Bool) (left : List UInt8) :
    List Mark → Option Directive
  | [] => some ⟨part, value, inSpan, fullDetail⟩
  | mark :: marks =>
    if mark.seen ≠ '=' then none
    else
      match word? marks left with
      | none => none
      | some text => (detailAfterEquals? text).map fun n => ⟨part, value, inSpan, n⟩

/-- Reads what stands behind the name of a part. -/
def afterPart? (part : Option String) (left : List UInt8) : List Mark → Option Directive
  | [] => some ⟨part, none, false, fullDetail⟩
  | mark :: marks =>
    if mark.seen = '[' then
      match demand? marks with
      | none => none
      | some demand => withDetail? part demand.value demand.inSpan left demand.rest
    else withDetail? part none false left (mark :: marks)

/-- Whether a directive can start with a character. -/
def startsPart (c : Char) : Bool :=
  Text.isLetter c || Text.isNumber c || c = '-' || c = ':' || c = '_'

/-- Reads a directive that is one word: a detail or the name of a part. -/
def single (text : List Char) : Directive :=
  match detail? text with
  | some n => ⟨none, none, false, n⟩
  | none => ⟨some (String.ofList text), none, false, fullDetail⟩

/-- Reads a directive. -/
def directive? (text : List Char) : Option Directive :=
  let (marks, left) := marksOf (Text.trim text) (String.ofList text).toUTF8.data.toList
  let isEnd (c : Char) : Bool := c = '=' ∨ c = '['
  match marks with
  | [] => none
  | first :: _ =>
    if first.seen = '[' then afterPart? none left marks
    else if !startsPart first.seen then none
    else
      match onFrom isEnd marks, word? (upTo isEnd marks) [] with
      | [], _ => some (single text)
      | rest, some part => afterPart? (some (String.ofList part)) left rest
      | _, none => none

/-- The pieces between commas that are not empty. -/
def pieces (text : String) : List (List Char) :=
  (text.toList.splitOn ',').filter (· ≠ [])

/-- Reads a filter. -/
def parse? (text : String) : Option Filter :=
  ((pieces text).mapM directive?).map Filter.mk

/-- The filter of one detail for all parts. -/
def ofDetail (detail : Nat) : Filter :=
  ⟨[⟨none, none, false, detail⟩]⟩

/-! ### Which messages are shown -/

/-- Whether a directive has a say on a message. -/
def concerns (directive : Directive) (message : Message) : Bool :=
  !directive.inSpan &&
    (match directive.part with
      | none => true
      | some part => part.toList.isPrefixOf message.part.toList) &&
    match directive.value with
    | none => true
    | some name => name = "message" || message.values.any fun value => value.1 = name

/-- Whether a text does not come before another in the order of their characters. -/
def notBefore : List Char → List Char → Bool
  | _, [] => true
  | [], _ :: _ => false
  | a :: rest, b :: other => b.toNat < a.toNat || (a == b && notBefore rest other)

/-- How long the name of a part is that a directive names, with one more for any at all. -/
def reach (directive : Directive) : Nat :=
  match directive.part with
  | none => 0
  | some part => part.utf8ByteSize + 1

/-- Whether the value that a directive asks for counts as much as that of another. Any counts more
than none, and of two the one that comes later in their order. -/
def valueOutweighs : Option String → Option String → Bool
  | _, none => true
  | none, some _ => false
  | some name, some other => notBefore name.toList other.toList

/-- Whether a directive says as much as another. -/
def outweighs (a b : Directive) : Bool :=
  reach b < reach a || (reach a == reach b && valueOutweighs a.value b.value)

/-- The directive that decides on a message; of two that say equally much, the later one. -/
def deciding (filter : Filter) (message : Message) : Option Directive :=
  (filter.directives.filter (concerns · message)).foldl
    (fun best directive =>
      match best with
      | none => some directive
      | some known => if outweighs directive known then some directive else best)
    none

/-- Whether a message is shown. -/
def shows (filter : Filter) (message : Message) : Bool :=
  match filter.deciding message with
  | none => false
  | some directive => message.level.detail ≤ directive.detail

end Filter

end FixtureKit

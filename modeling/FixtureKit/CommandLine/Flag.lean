import FixtureKit.CommandLine.Similarity

/-!
# Flags

The flags of the command line: words after two dashes, and for some of them letters after one.
None of them takes a value.

## Main results

* `ofWord?_word`, `ofLetter?_letter?` — a flag is found by its word and by its letter.
-/

namespace FixtureKit

/-- A flag of the command line. -/
inductive Flag
  | deflate
  | verify
  | verbose
  | help
  | version
  deriving DecidableEq

namespace Flag

/-- All flags, in the order of the help text. -/
def all : List Flag := [.deflate, .verify, .verbose, .help, .version]

/-- The word of a flag. -/
def word : Flag → String
  | .deflate => "deflate"
  | .verify => "verify"
  | .verbose => "verbose"
  | .help => "help"
  | .version => "version"

/-- The letter of a flag, if it has one. -/
def letter? : Flag → Option Char
  | .deflate => none
  | .verify => none
  | .verbose => some 'v'
  | .help => some 'h'
  | .version => some 'V'

/-- What follows the word of a flag where it is shown: dots, if it counts how often it is given. -/
def dots : Flag → String
  | .verbose => "..."
  | _ => ""

/-- A flag as messages show it. -/
def shown (flag : Flag) : String :=
  "--" ++ flag.word ++ flag.dots

/-- Whether a flag is a setting. The others ask for a text and no work. -/
def isSetting : Flag → Bool
  | .help => false
  | .version => false
  | _ => true

/-- What a flag is for. -/
def purpose : Flag → String
  | .deflate => "Deflate archive entries instead of storing them"
  | .verify => "Re-read the generated files and check sizes, entries and contents"
  | .verbose => "Verbosity level (-v, -vv, -vvv)"
  | .help => "Print help"
  | .version => "Print version"

/-- The flag of a word. -/
def ofWord? (word : String) : Option Flag :=
  all.find? (·.word = word)

/-- The flag of a letter. -/
def ofLetter? (letter : Char) : Option Flag :=
  all.find? (·.letter? = some letter)

/-- How similar a word must be to that of a flag to be taken for a slip. -/
def slipThreshold : Float := 0.7

/-- The better of the flag found so far and another, each with its similarity. Of two that are
equally similar the later one is taken. -/
def better (best : Option (Flag × Float)) (flag : Flag) (degree : Float) :
    Option (Flag × Float) :=
  match best with
  | none => some (flag, degree)
  | some (_, known) => if degree < known then best else some (flag, degree)

/-- The flag that a word may have been meant for. -/
def similar? (word : String) : Option Flag :=
  let best := all.foldl
    (fun best flag =>
      let degree := similarity word.toList flag.word.toList
      if slipThreshold < degree then better best flag degree else best)
    none
  best.map Prod.fst

/-- A flag is found by its word. -/
theorem ofWord?_word (flag : Flag) : ofWord? flag.word = some flag := by
  cases flag <;> decide

/-- A flag is found by its letter. -/
theorem ofLetter?_letter? {flag : Flag} {letter : Char} (h : flag.letter? = some letter) :
    ofLetter? letter = some flag := by
  cases flag <;> cases h <;> decide

end Flag

end FixtureKit

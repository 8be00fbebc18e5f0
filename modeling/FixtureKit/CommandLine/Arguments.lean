import FixtureKit.CommandLine.Usage
import FixtureKit.Fixtures.Layout

/-!
# Arguments

Arguments are read from left to right. What starts with two dashes is the word of a flag, what
starts with one a row of letters, and anything else the destination; behind two dashes alone all
is destination. Help and version are given as soon as they are reached, and the first fault before
them ends the reading.

## Conventions

* A destination is settled, and refused if it is empty, when a flag follows or the arguments end.
* A fault in an argument counts before one in the destination that is not settled yet.
-/

namespace FixtureKit

/-- What the arguments ask for. -/
structure Settings where
  destination : String
  /-- Whether entries are to be compressed. -/
  deflates : Bool
  /-- Whether the fixtures are to be verified once they are made. -/
  verifies : Bool
  /-- How often more messages have been asked for. -/
  verbosity : Nat
  deriving DecidableEq

/-- How the reading of arguments ends before it is through. -/
inductive Interruption
  | help
  | version
  | refused (e : UsageError)
  deriving DecidableEq

namespace Arguments

/-- What has been read of the arguments. -/
structure Reading where
  /-- The flags so far, each once, a counted one where it was last given. -/
  flags : List Flag
  verbosity : Nat
  destination : Option String
  /-- Whether the destination is settled. -/
  settled : Bool
  deriving DecidableEq

/-- The reading before the first argument. -/
def Reading.start : Reading := ⟨[], 0, none, false⟩

/-- The usage line that names what has been used so far, and a flag. -/
def Reading.usageWith (reading : Reading) (flag : Flag) : Usage :=
  .named (if flag ∈ reading.flags then reading.flags else reading.flags ++ [flag])
    reading.destination.isSome

/-- The usage line behind a flag that has been given a value. A flag that stands alone is named. If
it follows others, all settings are in question together. -/
def Reading.usageOfValue (reading : Reading) (flag : Flag) : Usage :=
  if reading.flags.isEmpty then .named [flag] false else .settings flag

/-- Settles the destination. -/
def Reading.settle (reading : Reading) : Except Interruption Reading :=
  if reading.settled then
    .ok reading
  else
    match reading.destination with
    | none => .ok reading
    | some destination =>
      if destination.isEmpty then .error (.refused .emptyDestination)
      else .ok { reading with settled := true }

/-- Takes a flag that may be given once. -/
def Reading.once (reading : Reading) (flag : Flag) : Except Interruption Reading :=
  if flag ∈ reading.flags then .error (.refused (.repeated flag))
  else .ok { reading with flags := reading.flags ++ [flag] }

/-- Takes a flag. -/
def Reading.withFlag (reading : Reading) (flag : Flag) : Except Interruption Reading :=
  match reading.settle with
  | .error e => .error e
  | .ok reading =>
    match flag with
    | .deflate => reading.once .deflate
    | .verify => reading.once .verify
    | .verbose =>
      .ok
        { reading with
          flags := reading.flags.filter (· ≠ .verbose) ++ [.verbose]
          verbosity := reading.verbosity + 1 }
    | .help => .error .help
    | .version => .error .version

/-- Refuses a word that is no flag's. -/
def Reading.unknownWord (reading : Reading) (word : String) : Interruption :=
  match Flag.similar? word with
  | some flag =>
    .refused (.unexpected ("--" ++ word) (some (.similar flag)) (reading.usageWith flag))
  | none =>
    let usage : Usage := .named reading.flags reading.destination.isSome
    .refused (.unexpected ("--" ++ word) (some .asValue) usage)

/-- Takes what stands behind two dashes: a word and, behind an equals sign, a value. -/
def Reading.withWord (reading : Reading) (text : List Char) : Except Interruption Reading :=
  let word := String.ofList (text.takeWhile (· ≠ '='))
  match Flag.ofWord? word, text.dropWhile (· ≠ '=') with
  | some flag, [] => reading.withFlag flag
  | some flag, _ :: value =>
    .error (.refused (.unwantedValue (String.ofList value) flag (reading.usageOfValue flag)))
  | none, _ => .error (reading.unknownWord word)

/-- Takes what stands behind one dash: letters, one after the other. -/
def Reading.withLetters (reading : Reading) : List Char → Except Interruption Reading
  | [] => .ok reading
  | letter :: rest =>
    match Flag.ofLetter? letter with
    | none => .error (.refused (.unexpected ("-" ++ letter.toString) (some .asValue) .general))
    | some flag =>
      match reading.withFlag flag with
      | .error e => .error e
      | .ok reading => reading.withLetters rest

/-- Takes a destination, of which there may be one. -/
def Reading.withDestination (reading : Reading) (text : String) : Except Interruption Reading :=
  match reading.destination with
  | some _ => .error (.refused (.unexpected text none .general))
  | none => .ok { reading with destination := some text }

/-- Takes an argument in front of two dashes alone. -/
def Reading.withArgument (reading : Reading) (argument : String) : Except Interruption Reading :=
  match argument.toList with
  | '-' :: '-' :: text => reading.withWord text
  | '-' :: letter :: letters => reading.withLetters (letter :: letters)
  | _ => reading.withDestination argument

/-- Takes arguments behind two dashes alone. -/
def Reading.withDestinations (reading : Reading) : List String → Except Interruption Reading
  | [] => .ok reading
  | argument :: rest =>
    match reading.withDestination argument with
    | .error e => .error e
    | .ok reading => reading.withDestinations rest

/-- Takes arguments. -/
def Reading.withArguments (reading : Reading) : List String → Except Interruption Reading
  | [] => .ok reading
  | argument :: rest =>
    if argument = "--" then
      reading.withDestinations rest
    else
      match reading.withArgument argument with
      | .error e => .error e
      | .ok reading => reading.withArguments rest

/-- The settings that a reading amounts to. -/
def Reading.settings (reading : Reading) : Settings where
  destination := reading.destination.getD defaultDestination
  deflates := .deflate ∈ reading.flags
  verifies := .verify ∈ reading.flags
  verbosity := reading.verbosity

end Arguments

open Arguments in
/-- Reads arguments. -/
def Settings.ofArguments (arguments : List String) : Except Interruption Settings :=
  match Reading.start.withArguments arguments with
  | .error e => .error e
  | .ok reading =>
    match reading.settle with
    | .error e => .error e
    | .ok reading => .ok reading.settings

end FixtureKit

import FixtureKit.CommandLine.Flag
import FixtureKit.CommandLine.Markup

/-!
# Usage

What the command line tells about itself: the help text, the version, and why arguments are
refused. A refusal may have a tip, and a usage line that names the flags in question.
-/

namespace FixtureKit

/-- What a usage line names. -/
inductive Usage
  /-- The flags in question, each once, and whether a destination is in question. -/
  | named (flags : List Flag) (destination : Bool)
  /-- All that sets something, the destination and the flags that are settings, together and not
  one by one, behind a flag in question if that is no setting. -/
  | settings (flag : Flag)
  deriving DecidableEq

namespace Usage

/-- The usage in which nothing is in question. -/
def general : Usage := .named [] false

/-- All that sets something, named together. -/
def settingNames : String :=
  "<" ++ "|".intercalate ("DEST" :: (Flag.all.filter Flag.isSetting).map Flag.shown) ++ ">"

/-- A flag of a usage line. -/
def flagName (flag : Flag) : Markup :=
  [⟨.literal, "--" ++ flag.word⟩, ⟨.ordinary, flag.dots ++ " "⟩]

/-- What the usage line names behind the program. -/
def names : Usage → Markup
  | .named [] false => [⟨.ordinary, "[OPTIONS] [DEST]"⟩]
  | .named flags destination =>
    flags.flatMap flagName ++ [⟨.ordinary, if destination then "<DEST>" else "[DEST]"⟩]
  | .settings flag =>
    (if flag.isSetting then [] else flagName flag) ++ [⟨.ordinary, settingNames⟩]

/-- The usage line. -/
def line (usage : Usage) : Markup :=
  [⟨.heading, "Usage:"⟩, ⟨.ordinary, " "⟩, ⟨.literal, "make-assets"⟩, ⟨.ordinary, " "⟩] ++
    usage.names

end Usage

/-- A tip on an argument that is not understood. -/
inductive Tip
  /-- A flag that may have been meant. -/
  | similar (flag : Flag)
  /-- The argument can be a value if it stands behind two dashes. -/
  | asValue
  deriving DecidableEq

/-- Why arguments are refused. -/
inductive UsageError
  | unexpected (argument : String) (tip : Option Tip) (usage : Usage)
  | repeated (flag : Flag)
  /-- A flag has been given a value. -/
  | unwantedValue (value : String) (flag : Flag) (usage : Usage)
  | emptyDestination
  deriving DecidableEq

namespace UsageError

/-- What is wrong. -/
def message : UsageError → Markup
  | .unexpected argument _ _ =>
    [⟨.ordinary, "unexpected argument '"⟩, ⟨.refused, argument⟩, ⟨.ordinary, "' found"⟩]
  | .repeated flag =>
    [⟨.ordinary, "the argument '"⟩, ⟨.refused, flag.shown⟩,
      ⟨.ordinary, "' cannot be used multiple times"⟩]
  | .unwantedValue value flag _ =>
    [⟨.ordinary, "unexpected value '"⟩, ⟨.refused, value⟩, ⟨.ordinary, "' for '"⟩,
      ⟨.literal, flag.shown⟩, ⟨.ordinary, "' found; no more were expected"⟩]
  | .emptyDestination =>
    [⟨.ordinary, "a value is required for '"⟩, ⟨.refused, "[DEST]"⟩,
      ⟨.ordinary, "' but none was supplied"⟩]

/-- The tip, if there is one. -/
def tip? : UsageError → Option Markup
  | .unexpected _ (some (.similar flag)) _ =>
    some
      [⟨.ordinary, "a similar argument exists: '"⟩, ⟨.accepted, "--" ++ flag.word⟩,
        ⟨.ordinary, "'"⟩]
  | .unexpected argument (some .asValue) _ =>
    some
      [⟨.ordinary, "to pass '"⟩, ⟨.refused, argument⟩, ⟨.ordinary, "' as a value, use '"⟩,
        ⟨.accepted, "-- " ++ argument⟩, ⟨.ordinary, "'"⟩]
  | _ => none

/-- The usage, if it is told. -/
def usage? : UsageError → Option Usage
  | .unexpected _ _ usage => some usage
  | .repeated _ => some .general
  | .unwantedValue _ _ usage => some usage
  | .emptyDestination => none

/-- The text of a refusal. -/
def text (e : UsageError) : Markup :=
  let paragraph : Markup := [⟨.ordinary, "\n\n"⟩]
  let tip : Markup := match e.tip? with
    | some tip =>
      [⟨.ordinary, "  "⟩, ⟨.accepted, "tip:"⟩, ⟨.ordinary, " "⟩] ++ tip ++ paragraph
    | none => []
  let usage : Markup := match e.usage? with
    | some usage => usage.line ++ paragraph
    | none => []
  [⟨.fault, "error:"⟩, ⟨.ordinary, " "⟩] ++ e.message ++ paragraph ++ tip ++ usage ++
    [⟨.ordinary, "For more information, try '"⟩, ⟨.literal, "--help"⟩, ⟨.ordinary, "'.\n"⟩]

end UsageError

/-! ### Help -/

/-- The letter and the word of a flag, in two columns. -/
def Flag.name (flag : Flag) : Markup :=
  let letter : Markup := match flag.letter? with
    | some letter => [⟨.literal, "-" ++ letter.toString⟩, ⟨.ordinary, ", "⟩]
    | none => [⟨.ordinary, "    "⟩]
  letter ++ [⟨.literal, "--" ++ flag.word⟩, ⟨.ordinary, flag.dots⟩]

/-- The widest name of a flag has this many characters. -/
def nameWidth : Nat := 16

/-- The line of the help text on a flag. -/
def Flag.helpLine (flag : Flag) : Markup :=
  let blanks := List.replicate (nameWidth + 2 - flag.name.bare.length) ' '
  [⟨.ordinary, "  "⟩] ++ flag.name ++ [⟨.ordinary, String.ofList blanks ++ flag.purpose ++ "\n"⟩]

/-- The help text. -/
def helpText : Markup :=
  [⟨.ordinary, "Generate random binary fixtures and a zip archive holding them\n\n"⟩] ++
    Usage.general.line ++
    [⟨.ordinary, "\n\n"⟩, ⟨.heading, "Arguments:"⟩, ⟨.ordinary, "\n  [DEST]  "⟩,
      ⟨.ordinary, "Directory to write `small`, `large` and `test.zip` into [default: assets]\n\n"⟩,
      ⟨.heading, "Options:"⟩, ⟨.ordinary, "\n"⟩] ++
    Flag.all.flatMap Flag.helpLine

/-- The version text. -/
def versionText : String := "cli 0.1.0\n"

end FixtureKit

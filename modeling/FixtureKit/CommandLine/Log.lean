import FixtureKit.Fixtures.Event

/-!
# Messages

An event becomes a message: a line with the time, how much the event matters, the part of the
program that it comes from, a text and named values. Lines are written with or without colours.
-/

namespace FixtureKit

/-- How much a message matters. -/
inductive Level
  | info
  | debug
  deriving DecidableEq

namespace Level

/-- How much detail has to be asked for to see messages of a level, where 1 shows nothing but
errors. -/
def detail : Level → Nat
  | .info => 3
  | .debug => 4

/-- The name of a level, as wide as the widest of all. -/
def shown : Level → String
  | .info => " INFO"
  | .debug => "DEBUG"

/-- The number of the colour of a level. -/
def colour : Level → String
  | .info => "32"
  | .debug => "34"

end Level

/-- An event made ready to be written. -/
structure Message where
  level : Level
  /-- The part of the program that it comes from. -/
  part : String
  text : String
  /-- Values with their names, in order. -/
  values : List (String × String)
  deriving DecidableEq

/-- The parts of the program that messages come from. -/
def parts : List String := ["init", "filler", "zipper", "assets", "make_assets"]

/-- The message of an event. -/
def Event.message : Event → Message
  | .directoryReady path => ⟨.debug, "init", "destination directory ready", [("path", path)]⟩
  | .fileWritten path size =>
    ⟨.debug, "filler", "wrote random file", [("path", path), ("size", toString size)]⟩
  | .entryAdded name source size =>
    ⟨.debug, "zipper", "added entry",
      [("entry", name), ("source", source), ("bytes", toString size)]⟩
  | .archiveWritten archive entries =>
    ⟨.info, "zipper", "archive written", [("archive", archive), ("entries", toString entries)]⟩
  | .generated destination => ⟨.info, "assets", "fixtures generated", [("dest", destination)]⟩
  | .verified destination => ⟨.info, "make_assets", "fixtures verified", [("dest", destination)]⟩

namespace Message

/-- Text between the sign that switches a style on and the one that switches it off. -/
def styled (code text : String) : String :=
  "\x1b[" ++ code ++ "m" ++ text ++ "\x1b[0m"

/-- The line of a message. Colours dim what is not the message itself and slant the names. -/
def line (message : Message) (coloured : Bool) (time : String) : String :=
  let style (code text : String) : String := if coloured then styled code text else text
  let value (entry : String × String) : String :=
    " " ++ style "3" entry.1 ++ style "2" "=" ++ entry.2
  style "2" time ++ " " ++ style message.level.colour message.level.shown ++ " " ++
    style "2" message.part ++ style "2" ":" ++ " " ++ message.text ++
    String.join (message.values.map value) ++ "\n"

end Message

end FixtureKit

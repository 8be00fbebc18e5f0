import FixtureKit.CommandLine.Plain

/-!
# Marked Text

Text in pieces, each of which is marked for what it is to the reader. It is written with colours
and weights, or without any; then a piece cannot bring controls of its own along either.
-/

namespace FixtureKit

/-- What a piece of text is to the reader. -/
inductive Style
  | ordinary
  /-- The word that says what has gone wrong. -/
  | fault
  /-- The head of a paragraph. -/
  | heading
  /-- What can be typed as it stands. -/
  | literal
  /-- What has been typed and is not accepted. -/
  | refused
  /-- What would be accepted. -/
  | accepted
  deriving DecidableEq

/-- The numbers that tell a terminal of a style: weight, line and colour. -/
def Style.codes : Style → List String
  | .ordinary => []
  | .fault => ["1", "31"]
  | .heading => ["1", "4"]
  | .literal => ["1"]
  | .refused => ["33"]
  | .accepted => ["32"]

/-- A piece of text with its style. -/
structure Piece where
  style : Style
  text : String
  deriving DecidableEq

/-- Text in pieces. -/
abbrev Markup := List Piece

/-- The sequence that tells a terminal a number. -/
def styleSequence (code : String) : String :=
  "\x1b[" ++ code ++ "m"

/-- A piece between the sequences that switch its style on and off. -/
def Piece.coloured (piece : Piece) : String :=
  match piece.style.codes with
  | [] => piece.text
  | codes => String.join (codes.map styleSequence) ++ piece.text ++ styleSequence "0"

namespace Markup

/-- Text with colours. -/
def coloured (markup : Markup) : String :=
  String.join (markup.map Piece.coloured)

/-- Text without colours. -/
def bare (markup : Markup) : String :=
  String.join (markup.map fun piece => plain piece.text)

/-- Text with or without colours. -/
def written (markup : Markup) (withColours : Bool) : String :=
  if withColours then markup.coloured else markup.bare

end Markup

end FixtureKit

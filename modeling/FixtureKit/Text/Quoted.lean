import FixtureKit.Text.Extending
import FixtureKit.Text.Unprintable

/-!
# Quoted Text

Text between double quotes, in which a quote, a backslash and the common controls have a short
escape, and every other character that would not print or would not stand alone is written by its
code point.
-/

namespace FixtureKit

namespace Text

/-- The form of a character by its code point in hexadecimal digits. -/
def codePointEscape (c : Char) : String :=
  "\\u\x7b" ++ String.ofList (Nat.toDigits 16 c.toNat) ++ "\x7d"

/-- The form of a character inside quotes. -/
def escape (c : Char) : String :=
  if c = '"' then "\\\""
  else if c = '\\' then "\\\\"
  else if c = '\n' then "\\n"
  else if c = '\r' then "\\r"
  else if c = '\t' then "\\t"
  else if c = '\x00' then "\\0"
  else if isExtending c || isUnprintable c then codePointEscape c
  else c.toString

/-- A text in quotes. -/
def quote (text : String) : String :=
  "\"" ++ String.join (text.toList.map escape) ++ "\""

/-- Texts in quotes, between brackets and with commas between them. -/
def quoteList (texts : List String) : String :=
  "[" ++ ", ".intercalate (texts.map quote) ++ "]"

end Text

end FixtureKit

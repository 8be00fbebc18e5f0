import FixtureKit.Text.Quoted

/-!
# Descriptions of Records

A record is described by the name of its kind and its fields in order, each with its name. The
fields stand between braces with commas between them; a description can be a field of another.
-/

namespace FixtureKit

namespace Text

/-- The description of a record from its kind and its described fields. -/
def describe (kind : String) (fields : List (String × String)) : String :=
  let shown := fields.map fun field => field.1 ++ ": " ++ field.2
  kind ++ " \x7b " ++ ", ".intercalate shown ++ " \x7d"

end Text

end FixtureKit

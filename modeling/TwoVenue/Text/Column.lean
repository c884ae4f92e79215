/-!
# Columns

A column is as wide as it says, in characters. A text that is too long is not cut.
-/

namespace TwoVenue.Text

/-- The text followed by blanks up to the width. -/
def left (width : Nat) (s : String) : String :=
  s ++ String.ofList (List.replicate (width - s.length) ' ')

/-- The text after blanks up to the width. -/
def right (width : Nat) (s : String) : String :=
  String.ofList (List.replicate (width - s.length) ' ') ++ s

end TwoVenue.Text

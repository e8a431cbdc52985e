/-!
# Padding

A text in a column is padded with blanks to the width of the column.  A text that is wider than
the column stays as it is.
-/

namespace TapeMachine
namespace Text

/-- Pads a text with blanks on the left to a width. -/
def padLeft (width : Nat) (text : String) : String :=
  String.ofList (List.replicate (width - text.length) ' ') ++ text

/-- Pads a text with blanks on the right to a width. -/
def padRight (width : Nat) (text : String) : String :=
  text ++ String.ofList (List.replicate (width - text.length) ' ')

end Text
end TapeMachine

/-!
# Lower case

Names are compared in lower case.  The names of this library consist of ASCII letters, and no
other character has a lower case that occurs in one of them, so only ASCII letters are changed.
-/

namespace TapeMachine
namespace Text

/-- A text with its ASCII letters in lower case. -/
def lowerCase (text : String) : String :=
  String.ofList (text.toList.map Char.toLower)

end Text
end TapeMachine

/-!
# Blank characters

The white space of Unicode together with the four information separators, and the
trimming of blanks from both ends of a text.
-/

namespace TapeMachine
namespace Text

/-- The blank characters as closed ranges of code points, ascending and apart. -/
def blankRanges : List (Nat × Nat) :=
  [(0x09, 0x0D), (0x1C, 0x20), (0x85, 0x85), (0xA0, 0xA0), (0x1680, 0x1680),
   (0x2000, 0x200A), (0x2028, 0x2029), (0x202F, 0x202F), (0x205F, 0x205F),
   (0x3000, 0x3000)]

/-- A blank separates words and never belongs to one. -/
def isBlank (character : Char) : Bool :=
  blankRanges.any fun range => range.1 ≤ character.toNat && character.toNat ≤ range.2

/-- Drops the characters at both ends of a list that satisfy a predicate. -/
def trimBoth (drops : Char → Bool) (characters : List Char) : List Char :=
  ((characters.dropWhile drops).reverse.dropWhile drops).reverse

/-- A text without the blanks at its two ends. -/
def strip (text : String) : String :=
  String.ofList (trimBoth isBlank text.toList)

end Text
end TapeMachine

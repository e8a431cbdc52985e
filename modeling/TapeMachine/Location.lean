/-!
# Locations in a program

A location names a character of a program by its offset and by its line and column.  Offsets
count characters from zero; lines and columns count from one.
-/

namespace TapeMachine

/-- A place in a program text. -/
structure Location where
  /-- The number of characters before the place. -/
  offset : Int
  /-- The line that holds the place, counted from one. -/
  line : Int
  /-- The position in that line, counted from one. -/
  column : Int
  deriving DecidableEq, Repr

namespace Location

/-- How many characters come before an offset; a negative offset counts from the end. -/
def extentBefore (length : Nat) (offset : Int) : Nat :=
  if offset < 0 then (length + offset).toNat else min length offset.toNat

/-- How many characters of a text come before its last line. -/
def lineStart (text : List Char) : Nat :=
  text.length - (text.reverse.takeWhile (· != '\n')).length

/-- The location of an offset in a program. -/
def ofOffset (program : List Char) (offset : Int) : Location :=
  let before := program.take (extentBefore program.length offset)
  { offset := offset
    line := before.count '\n' + 1
    column := offset - lineStart before + 1 }

/-- The line and the column, as they are shown. -/
def text (location : Location) : String :=
  toString location.line ++ ":" ++ toString location.column

end Location
end TapeMachine

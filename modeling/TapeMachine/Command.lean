/-!
# The eight commands

A program is a text.  Eight characters are commands and every other character is a
comment.
-/

namespace TapeMachine

/-- A command of the language. -/
inductive Command
  /-- Adds one to the current cell. -/
  | increment
  /-- Takes one from the current cell. -/
  | decrement
  /-- Moves the cursor one cell to the left. -/
  | moveLeft
  /-- Moves the cursor one cell to the right. -/
  | moveRight
  /-- Writes the current cell to the output. -/
  | output
  /-- Reads one byte of input into the current cell. -/
  | input
  /-- Jumps past the matching close when the current cell is zero. -/
  | loopOpen
  /-- Jumps back to the matching open when the current cell is not zero. -/
  | loopClose
  deriving DecidableEq, Repr

namespace Command

/-- The character that stands for a command in a program. -/
def symbol : Command → Char
  | increment => '+'
  | decrement => '-'
  | moveLeft => '<'
  | moveRight => '>'
  | output => '.'
  | input => ','
  | loopOpen => '['
  | loopClose => ']'

/-- The command that a character stands for; a comment stands for none. -/
def ofChar? : Char → Option Command
  | '+' => some increment
  | '-' => some decrement
  | '<' => some moveLeft
  | '>' => some moveRight
  | '.' => some output
  | ',' => some input
  | '[' => some loopOpen
  | ']' => some loopClose
  | _ => none

/-- The command that a whole text stands for: the text has to be one command character. -/
def ofString? (text : String) : Option Command :=
  match text.toList with
  | [character] => ofChar? character
  | _ => none

@[simp]
theorem ofChar?_symbol (command : Command) : ofChar? command.symbol = some command := by
  cases command <;> rfl

/-- A character stands for a command exactly when it is that command's symbol. -/
theorem ofChar?_eq_some_iff {character : Char} {command : Command} :
    ofChar? character = some command ↔ character = command.symbol := by
  constructor
  · intro found
    unfold ofChar? at found
    split at found <;> simp_all <;> subst found <;> rfl
  · rintro rfl
    exact ofChar?_symbol command

end Command
end TapeMachine

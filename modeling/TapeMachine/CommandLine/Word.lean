import TapeMachine.CommandLine.Grammar

/-!
# The words of a command line

Every word of a command line has a role that depends on the grammar but not on the words around
it, except that all words after a separator are plain.  A word with a leading dash is a switch,
possibly abbreviated or with an argument attached, unless it is a lone dash, a negative number,
or holds a space.
-/

namespace TapeMachine
namespace CommandLine

/-- The role of a word. -/
inductive Role
  /-- A switch, its full spelling, and the argument that is attached to it. -/
  | switch (switch : Switch) (spelling : String) (attached : Option String)
  /-- A switch that the grammar does not have. -/
  | unknown
  /-- An argument or an operand. -/
  | plain
  /-- The mark after which all words are plain. -/
  | separator
  deriving DecidableEq, Repr

namespace Role

/-- The spelling of a role that is a switch. -/
def spelling? : Role → Option String
  | switch _ spelling _ => some spelling
  | _ => none

end Role

/-- A word with its role. -/
structure Word where
  /-- The text of the word. -/
  text : String
  /-- The role of the word. -/
  role : Role
  deriving DecidableEq, Repr

/-- The mark after which all words are plain. -/
def separatorText : String := "--"

/-- What stands before and after the first equals sign. -/
def splitAtEquals (characters : List Char) : Option (String × String) :=
  match characters.span (· != '=') with
  | (_, []) => none
  | (before, _ :: after) => some (String.ofList before, String.ofList after)

/-- A row of at least one digit. -/
def isDigits (characters : List Char) : Bool :=
  !characters.isEmpty && characters.all Text.isDecimalDigit

/-- Drops a newline at the end. -/
def dropFinalNewline (characters : List Char) : List Char :=
  if characters.getLast? = some '\n' then characters.dropLast else characters

/-- Whether the characters after a dash make it a negative number. -/
def isNumeral (characters : List Char) : Bool :=
  let row := dropFinalNewline characters
  isDigits row ||
    match row.span Text.isDecimalDigit with
    | (_, '.' :: fraction) => isDigits fraction
    | _ => false

namespace Grammar

/-- The switches that a word with two leading dashes abbreviates. -/
def abbreviated (grammar : Grammar) (characters : List Char) : List Role :=
  let (start, attached) :=
    match splitAtEquals characters with
    | some (before, after) => (before, some after)
    | none => (String.ofList characters, none)
  (grammar.spelled.filter fun entry => start.toList.isPrefixOf entry.1.toList).map fun entry =>
    .switch entry.2 entry.1 attached

/-- The switch with one dash whose argument follows it in the same word. -/
def joined (grammar : Grammar) (letter : Char) (attached : List Char) : List Role :=
  let spelling := String.ofList ['-', letter]
  (grammar.switch? spelling).toList.map fun switch =>
    .switch switch spelling (some (String.ofList attached))

/-- The switches that a word with a leading dash may stand for. -/
def candidates (grammar : Grammar) (characters : List Char) : List Role :=
  match characters with
  | '-' :: '-' :: _ => grammar.abbreviated characters
  | '-' :: letter :: attached => grammar.joined letter attached
  | _ => []

/-- The role of a word that starts with a dash and is not the spelling of a switch. -/
def dashedRole (grammar : Grammar) (text : String) : Except UsageFault Role :=
  match grammar.candidates text.toList with
  | [role] => .ok role
  | role :: more =>
    .error (.ambiguous text ((role :: more).filterMap Role.spelling?))
  | [] =>
    if isNumeral (text.toList.drop 1) || text.toList.contains ' ' then .ok .plain
    else .ok .unknown

/-- The role of a word that is not the separator. -/
def role (grammar : Grammar) (text : String) : Except UsageFault Role :=
  if text.toList.head? ≠ some '-' then .ok .plain
  else
    match grammar.switch? text with
    | some switch => .ok (.switch switch text none)
    | none =>
      if text.length = 1 then .ok .plain
      else
        match splitAtEquals text.toList with
        | none => grammar.dashedRole text
        | some (before, after) =>
          match grammar.switch? before with
          | some switch => .ok (.switch switch before (some after))
          | none => grammar.dashedRole text

/-- The words of a command line with their roles. -/
def words (grammar : Grammar) : List String → Except UsageFault (List Word)
  | [] => .ok []
  | text :: rest =>
    if text = separatorText then
      .ok (⟨text, .separator⟩ :: rest.map fun later => ⟨later, .plain⟩)
    else do
      let role ← grammar.role text
      let later ← grammar.words rest
      .ok (⟨text, role⟩ :: later)

end Grammar
end CommandLine
end TapeMachine

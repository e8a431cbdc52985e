import TapeMachine.Settings.Run
import TapeMachine.Text.Letter
import TapeMachine.Trace.Basic

/-!
# The prompt

The prompt asks for a program and for its input, shows the trace of the run, and starts over
until the programs end or one of them says to quit.
-/

namespace TapeMachine
namespace Prompt

/-- The settings of the runs at the prompt. -/
def settings : Settings :=
  { tapeSize := ⟨20, by decide⟩ }

/-- The width of the window of the traces at the prompt. -/
def window : Int := 8

/-- How a session at the prompt ends. -/
inductive SessionEnd
  /-- The session was ended in good order. -/
  | done
  /-- The input ended where the input of a program was expected. -/
  | endOfInput
  /-- The input of a program is a text that no bytes stand for. -/
  | unreadable (fault : Text.LatinFault)
  deriving DecidableEq, Repr

/-- What a session has written and how it ended. -/
structure Session where
  /-- What was written. -/
  written : String
  /-- How the session ended. -/
  ending : SessionEnd
  deriving DecidableEq, Repr

/-- The wording of an input that ends too early. -/
def endOfInputMessage : String := "EOF when reading a line"

/-- What is written before the first program. -/
def greeting : String :=
  "🧠 Brainfuck Step-by-Step Debugger\nEnter 'quit' to exit\n\n"

/-- What is written before a program is read. -/
def question : String :=
  String.ofList (List.replicate 60 '-') ++ "\nEnter Brainfuck program: "

/-- What is written before the input of a program is read. -/
def inputQuestion : String := "Enter input data: "

/-- What is written after a run. -/
def verdict (outcome : Outcome) : String :=
  match outcome.diagnostic with
  | none => "\n✅ Execution complete. Final output: " ++ Text.quote outcome.text ++ "\n"
  | some diagnostic => "\n❌ " ++ diagnostic.summary ++ "\n"

/-- A line as it is taken from the prompt: without the blanks at its ends. -/
def taken (line : List Char) : String :=
  Text.strip (String.ofList line)

/-- Whether a program says to quit. -/
def saysQuit (program : String) : Bool :=
  Text.lowerCase program == "quit"

/-- A session on the lines that are typed. -/
def answer : List (List Char) → Session
  | [] => ⟨question, .done⟩
  | line :: rest =>
    let program := taken line
    if saysQuit program then ⟨question, .done⟩
    else
      match rest with
      | [] => ⟨question ++ inputQuestion, .endOfInput⟩
      | inputLine :: more =>
        let (entries, result) :=
          settings.traceText window standardTraceBudget program (taken inputLine)
        let written := question ++ inputQuestion ++ "\n" ++ entriesText entries
        match result with
        | .error fault => ⟨written, .unreadable fault⟩
        | .ok outcome =>
          let later := answer more
          ⟨written ++ verdict outcome ++ later.written, later.ending⟩

/-- The lines that are typed: the pieces of the text between newlines, without an empty last one. -/
def typedLines (typed : List Char) : List (List Char) :=
  match (Text.lines (Text.universalNewlines typed)).reverse with
  | [] :: earlier => earlier.reverse
  | pieces => pieces.reverse

/-- A session on a text that is typed. -/
def session (typed : String) : Session :=
  let later := answer (typedLines typed.toList)
  { later with written := greeting ++ later.written }

end Prompt
end TapeMachine

import TapeMachine.Settings.Run
import TapeMachine.Trace.Description
import TapeMachine.Trace.View

/-!
# Traces

A trace accompanies a run step by step.  It announces each command before it is carried out,
describes what it has done, and shows the machine after it.  A trace is a list of entries, each
of which is written as some lines.
-/

namespace TapeMachine

/-- An entry of a trace. -/
inductive Entry
  /-- The program, as it is shown. -/
  | opening (shown : String)
  /-- The input. -/
  | input (bytes : List UInt8)
  /-- The machine before the first step. -/
  | initial (view : View)
  /-- The announcement of a step. -/
  | heading (number : Nat) (symbol : Char) (position : Nat)
  /-- What a step has done. -/
  | description (done : Description)
  /-- The machine after a step. -/
  | after (number : Nat) (view : View)
  /-- What is wrong with the program or its run. -/
  | diagnostic (code : List Char) (found : Diagnostic)
  /-- The run was stopped by its budget. -/
  | stopped (budget : Int)
  /-- What the run has come to. -/
  | closing (outcome : Outcome)
  deriving DecidableEq, Repr

namespace Entry

/-- The rule between the heading of a trace and its steps. -/
def rule : String :=
  String.ofList (List.replicate 80 '=')

/-- The lines of an entry. -/
def lines : Entry → List String
  | opening shown => ["🐛 BRAINFUCK DEBUGGER", "Program: " ++ shown]
  | input bytes =>
    ["Input: " ++ Text.quoteBytes bytes ++ " (as bytes: " ++ byteList bytes ++ ")", rule]
  | initial view => "" :: "INITIAL:" :: view.lines
  | heading number symbol position =>
    ["", "Step " ++ toString number ++ ": Execute '" ++ String.singleton symbol ++
      "' at position " ++ toString position]
  | description done => ["  " ++ done.text]
  | after number view => "" :: ("AFTER STEP " ++ toString number ++ ":") :: view.lines
  | diagnostic code found => [found.render code]
  | stopped budget =>
    ["", "⚠️ Execution stopped after " ++ toString budget ++ " steps (possible infinite loop)"]
  | closing outcome =>
    ["", "🎯 FINAL RESULT:",
      "Output: " ++ Text.quote outcome.text ++ " → " ++ byteList outcome.output.toList]

end Entry

/-- The entries of a run and what has come of it. -/
structure Trace where
  /-- The entries. -/
  entries : List Entry
  /-- What the run has come to. -/
  outcome : Outcome
  deriving DecidableEq, Repr

/-- The text of some entries. -/
def entriesText (entries : List Entry) : String :=
  Text.written (entries.flatMap Entry.lines)

namespace Machine

/--
Steps through a run for at most a number of steps, of which some have been done before.  Answers
the entries and the machine at the end.
-/
def traceSteps (window : Int) : Nat → Nat → Machine → List Entry × Machine
  | 0, _, machine => ([], machine)
  | budget + 1, done, machine =>
    let ready := if machine.running then machine.skipComments else machine
    if ready.running then
      match ready.command? with
      | none => ([], ready)
      | some command =>
        let next := ready.step
        let heading := Entry.heading (done + 1) command.symbol ready.position
        match next.failure? with
        | some failure =>
          ([heading, .diagnostic next.program.code.toList (.failed failure)], next)
        | none =>
          let (rest, final) := traceSteps window budget (done + 1) next
          (heading :: .description (ready.describe next command) ::
            .after (done + 1) (next.view window) :: rest, final)
    else ([], ready)

/-- Steps through a run from its start.  Comments after the last step are skipped. -/
def trace (window budget : Int) (machine : Machine) : Trace :=
  let (steps, last) := machine.traceSteps window budget.toNat 0
  let outcome := (if last.running then last.skipComments else last).outcome
  let limit := if outcome.hitLimit then [.stopped budget] else []
  { entries := .initial (machine.view window) :: steps ++ limit ++ [.closing outcome]
    outcome := outcome }

end Machine

namespace Settings

/-- The trace of a program text on some bytes, without its opening. -/
def traceBody (settings : Settings) (window budget : Int)
    (code : String) (data : List UInt8) : Trace :=
  match Program.parse code with
  | .error rejection =>
    { entries := [.input data, .diagnostic code.toList (.rejected rejection)]
      outcome := .ofRejection rejection }
  | .ok program =>
    let body := (settings.launch program (.whole data) .absent).trace window budget
    { body with entries := .input data :: body.entries }

/-- The trace of a program text on some bytes. -/
def trace (settings : Settings) (window budget : Int)
    (code : String) (data : List UInt8) : Trace :=
  let body := settings.traceBody window budget code data
  { body with entries := .opening code :: body.entries }

/--
The entries of a trace on a text, and what has come of it.  If no bytes stand for the text the
trace ends after its opening.
-/
def traceText (settings : Settings) (window budget : Int)
    (code input : String) : List Entry × Except Text.LatinFault Outcome :=
  match Text.latinBytes input with
  | .error fault => ([.opening code], .error fault)
  | .ok data =>
    let trace := settings.trace window budget code data
    (trace.entries, .ok trace.outcome)

end Settings

/-- The number of cells that a trace shows when nothing else is said. -/
def standardWindow : Int := 10

/-- The budget of a trace when nothing else is said. -/
def standardTraceBudget : Int := 100

end TapeMachine

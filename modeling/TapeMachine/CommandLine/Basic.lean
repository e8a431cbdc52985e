import TapeMachine.CommandLine.World
import TapeMachine.Trace.Basic

/-!
# Commands

A command is carried out in a world.  What it writes to its two streams and how it ends is a
value, so that writing and leaving are all that remains to be done.
-/

namespace TapeMachine
namespace CommandLine

/-- How a command ends. -/
inductive Exit
  /-- The command ends with a status. -/
  | exit (status : Nat)
  /-- The usage was asked for. -/
  | help
  /-- The command line was refused. -/
  | refused
  /-- The command was broken off. -/
  | aborted (severity : Severity)
  deriving DecidableEq, Repr

/-- What a command has written and how it ended. -/
structure Completion where
  /-- The bytes written to the standard output. -/
  stdout : List UInt8 := []
  /-- The text written to the standard error. -/
  stderr : String := ""
  /-- How the command ended. -/
  ending : Exit
  deriving DecidableEq, Repr

/-- The status of a command that has done its work. -/
def statusOk : Nat := 0

/-- The status of a command that has found something wrong with a program. -/
def statusDiagnostic : Nat := 1

/-- The status of a command that could not do its work. -/
def statusUsage : Nat := 2

/-- The status of a run that was stopped by its budget. -/
def statusStepLimit : Nat := 3

/-- The bytes of a text in UTF-8. -/
def textBytes (text : String) : List UInt8 :=
  text.toUTF8.toList

/-- The lines of a journal, if it is shown. -/
def shownJournal (verbose : Bool) (events : Unit → List Event) : String :=
  if verbose then Text.written ((events ()).map Event.line) else ""

namespace Completion

/-- The end of a command that has met a problem after writing something. -/
def ofProblem (problem : Problem) (written : String) (journal : String) : Completion :=
  match problem.severity with
  | .reported =>
    { stdout := textBytes written
      stderr := journal ++ "error: " ++ problem.message ++ "\n"
      ending := .exit statusUsage }
  | severity =>
    { stdout := textBytes written
      stderr := journal
      ending := .aborted severity }

end Completion

/-- The text of an argument; one that is missing or no text counts as empty. -/
def argumentText : Value → String
  | .text content => content
  | _ => ""

/-- The input of a run. -/
def runSource (world : World) (input : Value) (stdin : Bool) : Except Problem Source :=
  if stdin then .ok (.lines world.stdin)
  else ((Text.latinBytes (argumentText input)).map Source.whole).mapError .input

/-- What is reported after a run, and its status. -/
def runVerdict (settings : Settings) (code : String) (outcome : Outcome) : String × Nat :=
  match outcome.diagnostic with
  | some diagnostic => (diagnostic.render code.toList ++ "\n", statusDiagnostic)
  | none =>
    if outcome.hitLimit then
      ("stopped after " ++ (settings.get .maxSteps).display ++ " steps (ip=" ++
        toString outcome.position ++ ")\n", statusStepLimit)
    else ("", statusOk)

/-- What a run needs: the text of the program, the settings and the input, found in this order. -/
def runNeeds (world : World) (choice : ProgramChoice) (settingsChoice : SettingsChoice)
    (input : Value) (stdin : Bool) : Except Problem (String × Settings × Source) := do
  let code ← choice.load world
  let settings ← settingsChoice.load world
  let source ← runSource world input stdin
  .ok (code, settings, source)

/-- Runs a program. -/
def runProgram (fuel : Nat) (world : World) (verbose : Bool) (choice : ProgramChoice)
    (settingsChoice : SettingsChoice) (input : Value) (stdin : Bool) : Option Completion :=
  match runNeeds world choice settingsChoice input stdin with
  | .error problem => some (.ofProblem problem "" "")
  | .ok (code, settings, source) =>
    (settings.run? fuel none code source (.stream #[] 0)).map fun report =>
      let (verdict, status) := runVerdict settings code report.outcome
      { stdout := report.sink.close.data.toList
        stderr := shownJournal verbose (fun _ => settings.journal fuel none code source) ++ verdict
        ending := .exit status }

/-- Checks the brackets of a program. -/
def checkProgram (world : World) (verbose : Bool) (choice : ProgramChoice) : Completion :=
  match choice.load world with
  | .error problem => .ofProblem problem "" ""
  | .ok code =>
    match Program.parse code with
    | .error rejection =>
      { stderr := (Diagnostic.rejected rejection).render code.toList ++ "\n"
        ending := .exit statusDiagnostic }
    | .ok program =>
      { stdout := textBytes ("ok: " ++ toString program.loops.loopCount ++ " loops\n")
        stderr := shownJournal verbose fun _ => [program.matchedEvent]
        ending := .exit statusOk }

/-- The budget of a trace: the one that is given, unless it is zero. -/
def traceBudget (given : Value) : Int :=
  match given with
  | .int steps => if steps = 0 then standardTraceBudget else steps
  | _ => standardTraceBudget

/-- The width of the window of a trace. -/
def traceWindow : Value → Option Int
  | .null => some standardWindow
  | .int width => some width
  | _ => none

/-- What a trace has written before it shows the first window, if it comes to that. -/
def textBeforeWindow (settings : Settings) (shown code : String) (data : List UInt8) :
    Option String :=
  match Program.parse code with
  | .error _ => none
  | .ok program =>
    let machine := settings.launch program (.whole data) .absent
    some (entriesText [.opening shown, .input data] ++
      Text.written ("" :: "INITIAL:" :: (machine.view 0).programLines))

/-- Steps through a program on some bytes. -/
def debugBytes (verbose : Bool) (settings : Settings) (budget : Int) (window : Value)
    (shown code : String) (data : List UInt8) : Completion :=
  let complete (width : Int) : Completion :=
    let trace := settings.traceBody width budget code data
    { stdout := textBytes (entriesText (.opening shown :: trace.entries))
      stderr := shownJournal verbose fun _ => settings.traceJournal budget code data
      ending := .exit (if trace.outcome.diagnostic.isNone then statusOk else statusDiagnostic) }
  match traceWindow window with
  | some width => complete width
  | none =>
    match textBeforeWindow settings shown code data with
    | none => complete standardWindow
    | some written =>
      .ofProblem (.window window) written
        (shownJournal verbose fun _ => settings.traceJournal 0 code data)

/-- Steps through a program. -/
def debugProgram (world : World) (verbose : Bool) (choice : ProgramChoice)
    (settingsChoice : SettingsChoice) (input window : Value) : Completion :=
  let loaded : Except Problem (String × Settings) := do
    let code ← choice.load world
    let settings ← settingsChoice.load world
    .ok (code, settings)
  match loaded with
  | .error problem => .ofProblem problem "" ""
  | .ok (code, settings) =>
    let shown := choice.shown code
    match Text.latinBytes (argumentText input) with
    | .error fault => .ofProblem (.input fault) (entriesText [.opening shown]) ""
    | .ok data =>
      let budget := traceBudget (settingsChoice.overrides .maxSteps)
      debugBytes verbose settings budget window shown code data

/-- Runs a suite and writes the table of its results. -/
def runSuite (fuel : Nat) (world : World) (verbose : Bool) (path : String) : Option Completion :=
  let loaded : Except Problem (List Case × Settings) := do
    let text ← world.text path
    let cases ← (Suite.load world.readDocument path text).mapError .suite
    let settings ← world.settings
    .ok (cases, settings)
  match loaded with
  | .error problem => some (.ofProblem problem "" "")
  | .ok (cases, settings) =>
    (Suite.run? fuel settings cases).map fun results =>
      let journal := shownJournal verbose fun _ => Suite.journal fuel settings cases
      match results with
      | .error fault => .ofProblem (.settings fault) "" journal
      | .ok results =>
        let passed := Suite.passedCount results = results.length
        { stdout := textBytes (Text.written (Suite.table results))
          stderr := journal
          ending := .exit (if passed then statusOk else statusDiagnostic) }

/--
Carries out an invocation.  There is no answer when the fuel does not suffice for a run without
a limit.
-/
def perform (fuel : Nat) (world : World) (invocation : Invocation) : Option Completion :=
  match invocation.request with
  | .run program settings input stdin =>
    runProgram fuel world invocation.verbose program settings input stdin
  | .check program => some (checkProgram world invocation.verbose program)
  | .debug program settings input window =>
    some (debugProgram world invocation.verbose program settings input window)
  | .suite path => runSuite fuel world invocation.verbose path

/-- The end of a command whose command line could not be read. -/
def interrupted : Interruption → Completion
  | .help => { ending := .help }
  | .refused command fault =>
    { stderr := (Interruption.refused command fault).message ++ "\n"
      ending := .refused }

/-- Carries out a command line. -/
def execute (fuel : Nat) (world : World) (arguments : List String) : Option Completion :=
  match readInvocation arguments with
  | .error interruption => some (interrupted interruption)
  | .ok invocation => perform fuel world invocation

end CommandLine
end TapeMachine

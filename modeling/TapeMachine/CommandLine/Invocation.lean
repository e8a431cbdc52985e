import TapeMachine.CommandLine.Reading

/-!
# Invocations

The program is invoked with one of four commands: to run a program, to check its brackets, to
step through it, or to run a suite.
-/

namespace TapeMachine
namespace CommandLine

/-- Where a program comes from. -/
structure ProgramChoice where
  /-- The program given on the command line; null if it is not. -/
  code : Value
  /-- The file that holds the program. -/
  file : Option String
  deriving Repr

/-- Where settings come from. -/
structure SettingsChoice where
  /-- The file that holds settings; null if there is none. -/
  config : Value
  /-- The fields given on the command line; null where they are not. -/
  overrides : Field → Value

/-- What a command is to do. -/
inductive Request
  /-- Run a program. -/
  | run (program : ProgramChoice) (settings : SettingsChoice) (input : Value) (stdin : Bool)
  /-- Check the brackets of a program. -/
  | check (program : ProgramChoice)
  /-- Step through a program. -/
  | debug (program : ProgramChoice) (settings : SettingsChoice) (input window : Value)
  /-- Run a suite. -/
  | suite (path : String)

/-- A request, and whether its journal is shown. -/
structure Invocation where
  /-- Whether the journal is shown. -/
  verbose : Bool
  /-- What is to be done. -/
  request : Request

/-- The switch that asks for the usage. -/
def helpSwitch : Switch := ⟨["-h", "--help"], .help, .absent⟩

/-- The switch that shows the journal. -/
def verboseSwitch : Switch := ⟨["-v", "--verbose"], .verbose, .absent⟩

/-- The switch that gives the program. -/
def codeSwitch : Switch := ⟨["-e", "--code"], .code, .text⟩

/-- The switch that gives the input. -/
def inputSwitch : Switch := ⟨["--input"], .input, .text⟩

/-- The switches that give the settings. -/
def settingsSwitches : List Switch :=
  [⟨["--config"], .config, .text⟩,
   ⟨["--addressing"], .setting .addressing, .choice (Addressing.all.map Addressing.name)⟩,
   ⟨["--tape-size"], .setting .tapeSize, .integer⟩,
   ⟨["--modulus"], .setting .modulus, .integer⟩,
   ⟨["--eof"], .setting .eof, .choice (EofPolicy.all.map EofPolicy.name)⟩,
   ⟨["--max-steps"], .setting .maxSteps, .integer⟩]

/-- The grammar of running a program. -/
def runGrammar : Grammar :=
  { command := "bf run"
    switches := [helpSwitch, codeSwitch] ++ settingsSwitches ++
      [inputSwitch, ⟨["--stdin"], .stdin, .absent⟩]
    operand := .optional
    exclusive := [.input, .stdin] }

/-- The grammar of checking a program. -/
def checkGrammar : Grammar :=
  { command := "bf check"
    switches := [helpSwitch, codeSwitch]
    operand := .optional }

/-- The grammar of stepping through a program. -/
def debugGrammar : Grammar :=
  { command := "bf debug"
    switches := [helpSwitch, codeSwitch] ++ settingsSwitches ++
      [inputSwitch, ⟨["--window"], .window, .integer⟩]
    operand := .optional }

/-- The grammar of running a suite. -/
def suiteGrammar : Grammar :=
  { command := "bf suite"
    switches := [helpSwitch]
    operand := .required "suite" }

/-- The commands by name. -/
def commandNames : List String := ["run", "check", "debug", "suite"]

/-- What the name of a command is called in messages. -/
def commandLabel : String := "command"

/-- The grammar of the whole command line. -/
def topGrammar : Grammar :=
  { command := "bf"
    switches := [helpSwitch, verboseSwitch]
    operand := .command commandLabel commandNames }

namespace Reading

/-- The word of the operand. -/
def word? (reading : Reading) : Option String :=
  reading.operand.bind List.head?

/-- Where the program comes from. -/
def programChoice (reading : Reading) : ProgramChoice :=
  ⟨reading.value .code, reading.word?⟩

/-- Where the settings come from. -/
def settingsChoice (reading : Reading) : SettingsChoice :=
  ⟨reading.value .config, fun field => reading.value (.setting field)⟩

end Reading

/-- Reads the words after the name of a command, and tells which of them are left over. -/
def readRequest (name : String) (arguments : List String) :
    Except Interruption (Request × List String) :=
  match name with
  | "run" => do
    let reading ← runGrammar.read arguments
    .ok (.run reading.programChoice reading.settingsChoice (reading.value .input)
      (reading.has .stdin), reading.extras)
  | "check" => do
    let reading ← checkGrammar.read arguments
    .ok (.check reading.programChoice, reading.extras)
  | "debug" => do
    let reading ← debugGrammar.read arguments
    .ok (.debug reading.programChoice reading.settingsChoice (reading.value .input)
      (reading.value .window), reading.extras)
  | "suite" => do
    let reading ← suiteGrammar.read arguments
    .ok (.suite (reading.word?.getD ""), reading.extras)
  | other =>
    .error (.refused topGrammar.command (.noChoice commandLabel other commandNames))

/-- Reads a whole command line. -/
def readInvocation (arguments : List String) : Except Interruption Invocation := do
  let reading ← topGrammar.read arguments
  let operand := reading.operand.getD []
  let (request, leftOver) ← readRequest (operand.headD "") operand.tail
  let extras := reading.extras ++ leftOver
  if extras.isEmpty then .ok ⟨reading.has .verbose, request⟩
  else .error (.refused topGrammar.command (.unrecognized extras))

end CommandLine
end TapeMachine

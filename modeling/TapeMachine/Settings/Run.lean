import TapeMachine.Machine.Outcome
import TapeMachine.Settings.Basic
import TapeMachine.Text.Integer

/-!
# Runs under settings

A program text is checked first: if its brackets do not match, the run is over before the input
is looked at.  Otherwise a machine is set up and runs within a budget.  A run without a budget
may go on forever, so it is given fuel, and there is no answer when the fuel does not suffice.
-/

namespace TapeMachine

/-- What a run leaves behind. -/
structure Report where
  /-- What the run has come to. -/
  outcome : Outcome
  /-- What the sink holds. -/
  sink : Sink
  /-- How often the source was asked. -/
  polls : Nat
  deriving DecidableEq, Repr

namespace Report

/-- The report on a program that was rejected. -/
def ofRejection (rejection : Rejection) (sink : Sink) : Report :=
  ⟨.ofRejection rejection, sink, 0⟩

end Report

namespace Machine

/-- The report on the run so far. -/
def report (machine : Machine) : Report :=
  ⟨machine.outcome, machine.sink, machine.feed.polls⟩

end Machine

/-- Why a run has no result for its caller. -/
inductive RunFault
  /-- The input is a text that no bytes stand for. -/
  | input (fault : Text.LatinFault)
  /-- The program was rejected, or the run failed. -/
  | raised (found : Raised)
  deriving DecidableEq, Repr

namespace RunFault

/-- The wording of a fault. -/
def message : RunFault → String
  | input fault => fault.message
  | raised found => found.message

end RunFault

namespace Report

/-- The outcome of a run for a caller who wants no diagnostic. -/
def finalOutcome (result : Except Text.LatinFault Report) : Except RunFault Outcome :=
  match result with
  | .error fault => .error (.input fault)
  | .ok report => report.outcome.orRaise.mapError .raised

end Report

namespace Settings

/-- The machine that is about to run a program. -/
def launch (settings : Settings) (program : Program) (source : Source) (sink : Sink) : Machine :=
  { program := program
    eof := settings.eof
    tape := settings.newTape
    feed := { source := source }
    sink := sink }

/-- The budget of a run: the one that is given, or else the one of the settings. -/
def budget (settings : Settings) (given : Option Int) : Option Int :=
  match given with
  | some steps => some steps
  | none => settings.maxSteps.map fun limit => (limit : Int)

/-- Runs a program. -/
def runProgram? (settings : Settings) (fuel : Nat) (given : Option Int)
    (program : Program) (source : Source) (sink : Sink) : Option Report :=
  ((settings.launch program source sink).runWithin? fuel (settings.budget given)).map
    Machine.report

/-- Runs a program text on a source. -/
def run? (settings : Settings) (fuel : Nat) (given : Option Int)
    (code : String) (source : Source) (sink : Sink) : Option Report :=
  match Program.parse code with
  | .error rejection => some (.ofRejection rejection sink)
  | .ok program => settings.runProgram? fuel given program source sink

/-- Runs a program text on an input.  The input is not looked at if the program is rejected. -/
def runInput? (settings : Settings) (fuel : Nat) (given : Option Int)
    (code : String) (input : Input) (sink : Sink) : Option (Except Text.LatinFault Report) :=
  match Program.parse code with
  | .error rejection => some (.ok (.ofRejection rejection sink))
  | .ok program =>
    match input.source with
    | .error fault => some (.error fault)
    | .ok source => (settings.runProgram? fuel given program source sink).map .ok

/-- The bytes that a program writes. -/
def runBytes? (settings : Settings) (fuel : Nat) (given : Option Int)
    (code : String) (input : Input) : Option (Except RunFault (Array UInt8)) :=
  (settings.runInput? fuel given code input .absent).map fun result =>
    (Report.finalOutcome result).map Outcome.output

/-- The text that a program writes. -/
def runText? (settings : Settings) (fuel : Nat) (given : Option Int)
    (code input : String) : Option (Except RunFault String) :=
  (settings.runInput? fuel given code (.text input) .absent).map fun result =>
    (Report.finalOutcome result).map Outcome.text

/--
The first byte that a program writes when its input is one byte.  The inner answer is none if
the program is rejected, fails, or writes nothing within its budget.
-/
def runOnce? (settings : Settings) (fuel : Nat) (given : Option Int)
    (code : String) (input : Int) : Option (Option UInt8) :=
  (settings.run? fuel given code (.whole [byteOfInt input]) .absent).map fun report =>
    report.outcome.firstByte?

end Settings

/-- The budget of a single-byte run that nothing else is said about, as a text. -/
def standardStepLimit : String := "5000"

/-- The budget of a single-byte run, as the environment gives it. -/
def stepLimit (given : Option String) : Except Text.IntegerFault Int :=
  Text.readInteger (given.getD standardStepLimit)

end TapeMachine

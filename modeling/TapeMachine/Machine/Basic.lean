import TapeMachine.Loops
import TapeMachine.Policy
import TapeMachine.Sink
import TapeMachine.Source
import TapeMachine.Tape.Basic

/-!
# The machine

A machine is a program together with everything that its run can change: the tape and the
cursor, the input that has been fetched and not yet read, the output, the position in the
program and the number of commands completed.  A step completes one command; comments before
it cost nothing.
-/

namespace TapeMachine

/-- How far a run has come. -/
inductive Status
  /-- The run goes on. -/
  | running
  /-- The run has reached the end of the program. -/
  | finished
  /-- The run has stopped at a command that could not be completed. -/
  | failed
  deriving DecidableEq, Repr

/-- The state of a run. -/
structure Machine where
  /-- The program that runs. -/
  program : Program
  /-- What reading does once the input is exhausted. -/
  eof : EofPolicy
  /-- The tape. -/
  tape : Tape
  /-- Where input comes from. -/
  feed : Feed
  /-- Where output goes to, besides being recorded. -/
  sink : Sink
  /-- The position in the program. -/
  position : Nat := 0
  /-- The index of the current cell. -/
  cursor : Int := 0
  /-- How many commands have been completed. -/
  cycles : Nat := 0
  /-- Input that has been fetched and not yet read. -/
  queue : List UInt8 := []
  /-- Whether the source has said that it is exhausted. -/
  exhausted : Bool := false
  /-- The output so far. -/
  output : Array UInt8 := #[]
  /-- How far the run has come. -/
  status : Status := .running
  /-- The failure at which the run has stopped, if it has. -/
  failure? : Option Failure := none

namespace Machine

/-- Whether the run goes on. -/
def running (machine : Machine) : Bool :=
  machine.status = .running

/-- The byte under the cursor. -/
def cell (machine : Machine) : UInt8 :=
  machine.tape.get machine.cursor

/-- The command at the position of the machine. -/
def command? (machine : Machine) : Option Command :=
  machine.program.command? machine.position

/-- Moves to the next command; a machine that finds none has finished. -/
def skipComments (machine : Machine) : Machine :=
  let position := machine.program.nextCommand machine.position
  { machine with
    position := position
    status := if machine.program.length ≤ position then .finished else machine.status }

/-- Completes a command and goes on behind a position. -/
def advance (machine : Machine) (position : Nat) : Machine :=
  { machine with
    position := position + 1
    cycles := machine.cycles + 1
    status := if machine.program.length ≤ position + 1 then .finished else machine.status }

/-- Puts a byte into the current cell. -/
def store (machine : Machine) (byte : UInt8) : Machine :=
  { machine with tape := machine.tape.set machine.cursor byte }

/-- Stops at the current command, which could not be completed. -/
def fail (machine : Machine) (cause : FailureCause) : Machine :=
  { machine with
    status := .failed
    failure? := some
      { location := machine.program.locate machine.position
        position := machine.position
        cycles := machine.cycles
        cause := cause } }

/-- Moves the cursor by a distance, or stops where the tape has no such cell. -/
def moveCursor (machine : Machine) (distance : Int) : Machine :=
  match machine.tape.move machine.cursor distance with
  | .ok (cursor, tape) =>
    { machine with cursor := cursor, tape := tape }.advance machine.position
  | .error fault => machine.fail fault.cause

/-- Writes the current cell to the output and to the sink. -/
def emit (machine : Machine) : Machine :=
  { machine with
    output := machine.output.push machine.cell
    sink := machine.sink.accept machine.cell }

/-- Fetches input when none is waiting and the source has not been exhausted. -/
def fill (machine : Machine) : Machine :=
  if machine.queue.isEmpty && !machine.exhausted then
    let (answer, feed) := machine.feed.poll
    match answer with
    | some (byte :: rest) => { machine with feed := feed, queue := byte :: rest }
    | _ => { machine with feed := feed, exhausted := true }
  else machine

/-- Reads a byte of input into the current cell; at the end of the input the policy decides. -/
def receive (machine : Machine) : Machine :=
  let filled := machine.fill
  match filled.queue with
  | byte :: rest => { filled with queue := rest }.store byte
  | [] =>
    match filled.eof with
    | .zero => filled.store 0
    | .unchanged => filled

/-- Jumps behind the partner of the current bracket, or goes on behind the bracket itself. -/
def jump (machine : Machine) (taken : Bool) : Machine :=
  if taken then
    machine.advance ((machine.program.partner? machine.position).getD machine.position)
  else machine.advance machine.position

/-- Carries out a command that stands at the position of the machine. -/
def perform (machine : Machine) : Command → Machine
  | .increment => (machine.store (machine.cell + 1)).advance machine.position
  | .decrement => (machine.store (machine.cell - 1)).advance machine.position
  | .moveLeft => machine.moveCursor (-1)
  | .moveRight => machine.moveCursor 1
  | .output => machine.emit.advance machine.position
  | .input => machine.receive.advance machine.position
  | .loopOpen => machine.jump (machine.cell == 0)
  | .loopClose => machine.jump (machine.cell != 0)

/-- Carries out the next command.  A machine that has stopped stays as it is. -/
def step (machine : Machine) : Machine :=
  if machine.running then
    let ready := machine.skipComments
    if ready.running then
      match ready.command? with
      | some command => ready.perform command
      | none => ready
    else ready
  else machine

/--
Runs for at most a number of steps.  Comments after the last step are skipped, so they do not
count against the budget.
-/
def run : Nat → Machine → Machine
  | 0, machine => if machine.running then machine.skipComments else machine
  | budget + 1, machine => if machine.running then run budget machine.step else machine

/-- Runs until the machine stops; there is no answer when the fuel does not suffice. -/
def runToStop? (fuel : Nat) (machine : Machine) : Option Machine :=
  let stopped := machine.run fuel
  if stopped.running then none else some stopped

/--
Runs with a budget, or without a limit when there is none.  A negative budget is spent at once.
Only a run without a limit needs fuel.
-/
def runWithin? (fuel : Nat) (budget : Option Int) (machine : Machine) : Option Machine :=
  match budget with
  | some steps => some (machine.run steps.toNat)
  | none => machine.runToStop? fuel

end Machine
end TapeMachine

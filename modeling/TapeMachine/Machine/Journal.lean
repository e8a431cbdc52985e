import TapeMachine.Machine.Basic

/-!
# The journal of a run

With verbose output a run is accompanied by a journal: whether the program was accepted, when
the tape grew, and how the run ended.  The journal is computed from the states of the run.
-/

namespace TapeMachine

/-- An entry of the journal. -/
inductive Event
  /-- The brackets of a program have been matched. -/
  | matched (loops characters : Nat)
  /-- A program was rejected. -/
  | rejected (rejection : Rejection)
  /-- The tape grew from one size to another. -/
  | grew (before after : Nat)
  /-- The run failed. -/
  | failed (failure : Failure)
  /-- The run reached the end of the program. -/
  | finished (cycles : Nat)
  deriving DecidableEq, Repr

namespace Event

/-- The line that reports an event. -/
def line : Event → String
  | matched loops characters =>
    "DEBUG brainfuck.loops: matched " ++ toString loops ++ " loops in " ++
      toString characters ++ " characters"
  | rejected rejection =>
    "DEBUG brainfuck.interpreter: rejected program: " ++ rejection.summary
  | grew before after =>
    "DEBUG brainfuck.tape: growing tape from " ++ toString before ++ " to " ++
      toString after ++ " cells"
  | failed failure =>
    "DEBUG brainfuck.interpreter: halted with " ++ failure.cause.name ++ " at ip=" ++
      toString failure.position ++ " after " ++ toString failure.cycles ++ " cycles"
  | finished cycles =>
    "DEBUG brainfuck.interpreter: program finished after " ++ toString cycles ++ " cycles"

end Event

namespace Program

/-- The event of accepting a program. -/
def matchedEvent (program : Program) : Event :=
  .matched program.loops.loopCount program.length

end Program

namespace Machine

/-- The events between two states of which the second is a step after the first. -/
def eventsBetween (before after : Machine) : List Event :=
  let growth :=
    match before.tape.extent, after.tape.extent with
    | .growable old, .growable new => if old = new then [] else [.grew old new]
    | _, _ => []
  let failure :=
    match before.status, after.status with
    | .running, .failed => after.failure?.toList.map .failed
    | _, _ => []
  growth ++ failure

/-- The event with which a run is closed. -/
def closingEvents (machine : Machine) : List Event :=
  match machine.status with
  | .finished => [.finished machine.cycles]
  | _ => []

/-- The events during at most a number of steps. -/
def events : Nat → Machine → List Event
  | 0, _ => []
  | budget + 1, machine =>
    if machine.running then
      let next := machine.step
      match machine.eventsBetween next with
      | [] => events budget next
      | found => found ++ events budget next
    else []

/-- The events of a run for at most a number of steps, closed by its end. -/
def journal (budget : Nat) (machine : Machine) : List Event :=
  machine.events budget ++ (machine.run budget).closingEvents

end Machine
end TapeMachine

import TapeMachine.Machine.Basic

/-!
# Outcomes

The outcome of a run: what it has written, how far it came, and at most one diagnostic.
-/

namespace TapeMachine

/-- What a run has come to. -/
structure Outcome where
  /-- The bytes written. -/
  output : Array UInt8
  /-- What went wrong, if anything did. -/
  diagnostic : Option Diagnostic := none
  /-- How many commands were completed. -/
  cycles : Nat := 0
  /-- The position in the program. -/
  position : Nat := 0
  /-- Whether the run was stopped by its budget. -/
  hitLimit : Bool := false
  deriving DecidableEq, Repr

namespace Outcome

/-- The outcome of a program that was rejected: nothing was run. -/
def ofRejection (rejection : Rejection) : Outcome :=
  { output := #[], diagnostic := some (.rejected rejection) }

/-- Whether the program ran to its end. -/
def ok (outcome : Outcome) : Bool :=
  outcome.diagnostic.isNone && !outcome.hitLimit

/-- The output as text, one character for each byte. -/
def text (outcome : Outcome) : String :=
  Text.ofLatinBytes outcome.output.toList

/-- The first byte written, unless there is a diagnostic. -/
def firstByte? (outcome : Outcome) : Option UInt8 :=
  if outcome.diagnostic.isSome then none else outcome.output[0]?

/-- The outcome itself, unless there is a diagnostic, which is raised. -/
def orRaise (outcome : Outcome) : Except Raised Outcome :=
  match outcome.diagnostic with
  | some diagnostic => .error diagnostic.raise
  | none => .ok outcome

end Outcome

namespace Machine

/-- The outcome of the run so far. -/
def outcome (machine : Machine) : Outcome :=
  { output := machine.output
    diagnostic := machine.failure?.map .failed
    cycles := machine.cycles
    position := machine.position
    hitLimit := machine.running }

end Machine
end TapeMachine

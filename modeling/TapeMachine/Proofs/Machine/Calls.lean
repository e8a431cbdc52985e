import TapeMachine.Proofs.Machine.Stepping

/-!
# Sequences of calls

A machine is driven from outside by calls: to take a step, to skip comments, or to run within a
budget or without a limit.  A run without a limit may not come to an end; it is given fuel, and
there is no answer when the fuel does not suffice.

What steps and skipping comments keep is kept by every sequence of calls, whatever the fuel.
-/

namespace TapeMachine

/-- A call that drives a machine. -/
inductive Call
  /-- Take one step. -/
  | step
  /-- Move to the next command. -/
  | skipComments
  /-- Run within a budget, or without a limit when there is none. -/
  | run (budget : Option Int)
  deriving DecidableEq, Repr

namespace Machine

/-- The machine after a call. -/
def answer? (fuel : Nat) (machine : Machine) : Call → Option Machine
  | .step => some machine.step
  | .skipComments => some machine.skipComments
  | .run budget => machine.runWithin? fuel budget

/-- The machine after calls in turn. -/
def answerAll? (fuel : Nat) : List Call → Machine → Option Machine
  | [], machine => some machine
  | call :: calls, machine => (machine.answer? fuel call).bind (answerAll? fuel calls)

/-- A run that has an answer, with a limit or without one, is a run for some number of steps. -/
theorem exists_eq_run_of_runWithin?
    {fuel : Nat}
    {budget : Option Int}
    {machine ended : Machine}
    (ends : machine.runWithin? fuel budget = some ended) :
    ∃ steps, ended = machine.run steps := by
  cases budget with
  | some limit =>
      cases ends
      exact ⟨_, rfl⟩
  | none =>
      simp only [runWithin?, runToStop?] at ends
      split_ifs at ends
      cases ends
      exact ⟨fuel, rfl⟩

/-- Everything that a call can do. -/
theorem answer?_cases
    {fuel : Nat}
    {machine next : Machine}
    {call : Call}
    (answered : machine.answer? fuel call = some next) :
    next = machine.step ∨ next = machine.skipComments ∨
      ∃ budget, next = machine.run budget := by
  cases call with
  | step =>
      cases answered
      exact Or.inl rfl
  | skipComments =>
      cases answered
      exact Or.inr (Or.inl rfl)
  | run budget => exact Or.inr (Or.inr (exists_eq_run_of_runWithin? answered))

/-- A property that every call keeps is kept by calls in turn. -/
theorem answerAll?_induction
    {property : Machine → Prop}
    {fuel : Nat}
    (kept : ∀ {machine next : Machine} {call : Call}, property machine →
      machine.answer? fuel call = some next → property next)
    {calls : List Call}
    {machine last : Machine}
    (holds : property machine)
    (reached : machine.answerAll? fuel calls = some last) :
    property last := by
  induction calls generalizing machine with
  | nil =>
      cases reached
      exact holds
  | cons call calls inductionHypothesis =>
      obtain ⟨next, answered, rest⟩ := Option.bind_eq_some_iff.mp reached
      exact inductionHypothesis (kept holds answered) rest

/-- A property that every call brings about holds after calls of which there is at least one. -/
theorem answerAll?_of_ne_nil
    {property : Machine → Prop}
    {fuel : Nat}
    (brought : ∀ {machine next : Machine} {call : Call},
      machine.answer? fuel call = some next → property next)
    {calls : List Call}
    {machine last : Machine}
    (nonempty : calls ≠ [])
    (reached : machine.answerAll? fuel calls = some last) :
    property last := by
  cases calls with
  | nil => exact absurd rfl nonempty
  | cons call calls =>
      obtain ⟨next, answered, rest⟩ := Option.bind_eq_some_iff.mp reached
      exact answerAll?_induction (fun _ => brought) (brought answered) rest

end Machine
end TapeMachine

import TapeMachine.Proofs.Machine.Dispatch
import TapeMachine.Proofs.Machine.Driving

/-!
# Machines in lockstep

Two machines may differ in something that their program cannot tell, such as the way in which input
reaches them or the numbers of their cells.  They then take up the same commands and come to the
same outcome.  To see this it is enough to say how the machines are related and what single commands
do to related machines; everything else that a run does concerns the position, the cycles and the
status, in which the machines agree.

Some differences are hidden only for a while.  So commands need to keep the relation only where the
first machine is in a safe state, and a run keeps it as long as it has come through safe states.
-/

namespace TapeMachine
namespace Machine

/-- Two machines are at the same point of the same program. -/
structure Abreast (machine other : Machine) : Prop where
  /-- The programs are the same. -/
  program : other.program = machine.program
  /-- The positions are the same. -/
  position : other.position = machine.position
  /-- As many commands have been completed. -/
  cycles : other.cycles = machine.cycles
  /-- The runs have come equally far. -/
  status : other.status = machine.status
  /-- Both have failed alike, or neither has. -/
  failure? : other.failure? = machine.failure?

/-- The same machine at another point of its program, where it may have failed. -/
def steer (machine : Machine) (position cycles : Nat) (status : Status)
    (failure? : Option Failure) : Machine :=
  { machine with
    position := position
    cycles := cycles
    status := status
    failure? := failure? }

/-- A relation between machines that commands keep wherever the first machine is in a safe state. -/
structure Lockstep (safe : Machine → Prop) (related : Machine → Machine → Prop) : Prop where
  /-- Related machines are at the same point. -/
  abreast : ∀ {machine other}, related machine other → machine.Abreast other
  /-- Related machines remain so if both are brought to another point. -/
  steer : ∀ {machine other}, related machine other → ∀ position cycles status failure?,
    related (machine.steer position cycles status failure?)
      (other.steer position cycles status failure?)
  /-- Related machines have the same byte under their cursors. -/
  cell : ∀ {machine other}, related machine other → safe machine → other.cell = machine.cell
  /-- A command fails on both machines, or its effects leave related machines behind. -/
  effect : ∀ {machine other command}, related machine other → safe machine →
    machine.command? = some command →
    (∃ cause, machine.effect command = .error cause ∧ other.effect command = .error cause) ∨
      ∃ changed otherChanged, machine.effect command = .ok changed ∧
        other.effect command = .ok otherChanged ∧ related changed otherChanged

theorem target_congr
    {machine other : Machine}
    (abreast : machine.Abreast other)
    (cell : other.cell = machine.cell)
    (command : Command) :
    other.target command = machine.target command := by
  have landing (taken : Bool) : other.landing taken = machine.landing taken := by
    rw [Machine.landing, Machine.landing, abreast.program, abreast.position]
  cases command with
  | loopOpen => rw [target, target, cell, landing]
  | loopClose => rw [target, target, cell, landing]
  | increment | decrement | moveLeft | moveRight | output | input => exact abreast.position

namespace Lockstep

variable {safe : Machine → Prop} {related : Machine → Machine → Prop} {machine other : Machine}

theorem skipComments
    (lockstep : Lockstep safe related)
    (same : related machine other) :
    related machine.skipComments other.skipComments := by
  obtain ⟨program, position, cycles, status, failure⟩ := lockstep.abreast same
  have follows : other.skipComments = other.steer machine.skipComments.position
      machine.skipComments.cycles machine.skipComments.status machine.failure? := by
    simp only [Machine.skipComments, program, position, status, Machine.steer, cycles, ← failure]
  rw [follows]
  exact lockstep.steer same _ _ _ _

theorem proceed
    (lockstep : Lockstep safe related)
    (same : related machine other)
    (target : Nat) :
    related (machine.proceed target) (other.proceed target) := by
  obtain ⟨-, -, cycles, status, failure⟩ := lockstep.abreast same
  have follows : other.proceed target = other.steer (target + 1) (machine.cycles + 1)
      machine.status machine.failure? := by
    rw [← cycles, ← status, ← failure]
    rfl
  rw [follows]
  exact lockstep.steer same _ _ _ _

theorem fail
    (lockstep : Lockstep safe related)
    (same : related machine other)
    (cause : FailureCause) :
    related (machine.fail cause) (other.fail cause) := by
  obtain ⟨program, position, cycles, -⟩ := lockstep.abreast same
  have follows : other.fail cause = other.steer machine.position machine.cycles
      .failed (machine.fail cause).failure? := by
    simp only [Machine.fail, Machine.steer, program, position, cycles]
  rw [follows]
  exact lockstep.steer same _ _ _ _

theorem running
    (lockstep : Lockstep safe related)
    (same : related machine other) :
    other.running = machine.running := by
  rw [Machine.running, Machine.running, (lockstep.abreast same).status]

theorem run_zero
    (lockstep : Lockstep safe related)
    (same : related machine other) :
    related (machine.run 0) (other.run 0) := by
  have sameRunning := lockstep.running same
  by_cases runs : machine.running
  · rw [run_zero_of_running runs, run_zero_of_running (sameRunning.trans runs)]
    exact lockstep.skipComments same
  · rw [run_of_not_running runs, run_of_not_running (by rwa [sameRunning])]
    exact same

/-- One more step keeps machines related if it starts in a safe state. -/
theorem run_one
    (lockstep : Lockstep safe related)
    (same : related machine other)
    (settled : machine.Settled)
    (safely : safe machine) :
    related (machine.run 1) (other.run 1) := by
  have abreast := lockstep.abreast same
  have sameRunning := lockstep.running same
  by_cases runs : machine.running
  · have otherRuns := sameRunning.trans runs
    obtain ⟨command, found⟩ := settled runs
    have otherFound : other.command? = some command := by
      rw [command?, abreast.program, abreast.position]
      exact found
    rcases lockstep.effect same safely found with ⟨cause, failed, otherFailed⟩ |
      ⟨changed, otherChanged, effect, otherEffect, still⟩
    · rw [run_one_of_error runs found failed, run_one_of_error otherRuns otherFound otherFailed]
      exact lockstep.fail same cause
    · rw [run_one_of_ok runs found effect, run_one_of_ok otherRuns otherFound otherEffect,
        target_congr abreast (lockstep.cell same safely)]
      exact lockstep.skipComments (lockstep.proceed still _)
  · rw [run_of_not_running runs, run_of_not_running (by rwa [sameRunning])]
    exact same

/-- A run through safe states keeps machines related. -/
theorem run
    (lockstep : Lockstep safe related)
    {budget : Nat}
    (same : related machine other)
    (safely : ∀ taken < budget, safe (machine.run taken)) :
    related (machine.run budget) (other.run budget) := by
  induction budget with
  | zero => exact lockstep.run_zero same
  | succ budget inductionHypothesis =>
      rw [run_succ_right, run_succ_right budget other]
      apply lockstep.run_one _ (machine.settled_run budget) (safely budget (Nat.lt_succ_self _))
      exact inductionHypothesis fun taken fewer => safely taken (Nat.lt_succ_of_lt fewer)

/-- What related machines have in common at the end of their runs is the same for both. -/
theorem map_runWithin?
    {Observed : Type}
    {observe : Machine → Observed}
    {fuel : Nat}
    {budget : Option Int}
    (lockstep : Lockstep safe related)
    (same : related machine other)
    (safely : ∀ taken < (Call.run budget).allowance fuel, safe (machine.run taken))
    (observed : ∀ {machine other}, related machine other → observe other = observe machine) :
    (other.runWithin? fuel budget).map observe = (machine.runWithin? fuel budget).map observe := by
  have ended := lockstep.run same safely
  cases budget with
  | some limit => exact congrArg some (observed ended)
  | none =>
      have sameRunning := lockstep.running ended
      simp only [Call.allowance] at ended sameRunning
      simp only [runWithin?, runToStop?, sameRunning]
      split_ifs with unfinished
      · rfl
      · exact congrArg some (observed ended)

end Lockstep
end Machine
end TapeMachine

import Mathlib.Tactic.Common
import TapeMachine.Machine.Basic

/-!
# Stepping

Laws of steps and runs that hold of every machine.  Skipping comments does not change how a
machine goes on, a machine that has stopped stays as it is, and running in two parts is running
for the sum of the budgets.  A step of a running machine either finds no command, and then it
does no more than skip the comments, or it performs the first command that it finds.
-/

namespace TapeMachine
namespace Program

theorem lt_length_of_command?
    {program : Program}
    {position : Nat}
    {command : Command}
    (found : program.command? position = some command) :
    position < program.length := by
  unfold command? at found
  by_contra outside
  rw [Array.getElem?_eq_none (Nat.le_of_not_lt outside)] at found
  cases found

theorem nextCommand_of_command?
    {program : Program}
    {position : Nat}
    {command : Command}
    (found : program.command? position = some command) :
    program.nextCommand position = position := by
  have inside : position < program.code.size := lt_length_of_command? found
  rw [command?, Array.getElem?_eq_getElem inside] at found
  rw [nextCommand, dif_pos inside]
  simp only [Option.bind_some] at found
  simp [found]

theorem nextCommand_of_comment
    {program : Program}
    {position : Nat}
    (inside : position < program.length)
    (comment : program.command? position = none) :
    program.nextCommand position = program.nextCommand (position + 1) := by
  change position < program.code.size at inside
  rw [command?, Array.getElem?_eq_getElem inside] at comment
  rw [nextCommand, dif_pos inside]
  simp only [Option.bind_some] at comment
  simp [comment]

theorem nextCommand_of_length_le
    {program : Program}
    {position : Nat}
    (outside : program.length ≤ position) :
    program.nextCommand position = position := by
  change program.code.size ≤ position at outside
  rw [nextCommand, dif_neg (Nat.not_lt.mpr outside)]

theorem le_nextCommand (program : Program) (position : Nat) :
    position ≤ program.nextCommand position := by
  fun_induction nextCommand program position with
  | case1 position inside comment inductionHypothesis => omega
  | case2 position inside command => exact Nat.le_refl position
  | case3 position outside => exact Nat.le_refl position

/-- Skipping comments does not leave the program. -/
theorem nextCommand_le_length
    {program : Program}
    {position : Nat}
    (inside : position ≤ program.length) :
    program.nextCommand position ≤ program.length := by
  fun_induction nextCommand program position with
  | case1 position within comment inductionHypothesis => exact inductionHypothesis within
  | case2 position within command => exact inside
  | case3 position outside => exact inside

/-- Skipping comments ends at a command or at the end of the program. -/
theorem exists_command?_nextCommand
    {program : Program}
    {position : Nat}
    (inside : program.nextCommand position < program.length) :
    ∃ command, program.command? (program.nextCommand position) = some command := by
  fun_induction nextCommand program position with
  | case1 position _ comment inductionHypothesis => exact inductionHypothesis inside
  | case2 position within command =>
      rw [command?, Array.getElem?_eq_getElem within, Option.bind_some]
      exact Option.isSome_iff_exists.mp (by simpa [Option.isSome_iff_ne_none] using command)
  | case3 position outside =>
      exact absurd inside outside

@[simp] theorem nextCommand_nextCommand (program : Program) (position : Nat) :
    program.nextCommand (program.nextCommand position) = program.nextCommand position := by
  by_cases inside : program.nextCommand position < program.length
  · obtain ⟨command, found⟩ := exists_command?_nextCommand inside
    exact nextCommand_of_command? found
  · exact nextCommand_of_length_le (Nat.le_of_not_lt inside)

end Program

namespace Machine

/-- A change of the tape, the input or the output: where a machine is and how it goes on stays. -/
structure SameControl (changed machine : Machine) : Prop where
  /-- The program stays. -/
  program : changed.program = machine.program
  /-- The policy stays. -/
  eof : changed.eof = machine.eof
  /-- The position stays. -/
  position : changed.position = machine.position
  /-- The number of completed commands stays. -/
  cycles : changed.cycles = machine.cycles
  /-- The status stays. -/
  status : changed.status = machine.status
  /-- The failure stays, if there is one. -/
  failure? : changed.failure? = machine.failure?

theorem running_iff (machine : Machine) : machine.running ↔ machine.status = .running := by
  simp [running]

/-! ## Failures -/

/-- A machine holds a failure exactly if it has failed. -/
def Coherent (machine : Machine) : Prop :=
  machine.failure?.isSome ↔ machine.status = .failed

namespace Coherent

variable {machine : Machine}

theorem failure?_eq_none
    (coherent : machine.Coherent)
    (unfailed : machine.status ≠ .failed) :
    machine.failure? = none := by
  rw [← Option.not_isSome_iff_eq_none]
  exact mt coherent.mp unfailed

theorem failure?_of_running
    (coherent : machine.Coherent)
    (runs : machine.running) :
    machine.failure? = none := by
  apply coherent.failure?_eq_none
  rw [running_iff] at runs
  rw [runs]
  exact Status.noConfusion

theorem of_failure?_eq_none
    (clean : machine.failure? = none)
    (unfailed : machine.status ≠ .failed) :
    machine.Coherent := by
  rw [Coherent, clean]
  simpa using unfailed

theorem not_running_of_failure?
    {failure : Failure}
    (coherent : machine.Coherent)
    (failed : machine.failure? = some failure) :
    ¬ machine.running := by
  intro runs
  rw [coherent.failure?_of_running runs] at failed
  cases failed

/-- A machine that runs does not fail by skipping comments. -/
theorem skipComments
    (coherent : machine.Coherent)
    (runs : machine.running) :
    machine.skipComments.Coherent := by
  have clean : machine.skipComments.failure? = none := coherent.failure?_of_running runs
  rw [running_iff] at runs
  apply of_failure?_eq_none clean
  simp only [Machine.skipComments, runs]
  split_ifs <;> exact Status.noConfusion

/-- A machine that runs does not fail by completing a command. -/
theorem advance
    (coherent : machine.Coherent)
    (runs : machine.running)
    (position : Nat) :
    (machine.advance position).Coherent := by
  have clean : (machine.advance position).failure? = none := coherent.failure?_of_running runs
  rw [running_iff] at runs
  apply of_failure?_eq_none clean
  simp only [Machine.advance, runs]
  split_ifs <;> exact Status.noConfusion

theorem fail (machine : Machine) (cause : FailureCause) : (machine.fail cause).Coherent := by
  simp [Coherent, Machine.fail]

end Coherent

/-! ## Skipping comments -/

theorem skipComments_of_command?
    {machine : Machine}
    {command : Command}
    (found : machine.command? = some command) :
    machine.skipComments = machine := by
  have inside := Program.lt_length_of_command? found
  unfold skipComments
  rw [Program.nextCommand_of_command? found]
  simp [Nat.not_le.mpr inside]

@[simp] theorem skipComments_skipComments (machine : Machine) :
    machine.skipComments.skipComments = machine.skipComments := by
  unfold skipComments
  simp only [Program.nextCommand_nextCommand]
  split_ifs <;> rfl

/-- A machine that still runs after skipping comments has found a command. -/
theorem exists_command?_of_running_skipComments
    {machine : Machine}
    (runs : machine.skipComments.running) :
    ∃ command, machine.skipComments.command? = some command := by
  apply Program.exists_command?_nextCommand
  change machine.program.nextCommand machine.position < machine.program.length
  by_contra outside
  rw [running_iff, skipComments] at runs
  simp [Nat.le_of_not_lt outside] at runs

/-! ## Steps -/

theorem step_of_not_running
    {machine : Machine}
    (stopped : ¬ machine.running) :
    machine.step = machine := by
  rw [step, if_neg stopped]

/-- A step that finds no command only skips comments. -/
theorem step_of_not_running_skipComments
    {machine : Machine}
    (runs : machine.running)
    (stopped : ¬ machine.skipComments.running) :
    machine.step = machine.skipComments := by
  rw [step, if_pos runs]
  simp only [if_neg stopped]

/-- A step performs the command that it finds behind the comments. -/
theorem step_of_command?_skipComments
    {machine : Machine}
    {command : Command}
    (runs : machine.running)
    (stillRuns : machine.skipComments.running)
    (found : machine.skipComments.command? = some command) :
    machine.step = machine.skipComments.perform command := by
  rw [step, if_pos runs]
  simp only [if_pos stillRuns, found]

theorem step_of_command?
    {machine : Machine}
    {command : Command}
    (runs : machine.running)
    (found : machine.command? = some command) :
    machine.step = machine.perform command := by
  have same := skipComments_of_command? found
  have stepped := step_of_command?_skipComments runs (by rwa [same]) (by rwa [same])
  rwa [same] at stepped

/-- Everything that a step can do. -/
theorem step_cases (machine : Machine) :
    (¬ machine.running ∧ machine.step = machine) ∨
      (machine.running ∧ ¬ machine.skipComments.running ∧
        machine.step = machine.skipComments) ∨
      (machine.running ∧ machine.skipComments.running ∧
        ∃ command, machine.skipComments.command? = some command ∧
          machine.step = machine.skipComments.perform command) := by
  by_cases runs : machine.running
  · by_cases stillRuns : machine.skipComments.running
    · obtain ⟨command, found⟩ := exists_command?_of_running_skipComments stillRuns
      exact Or.inr (Or.inr ⟨runs, stillRuns, command, found,
        step_of_command?_skipComments runs stillRuns found⟩)
    · exact Or.inr (Or.inl ⟨runs, stillRuns, step_of_not_running_skipComments runs stillRuns⟩)
  · exact Or.inl ⟨runs, step_of_not_running runs⟩

/-- Comments that have been skipped make no difference to the next step. -/
theorem step_skipComments
    {machine : Machine}
    (runs : machine.running) :
    machine.skipComments.step = machine.step := by
  by_cases stillRuns : machine.skipComments.running
  · obtain ⟨command, found⟩ := exists_command?_of_running_skipComments stillRuns
    rw [step_of_command?_skipComments runs stillRuns found, step_of_command? stillRuns found]
  · rw [step_of_not_running stillRuns, step_of_not_running_skipComments runs stillRuns]

/-! ## Runs -/

theorem run_zero_of_running
    {machine : Machine}
    (runs : machine.running) :
    machine.run 0 = machine.skipComments := by
  rw [run, if_pos runs]

theorem run_of_not_running
    {machine : Machine}
    (stopped : ¬ machine.running)
    (budget : Nat) :
    machine.run budget = machine := by
  cases budget with
  | zero => rw [run, if_neg stopped]
  | succ budget => rw [run, if_neg stopped]

/-- A run takes a step and goes on with what is left of its budget. -/
theorem run_succ (budget : Nat) (machine : Machine) :
    machine.run (budget + 1) = machine.step.run budget := by
  by_cases runs : machine.running
  · rw [run, if_pos runs]
  · rw [step_of_not_running runs, run_of_not_running runs, run_of_not_running runs]

/-- Comments that have been skipped make no difference to a run. -/
theorem run_skipComments
    {machine : Machine}
    (runs : machine.running)
    (budget : Nat) :
    machine.skipComments.run budget = machine.run budget := by
  cases budget with
  | zero =>
      rw [run_zero_of_running runs]
      by_cases stillRuns : machine.skipComments.running
      · rw [run_zero_of_running stillRuns, skipComments_skipComments]
      · exact run_of_not_running stillRuns 0
  | succ budget => rw [run_succ, run_succ, step_skipComments runs]

/-- Running in two parts is running for the sum of the budgets. -/
theorem run_add (first second : Nat) (machine : Machine) :
    machine.run (first + second) = (machine.run first).run second := by
  induction first generalizing machine with
  | zero =>
      rw [Nat.zero_add]
      by_cases runs : machine.running
      · rw [run_zero_of_running runs, run_skipComments runs]
      · rw [run_of_not_running runs 0]
  | succ first inductionHypothesis =>
      have total : first + 1 + second = first + second + 1 := by omega
      rw [total, run_succ, inductionHypothesis, run_succ]

/-- Completes a command and goes on behind a position without looking for the end. -/
def proceed (machine : Machine) (position : Nat) : Machine :=
  { machine with position := position + 1, cycles := machine.cycles + 1 }

/-- Whether the end is noticed at once or with the next comments makes no difference to a run. -/
theorem run_advance
    {machine : Machine}
    (runs : machine.running)
    (position budget : Nat) :
    (machine.advance position).run budget = (machine.proceed position).run budget := by
  have stillRuns : (machine.proceed position).running := runs
  by_cases atEnd : machine.program.length ≤ position + 1
  · have noticed : (machine.proceed position).skipComments = machine.advance position := by
      unfold skipComments advance proceed
      simp only [Program.nextCommand_of_length_le atEnd]
    rw [← noticed, run_skipComments stillRuns]
  · have same : machine.advance position = machine.proceed position := by
      unfold advance proceed
      rw [if_neg atEnd]
    rw [same]

/-- A comment at the position of a machine makes no difference to a run. -/
theorem run_comment
    {machine : Machine}
    (runs : machine.running)
    (inside : machine.position < machine.program.length)
    (comment : machine.command? = none)
    (budget : Nat) :
    machine.run budget = { machine with position := machine.position + 1 }.run budget := by
  have stillRuns : { machine with position := machine.position + 1 }.running := runs
  rw [← run_skipComments runs, ← run_skipComments stillRuns]
  unfold skipComments
  rw [Program.nextCommand_of_comment inside comment]

/-- A run takes up the command at the position of the machine. -/
theorem run_of_command?
    {machine : Machine}
    {command : Command}
    (runs : machine.running)
    (found : machine.command? = some command)
    (budget : Nat) :
    machine.run (1 + budget) = (machine.perform command).run budget := by
  rw [Nat.add_comm, run_succ, step_of_command? runs found]

/-- A property that steps and skipping comments keep is kept by every run. -/
theorem run_induction
    {property : Machine → Prop}
    (keptByStep : ∀ machine, property machine → property machine.step)
    (keptBySkip : ∀ machine, property machine → property machine.skipComments)
    {machine : Machine}
    (holds : property machine)
    (budget : Nat) :
    property (machine.run budget) := by
  induction budget generalizing machine with
  | zero =>
      by_cases runs : machine.running
      · rw [run_zero_of_running runs]
        exact keptBySkip machine holds
      · rwa [run_of_not_running runs]
  | succ budget inductionHypothesis =>
      rw [run_succ]
      exact inductionHypothesis (keptByStep machine holds)

end Machine
end TapeMachine

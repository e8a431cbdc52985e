import TapeMachine.Proofs.Machine.Budget
import TapeMachine.Proofs.Machine.Driving

/-!
# Histories

What a machine has done so far is a list of turns, one for each command that it has taken up, with
the machines before and after it.  Along calls the turns of each call follow those of the calls
before.  Since calls amount to one run, so do their turns: a fact about reached machines and their
histories only needs to be shown for the turns of a run, one turn at a time.
-/

namespace TapeMachine

/-- A command that a machine has taken up. -/
structure Turn where
  /-- The command. -/
  command : Command
  /-- The machine that stands at the command. -/
  before : Machine
  /-- The machine after the command. -/
  after : Machine

namespace Machine

/-- The turn that the next step takes, if it finds a command. -/
def turn? (machine : Machine) : Option Turn :=
  machine.next?.map fun command => ⟨command, machine.skipComments, machine.step⟩

/-- The turns that a machine takes within a budget, in order. -/
def turns : Nat → Machine → List Turn
  | 0, _ => []
  | budget + 1, machine => machine.turn?.toList ++ turns budget machine.step

/-- The turns that a machine takes along calls, in order. -/
def turnsAlong (fuel : Nat) : List Call → Machine → List Turn
  | [], _ => []
  | call :: calls, machine =>
    machine.turns (call.allowance fuel) ++
      (machine.answer? fuel call).elim [] (turnsAlong fuel calls)

/-! ## Turns of a run -/

theorem turn?_of_not_running
    {machine : Machine}
    (stopped : ¬ machine.running) :
    machine.turn? = none := by
  rw [turn?, next?_of_not_running stopped, Option.map_none]

/-- A machine that stands at a command takes its turn there. -/
theorem turn?_of_command?
    {machine : Machine}
    {command : Command}
    (runs : machine.running)
    (found : machine.command? = some command) :
    machine.turn? = some ⟨command, machine, machine.perform command⟩ := by
  rw [turn?, next?_of_command? runs found, skipComments_of_command? found,
    step_of_command? runs found, Option.map_some]

theorem turn?_run_zero (machine : Machine) : (machine.run 0).turn? = machine.turn? := by
  by_cases runs : machine.running
  · have sameNext := machine.next?_run_zero
    rw [run_zero_of_running runs] at sameNext ⊢
    rw [turn?, turn?, sameNext, skipComments_skipComments, step_skipComments runs]
  · rw [run_of_not_running runs]

/-- The last turn of a run is the one of the machine that the run up to it has left behind. -/
theorem turns_succ (budget : Nat) (machine : Machine) :
    machine.turns (budget + 1) =
      machine.turns budget ++ (machine.run budget).turn?.toList := by
  induction budget generalizing machine with
  | zero => simp [turns, turn?_run_zero]
  | succ budget inductionHypothesis =>
      rw [turns, inductionHypothesis, turns, run_succ, List.append_assoc]

/-- The turns of two runs in a row are those of one run. -/
theorem turns_add (first second : Nat) (machine : Machine) :
    machine.turns (first + second) =
      machine.turns first ++ (machine.run first).turns second := by
  induction second with
  | zero => simp [turns]
  | succ second inductionHypothesis =>
      rw [← Nat.add_assoc, turns_succ, inductionHypothesis, turns_succ, run_add,
        List.append_assoc]

theorem turns_run_zero (machine : Machine) (budget : Nat) :
    (machine.run 0).turns budget = machine.turns budget := by
  have split := machine.turns_add 0 budget
  rw [Nat.zero_add] at split
  exact split.symm

/-- Every turn of a run is taken by a machine that the run has led to and that still runs. -/
theorem exists_of_mem_turns
    {machine : Machine}
    {budget : Nat}
    {turn : Turn}
    (member : turn ∈ machine.turns budget) :
    ∃ earlier, (machine.run earlier).running ∧
      turn = ⟨turn.command, machine.run earlier, (machine.run earlier).perform turn.command⟩ := by
  induction budget with
  | zero => cases member
  | succ budget inductionHypothesis =>
      rw [turns_succ, List.mem_append, Option.mem_toList] at member
      rcases member with before | last
      · exact inductionHypothesis before
      · by_cases runs : (machine.run budget).running
        · obtain ⟨command, found⟩ := machine.settled_run budget runs
          rw [turn?_of_command? runs found] at last
          cases last
          exact ⟨budget, runs, rfl⟩
        · rw [turn?_of_not_running runs] at last
          cases last

/-! ## Turns along calls -/

namespace Sound

variable {program : Program} {start : Extent} {machine : Machine}

/-- The turns along calls are those of one run with the sum of the allowances as its budget. -/
theorem turnsAlong_eq
    {fuel : Nat}
    {calls : List Call}
    {last : Machine}
    (sound : machine.Sound program start)
    (reached : machine.answerAll? fuel calls = some last) :
    machine.turnsAlong fuel calls = machine.turns (calls.map (Call.allowance fuel)).sum := by
  induction calls generalizing machine with
  | nil => rfl
  | cons call calls inductionHypothesis =>
      obtain ⟨next, answered, rest⟩ := Option.bind_eq_some_iff.mp reached
      have sameRun := sound.run_of_answer? answered 0
      rw [turnsAlong, answered, Option.elim_some,
        inductionHypothesis (sound.answer? answered) rest, List.map_cons, List.sum_cons,
        turns_add, ← turns_run_zero next, sameRun, Nat.add_zero]

end Sound

/-! ## Reached machines -/

/-- A run without a budget settles the position and the status and changes nothing else. -/
theorem exists_run_zero_eq (machine : Machine) :
    ∃ position status,
      machine.run 0 = { machine with position := position, status := status } := by
  by_cases runs : machine.running
  · rw [run_zero_of_running runs]
    exact ⟨_, _, rfl⟩
  · rw [run_of_not_running runs]
    exact ⟨_, _, rfl⟩

end Machine

namespace Settings

/--
A machine that calls have led to has the history of a run, and it differs from the machine to which
that run leads at most in the position and the status.
-/
theorem exists_run_of_answerAll?
    {settings : Settings}
    {program : Program}
    {source : Source}
    {sink : Sink}
    {fuel : Nat}
    {calls : List Call}
    {machine : Machine}
    (reached : (settings.launch program source sink).answerAll? fuel calls = some machine) :
    ∃ steps position status,
      (settings.launch program source sink).turnsAlong fuel calls =
          (settings.launch program source sink).turns steps ∧
        (settings.launch program source sink).run steps =
          { machine with position := position, status := status } := by
  have sound := settings.launch_sound program source sink
  obtain ⟨position, status, settled⟩ := machine.exists_run_zero_eq
  refine ⟨_, position, status, sound.turnsAlong_eq reached, ?_⟩
  rw [← settled, sound.run_of_answerAll? reached, Nat.add_zero]

end Settings
end TapeMachine

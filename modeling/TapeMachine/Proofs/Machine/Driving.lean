import TapeMachine.Proofs.Machine.Invariant

/-!
# How a machine is driven

Steps, skipping comments and runs are different ways of driving one machine, and it does not
matter which of them are used.  Every call has an allowance, the number of steps that it may take.
A run that follows a call goes on as a run from before the call does that has the allowance in its
budget as well.  So calls that end with skipping comments leave a machine where a single run leaves
it whose budget is the sum of the allowances.

This rests on what skipping comments does to a machine that has stopped.  It does nothing, because a
sound machine stops only at the end of its program or at a move.
-/

namespace TapeMachine

/-- The number of steps that a call may take; a run without a limit may use up its fuel. -/
def Call.allowance (fuel : Nat) : Call → Nat
  | .step => 1
  | .skipComments => 0
  | .run (some budget) => budget.toNat
  | .run none => fuel

namespace Machine

/-- Every call but a run without a limit has an answer. -/
theorem exists_answer?
    {call : Call}
    (limited : call ≠ .run none)
    (fuel : Nat)
    (machine : Machine) :
    ∃ next, machine.answer? fuel call = some next := by
  cases call with
  | step => exact ⟨_, rfl⟩
  | skipComments => exact ⟨_, rfl⟩
  | run budget =>
      cases budget with
      | some steps => exact ⟨_, rfl⟩
      | none => exact absurd rfl limited

theorem exists_answerAll?
    {calls : List Call}
    (limited : ∀ call ∈ calls, call ≠ .run none)
    (fuel : Nat)
    (machine : Machine) :
    ∃ last, machine.answerAll? fuel calls = some last := by
  induction calls generalizing machine with
  | nil => exact ⟨machine, rfl⟩
  | cons call calls inductionHypothesis =>
      obtain ⟨limitedCall, limitedRest⟩ := List.forall_mem_cons.mp limited
      obtain ⟨next, answered⟩ := exists_answer? limitedCall fuel machine
      obtain ⟨last, reached⟩ := inductionHypothesis limitedRest next
      refine ⟨last, ?_⟩
      rw [answerAll?, answered, Option.bind_some, reached]

theorem answerAll?_append
    (fuel : Nat)
    (first second : List Call)
    (machine : Machine) :
    machine.answerAll? fuel (first ++ second) =
      (machine.answerAll? fuel first).bind (answerAll? fuel second) := by
  induction first generalizing machine with
  | nil => rfl
  | cons call calls inductionHypothesis =>
      rw [List.cons_append, answerAll?, answerAll?, Option.bind_assoc]
      apply Option.bind_congr
      intro next _
      exact inductionHypothesis next

namespace Sound

variable {program : Program} {start : Extent} {machine : Machine}

theorem skipComments_of_not_running
    (sound : machine.Sound program start)
    (stopped : ¬ machine.running) :
    machine.skipComments = machine := by
  cases status : machine.status with
  | running => exact absurd ((running_iff machine).mpr status) stopped
  | finished =>
      have atEnd : machine.program.length ≤ machine.position := by
        rw [sound.program_eq, sound.finished_at_end status]
      unfold Machine.skipComments
      simp only [Program.nextCommand_of_length_le atEnd, if_pos atEnd, ← status]
  | failed => exact sound.skipComments_of_failed status

/-- Skipping comments is running with no budget. -/
theorem skipComments_eq_run_zero (sound : machine.Sound program start) :
    machine.skipComments = machine.run 0 := by
  by_cases runs : machine.running
  · rw [run_zero_of_running runs]
  · rw [sound.skipComments_of_not_running runs, run_of_not_running runs]

/-- A machine that has stopped answers every call with itself. -/
theorem answer?_of_not_running
    (sound : machine.Sound program start)
    (stopped : ¬ machine.running)
    (fuel : Nat)
    (call : Call) :
    machine.answer? fuel call = some machine := by
  cases call with
  | step => rw [Machine.answer?, step_of_not_running stopped]
  | skipComments => rw [Machine.answer?, sound.skipComments_of_not_running stopped]
  | run budget =>
      cases budget with
      | some steps => rw [Machine.answer?, runWithin?, run_of_not_running stopped]
      | none =>
          rw [Machine.answer?, runWithin?, runToStop?]
          simp only [run_of_not_running stopped, if_neg stopped]

/-- What a call has done counts as its allowance towards the budget of the run that follows. -/
theorem run_of_answer?
    {fuel : Nat}
    {call : Call}
    {next : Machine}
    (sound : machine.Sound program start)
    (answered : machine.answer? fuel call = some next)
    (budget : Nat) :
    next.run budget = machine.run (call.allowance fuel + budget) := by
  cases call with
  | step =>
      cases answered
      rw [Call.allowance, Nat.add_comm, run_succ]
  | skipComments =>
      cases answered
      rw [Call.allowance, run_add, sound.skipComments_eq_run_zero]
  | run limit =>
      cases limit with
      | some steps =>
          cases answered
          rw [Call.allowance, run_add]
      | none =>
          simp only [Machine.answer?, runWithin?, runToStop?] at answered
          split_ifs at answered
          cases answered
          rw [Call.allowance, run_add]

theorem run_of_answerAll?
    {fuel : Nat}
    {calls : List Call}
    {last : Machine}
    (sound : machine.Sound program start)
    (reached : machine.answerAll? fuel calls = some last)
    (budget : Nat) :
    last.run budget = machine.run ((calls.map (Call.allowance fuel)).sum + budget) := by
  induction calls generalizing machine with
  | nil =>
      cases reached
      rw [List.map_nil, List.sum_nil, Nat.zero_add]
  | cons call calls inductionHypothesis =>
      obtain ⟨next, answered, rest⟩ := Option.bind_eq_some_iff.mp reached
      rw [inductionHypothesis (sound.answer? answered) rest, sound.run_of_answer? answered,
        List.map_cons, List.sum_cons, Nat.add_assoc]

end Sound
end Machine

namespace Settings

/--
Whatever steps, skips of comments and runs within a budget drive a machine, once the comments have
been skipped at the end it is in the state to which one run from the start leads, with the sum of
the allowances as its budget.  In particular two runs in turn are one run with the sum of their
budgets, and a machine that has stopped stays as it is whatever it is asked.
-/
theorem calls_amount_to_one_run
    (settings : Settings)
    (program : Program)
    (source : Source)
    (sink : Sink)
    (fuel : Nat) :
    (∀ calls : List Call, (∀ call ∈ calls, call ≠ .run none) →
      ∃ last,
        (settings.launch program source sink).answerAll? fuel (calls ++ [.skipComments]) =
            some last ∧
          (settings.launch program source sink).answerAll? fuel
            [.run (some (calls.map (Call.allowance fuel)).sum)] = some last) ∧
      ∀ (calls : List Call) (reached : Machine),
        (settings.launch program source sink).answerAll? fuel calls = some reached →
          (∀ first second : Nat,
            reached.answerAll? fuel [.run (some first), .run (some second)] =
              reached.answerAll? fuel [.run (some (first + second : Nat))]) ∧
          (¬ reached.running → ∀ call, reached.answer? fuel call = some reached) := by
  have sound := settings.launch_sound program source sink
  constructor
  · intro calls limited
    obtain ⟨last, reached⟩ :=
      Machine.exists_answerAll? limited fuel (settings.launch program source sink)
    refine ⟨last.skipComments, ?_, ?_⟩
    · rw [Machine.answerAll?_append, reached]
      rfl
    · have total := sound.run_of_answerAll? reached 0
      rw [Nat.add_zero] at total
      rw [(sound.answerAll? reached).skipComments_eq_run_zero, total]
      rfl
  · intro calls reached answered
    constructor
    · intro first second
      exact congrArg some (Machine.run_add first second reached).symm
    · intro stopped call
      exact (sound.answerAll? answered).answer?_of_not_running stopped fuel call

/-- A step, a run and a skip on a program with comments, which together allow four steps. -/
theorem calls_amount_to_run_of_four :
    ∃ program, Program.parse "a+[b-]c<" = .ok program ∧
      (({} : Settings).launch program .closed .absent).answerAll? 0
          [.step, .skipComments, .run (some 3), .skipComments] =
        (({} : Settings).launch program .closed .absent).answerAll? 0 [.run (some 4)] := by
  let program : Program :=
    ⟨#['a', '+', '[', 'b', '-', ']', 'c', '<'], LoopTable.empty.insertLoop 2 5, rfl⟩
  obtain ⟨amounts, -⟩ := calls_amount_to_one_run {} program .closed .absent 0
  obtain ⟨last, driven, ran⟩ := amounts [.step, .skipComments, .run (some 3)] (by decide)
  exact ⟨program, rfl, driven.trans ran.symm⟩

end Settings
end TapeMachine

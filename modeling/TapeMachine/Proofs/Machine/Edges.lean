import TapeMachine.Proofs.Machine.Accounting

/-!
# At the edges of the tape

A command fails only if it would take the cursor beyond an end of the tape.  On the left that is a
move from the first cell of a bounded or a growable tape, on the right a move from the last cell of
a bounded tape.  A growable tape may have cells that the cursor has never come to, so that its size
says nothing about where it fails; a sparse tape has no ends.

A command that fails has no effect.  The machine stands at the command, knows why and where it has
failed, and is otherwise as it was; and it stays so whatever it is asked afterwards.
-/

namespace TapeMachine
namespace Extent

/-- An index lies beyond an end of the tape, on the side that a cause names. -/
def Beyond : Extent → Int → FailureCause → Prop
  | bounded _, index, .underflow => index < 0
  | bounded size, index, .overflow => size ≤ index
  | growable _, index, .underflow => index < 0
  | growable _, _, .overflow => False
  | sparse _, _, _ => False

theorem Contains.not_beyond
    {extent : Extent}
    {index : Int}
    (contained : extent.Contains index)
    (cause : FailureCause) :
    ¬ extent.Beyond index cause := by
  cases extent with
  | bounded size =>
      obtain ⟨nonnegative, below⟩ := contained
      cases cause with
      | underflow => exact Int.not_lt.mpr nonnegative
      | overflow => exact Int.not_le.mpr below
  | growable size =>
      cases cause with
      | underflow => exact Int.not_lt.mpr contained.1
      | overflow => exact not_false
  | sparse modulus => exact not_false

theorem Grows.policy_eq
    {before after : Extent}
    (grows : before.Grows after) :
    after.policy = before.policy := by
  rcases grows.eq_or_growable with rfl | ⟨size, larger, rfl, rfl, -⟩
  · rfl
  · rfl

end Extent

/-- A move is refused exactly if it would end beyond an end of the tape. -/
theorem Tape.move_eq_error_iff
    {tape : Tape}
    {index distance : Int}
    {fault : AddressingFault} :
    tape.move index distance = .error fault ↔
      fault.index = index + distance ∧ tape.extent.Beyond (index + distance) fault.cause := by
  obtain ⟨cause, target⟩ := fault
  obtain ⟨extent, cells⟩ := tape
  cases extent with
  | bounded size =>
      simp only [move]
      split_ifs with below beyond
      · cases cause <;> simp [Extent.Beyond] <;> omega
      · cases cause <;> simp [Extent.Beyond] <;> omega
      · cases cause <;> simp [Extent.Beyond] <;> omega
  | growable size =>
      simp only [move]
      split_ifs with below
      · cases cause <;> simp [Extent.Beyond, below, eq_comm]
      · cases cause <;> simp [Extent.Beyond, Int.not_lt.mp below]
  | sparse modulus =>
      cases modulus with
      | none => simp [move, Extent.Beyond]
      | some modulus => simp [move, Extent.Beyond]

namespace Program

/-- The first command at or after a position: only comments come before it. -/
structure NextAt (program : Program) (start position : Nat) (command : Command) : Prop where
  /-- The command does not come before the position. -/
  start_le : start ≤ position
  /-- Nothing in between is a command. -/
  comments : ∀ between, start ≤ between → between < position → program.command? between = none
  /-- The command stands there. -/
  command : program.command? position = some command

theorem NextAt.nextCommand_eq
    {program : Program}
    {start position : Nat}
    {command : Command}
    (next : program.NextAt start position command) :
    program.nextCommand start = position := by
  obtain ⟨distance, rfl⟩ := Nat.exists_eq_add_of_le next.start_le
  induction distance generalizing start with
  | zero => exact nextCommand_of_command? next.command
  | succ distance inductionHypothesis =>
      have shift : start + (distance + 1) = start + 1 + distance := by omega
      have inside : start < program.length := by
        have := lt_length_of_command? next.command
        omega
      rw [nextCommand_of_comment inside (next.comments start (Nat.le_refl _) (by omega)), shift]
      apply inductionHypothesis
      refine ⟨by omega, fun between after before => ?_, shift ▸ next.command⟩
      exact next.comments between (by omega) (by omega)

end Program

namespace Machine

/-! ## Commands that fail -/

theorem stride_le_one (command : Command) : -1 ≤ stride command ∧ stride command ≤ 1 := by
  cases command <;> decide

theorem stride_eq_neg_one_iff {command : Command} :
    stride command = -1 ↔ command = .moveLeft := by
  cases command <;> decide

theorem stride_eq_one_iff {command : Command} :
    stride command = 1 ↔ command = .moveRight := by
  cases command <;> decide

theorem shift_eq_error_iff
    {machine : Machine}
    {distance : Int}
    {cause : FailureCause} :
    machine.shift distance = .error cause ↔
      machine.tape.extent.Beyond (machine.cursor + distance) cause := by
  constructor
  · intro failed
    cases moved : machine.tape.move machine.cursor distance with
    | ok reached =>
        rw [shift_of_ok moved] at failed
        cases failed
    | error fault =>
        rw [shift_of_error moved] at failed
        cases failed
        exact (Tape.move_eq_error_iff.mp moved).2
  · intro beyond
    have refused : machine.tape.move machine.cursor distance =
        .error ⟨cause, machine.cursor + distance⟩ :=
      Tape.move_eq_error_iff.mpr ⟨rfl, beyond⟩
    exact shift_of_error refused

/-- A command fails exactly if it would take the cursor beyond an end of the tape. -/
theorem effect_eq_error_iff
    {machine : Machine}
    {command : Command}
    {cause : FailureCause}
    (contained : machine.tape.extent.Contains machine.cursor) :
    machine.effect command = .error cause ↔
      machine.tape.extent.Beyond (machine.cursor + stride command) cause := by
  cases command with
  | moveLeft => exact shift_eq_error_iff
  | moveRight => exact shift_eq_error_iff
  | increment | decrement | output | input | loopOpen | loopClose =>
      have stays := contained.not_beyond cause
      simpa [effect, stride] using stays

/-- A machine that has failed at a command stands there with the cause of the failure. -/
theorem exists_perform_eq_fail
    {machine : Machine}
    {command : Command}
    (runs : machine.running)
    (failed : (machine.perform command).status = .failed) :
    ∃ cause, machine.effect command = .error cause ∧
      machine.perform command = machine.fail cause := by
  rw [perform_eq] at failed ⊢
  cases effect : machine.effect command with
  | error cause => exact ⟨cause, rfl, rfl⟩
  | ok changed =>
      have changedRuns := (running_iff _).mp ((sameControl_effect effect).running runs)
      rw [effect] at failed
      simp only [advance, changedRuns] at failed
      split_ifs at failed

/-- A machine has failed with a cause and says so. -/
def FailedBy (machine : Machine) (cause : FailureCause) : Prop :=
  machine.status = .failed ∧
    ∃ failure, machine.failure? = some failure ∧ failure.cause = cause

/-- A machine fails at a command exactly if the command has no effect. -/
theorem failedBy_perform_iff
    {machine : Machine}
    {command : Command}
    {cause : FailureCause}
    (runs : machine.running) :
    (machine.perform command).FailedBy cause ↔ machine.effect command = .error cause := by
  constructor
  · rintro ⟨failed, failure, isFailure, rfl⟩
    obtain ⟨cause, noEffect, stopped⟩ := exists_perform_eq_fail runs failed
    rw [stopped] at isFailure
    cases isFailure
    exact noEffect
  · intro noEffect
    rw [perform_eq, noEffect]
    exact ⟨rfl, _, rfl, rfl⟩

/-- A step performs the first command ahead, at the position of the command. -/
theorem step_of_nextAt
    {machine : Machine}
    {position : Nat}
    {command : Command}
    (runs : machine.running)
    (next : machine.program.NextAt machine.position position command) :
    machine.step = { machine with position := position }.perform command := by
  have inside : ¬ machine.program.length ≤ position :=
    Nat.not_le.mpr (Program.lt_length_of_command? next.command)
  have skipped : machine.skipComments = { machine with position := position } := by
    unfold skipComments
    simp only [next.nextCommand_eq, if_neg inside]
  rw [← skipped]
  apply step_of_command?_skipComments runs
  · rw [skipped]
    exact runs
  · rw [skipped]
    exact next.command

/-- A machine that has stopped answers calls in turn with itself. -/
theorem Sound.answerAll?_of_not_running
    {program : Program}
    {start : Extent}
    {machine : Machine}
    (sound : machine.Sound program start)
    (stopped : ¬ machine.running)
    (fuel : Nat)
    (calls : List Call) :
    machine.answerAll? fuel calls = some machine := by
  induction calls with
  | nil => rfl
  | cons call calls inductionHypothesis =>
      rw [Machine.answerAll?, sound.answer?_of_not_running stopped, Option.bind_some]
      exact inductionHypothesis

end Machine

namespace Settings

/--
A command would take the cursor off the tape that settings ask for: to the left of the first cell
unless the tape is sparse, or to the right of the last cell of a bounded tape.
-/
def LeavesTape (settings : Settings) (command : Command) (cursor : Int) : FailureCause → Prop
  | .underflow => command = .moveLeft ∧ cursor = 0 ∧ settings.addressing ≠ .sparse
  | .overflow =>
      command = .moveRight ∧ cursor + 1 = settings.tapeSize.val ∧ settings.addressing = .bounded

/-- Where the ends of the tape are follows from the settings, however much the tape has grown. -/
theorem beyond_iff_leavesTape
    {settings : Settings}
    {extent : Extent}
    {cursor : Int}
    (grows : settings.extent.Grows extent)
    (contained : extent.Contains cursor)
    (command : Command)
    (cause : FailureCause) :
    extent.Beyond (cursor + Machine.stride command) cause ↔
      settings.LeavesTape command cursor cause := by
  have bounds := Machine.stride_le_one command
  have policy := grows.policy_eq
  unfold Settings.extent at grows policy
  cases addressing : settings.addressing with
  | bounded =>
      rw [addressing] at grows
      obtain rfl : Extent.bounded settings.tapeSize.val = extent := grows
      obtain ⟨nonnegative, below⟩ := contained
      cases cause with
      | underflow =>
          simp only [Extent.Beyond, LeavesTape, addressing, ← Machine.stride_eq_neg_one_iff]
          simp only [ne_eq, reduceCtorEq, not_false_eq_true, and_true]
          omega
      | overflow =>
          simp only [Extent.Beyond, LeavesTape, addressing, ← Machine.stride_eq_one_iff, and_true]
          omega
  | growable =>
      rw [addressing] at policy
      cases extent with
      | bounded size | sparse modulus => cases policy
      | growable size =>
          obtain ⟨nonnegative, below⟩ := contained
          cases cause with
          | underflow =>
              simp only [Extent.Beyond, LeavesTape, addressing, ← Machine.stride_eq_neg_one_iff]
              simp only [ne_eq, reduceCtorEq, not_false_eq_true, and_true]
              omega
          | overflow => simp [Extent.Beyond, LeavesTape, addressing]
  | sparse =>
      rw [addressing] at policy
      cases extent with
      | bounded size | growable size => cases policy
      | sparse modulus => cases cause <;> simp [Extent.Beyond, LeavesTape, addressing]

/--
Moves fail exactly at the edges of the tape, and without effect.  In every state that calls can
reach and in which the machine runs, the next step fails with a cause exactly if the first command
ahead would take the cursor off the tape on that side, which never happens on a sparse tape.  There
is then a failure that tells the place of the command and how many commands have been executed
before it.  The machine stands at the command and is otherwise as it was before the step, and it
stays so whatever it is asked.
-/
theorem moves_fail_exactly_at_edges
    (settings : Settings)
    (program : Program)
    (source : Source)
    (sink : Sink)
    (fuel : Nat)
    (calls : List Call)
    (machine : Machine)
    (reached : (settings.launch program source sink).answerAll? fuel calls = some machine)
    (runs : machine.running)
    (position : Nat)
    (command : Command)
    (next : program.NextAt machine.position position command) :
    (∀ cause,
      machine.step.FailedBy cause ↔ settings.LeavesTape command machine.cursor cause) ∧
      (settings.addressing = .sparse → machine.step.status ≠ .failed) ∧
      (machine.step.status = .failed →
        ∃ failure, machine.step.failure? = some failure ∧
          failure.location = .ofOffset program.code.toList position ∧
          failure.position = position ∧
          failure.cycles = machine.cycles ∧
          machine.cycles = (Machine.executed
            ((settings.launch program source sink).turnsAlong fuel calls)).length ∧
          machine.step = { machine with
            position := position
            status := .failed
            failure? := some failure } ∧
          ∀ more later, machine.step.answerAll? more later = some machine.step) := by
  have sound := (settings.launch_sound program source sink).answerAll? reached
  have step : machine.step = { machine with position := position }.perform command := by
    apply Machine.step_of_nextAt runs
    rwa [sound.program_eq]
  have ready : { machine with position := position }.running := runs
  have failsIff (cause : FailureCause) :
      machine.step.FailedBy cause ↔ settings.LeavesTape command machine.cursor cause := by
    rw [step, Machine.failedBy_perform_iff ready,
      @Machine.effect_eq_error_iff { machine with position := position } command cause
        sound.cursor_contained]
    exact beyond_iff_leavesTape sound.grows sound.cursor_contained command cause
  refine ⟨failsIff, ?_, ?_⟩
  · intro isSparse failed
    obtain ⟨failure, isFailure⟩ :=
      Option.isSome_iff_exists.mp (sound.step.coherent.mpr failed)
    have leaves := (failsIff failure.cause).mp ⟨failed, failure, isFailure, rfl⟩
    revert leaves
    cases failure.cause <;> simp [LeavesTape, isSparse]
  · intro failed
    obtain ⟨cause, -, stopped⟩ := Machine.exists_perform_eq_fail ready (step ▸ failed)
    have stepped := step.trans stopped
    refine ⟨_, congrArg Machine.failure? stepped, ?_, rfl, rfl, ?_, stepped, ?_⟩
    · rw [← sound.program_eq]
      rfl
    · obtain ⟨steps, place, status, sameTurns, ran⟩ := exists_run_of_answerAll? reached
      have accounts := Machine.accounts_run (settings.launch_coherent program source sink)
        (settings.accounts_launch program source sink) steps
      rw [← sameTurns, ran] at accounts
      exact accounts.cycles
    · intro more later
      apply sound.step.answerAll?_of_not_running
      rw [Machine.running_iff, failed]
      exact Status.noConfusion

/-- The second of two moves to the right on a tape of two cells, with a comment in between. -/
theorem moves_fail_at_right_edge_of_two_cells :
    let settings : Settings := { tapeSize := ⟨2, by decide⟩ }
    let program : Program := ⟨#['>', 'a', '>', '+'], .empty, rfl⟩
    let moved := (settings.launch program .closed .absent).step
    (settings.launch program .closed .absent).answerAll? 0 [.step] = some moved ∧
      moved.running ∧ program.NextAt moved.position 2 .moveRight ∧
      moved.step.FailedBy .overflow ∧
      ∃ failure, moved.step.failure? = some failure ∧
        failure.location = ⟨2, 1, 3⟩ ∧ failure.cycles = 1 ∧ moved.step.cursor = 1 ∧
        ∀ more later, moved.step.answerAll? more later = some moved.step := by
  intro settings program moved
  have runs : moved.running := by decide +kernel
  have place : moved.position = 1 := by decide +kernel
  have cursor : moved.cursor = 1 := by decide +kernel
  have cycles : moved.cycles = 1 := by decide +kernel
  have next : program.NextAt moved.position 2 .moveRight := by
    rw [place]
    refine ⟨by decide, fun between after before => ?_, rfl⟩
    obtain rfl : between = 1 := by omega
    rfl
  obtain ⟨failsIff, -, fails⟩ := moves_fail_exactly_at_edges settings program .closed .absent 0
    [.step] moved rfl runs 2 .moveRight next
  have failed : moved.step.FailedBy .overflow :=
    (failsIff .overflow).mpr ⟨rfl, by rw [cursor]; rfl, rfl⟩
  obtain ⟨failure, isFailure, location, -, completed, -, stepped, stays⟩ := fails failed.1
  refine ⟨rfl, runs, next, failed, failure, isFailure, location, ?_, ?_, stays⟩
  · rw [completed, cycles]
    rfl
  · rw [stepped]
    exact cursor

end Settings
end TapeMachine

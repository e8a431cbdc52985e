import TapeMachine.Proofs.Machine.Pending

/-!
# One command of a run

A command does two things.  It has an effect on the tape, the input and the output, which may fail,
and it has a target, the position behind which the machine goes on.  Everything that a command does
follows from the two, so that laws about runs can treat them apart.

A machine is settled when it has stopped or stands at a command.  Every run leaves a settled machine
behind, and what one more step makes of it is said here once and for all.
-/

namespace TapeMachine
namespace Machine

/-! ## Reading -/

/-- Fetching changes what is known of the input and nothing else. -/
theorem fill_eq (machine : Machine) :
    machine.fill = { machine with
      feed := machine.fill.feed
      queue := machine.fill.queue
      exhausted := machine.fill.exhausted } := by
  rcases fill_cases machine with ⟨same, -⟩ | ⟨-, -, _, _, -, same⟩ | ⟨-, -, -, same⟩
  · rw [same]
  · rw [same]
  · rw [same]

/-- What fetching does depends on what is known of the input and on nothing else. -/
theorem fill_congr
    (left right : Machine)
    (feed : left.feed = right.feed)
    (queue : left.queue = right.queue)
    (exhausted : left.exhausted = right.exhausted) :
    left.fill.feed = right.fill.feed ∧ left.fill.queue = right.fill.queue ∧
      left.fill.exhausted = right.fill.exhausted := by
  unfold fill
  rw [feed, queue, exhausted]
  by_cases asks : right.queue.isEmpty && !right.exhausted
  · simp only [if_pos asks]
    split
    · exact ⟨rfl, rfl, rfl⟩
    · exact ⟨rfl, rfl, rfl⟩
  · simp only [if_neg asks]
    exact ⟨feed, queue, exhausted⟩

/-- The byte that reading stores: the next one, or what the policy says when there is none. -/
def received? (machine : Machine) : Option UInt8 :=
  match machine.fill.queue with
  | byte :: _ => some byte
  | [] =>
    match machine.eof with
    | .zero => some 0
    | .unchanged => none

theorem received?_congr
    (left right : Machine)
    (feed : left.feed = right.feed)
    (queue : left.queue = right.queue)
    (exhausted : left.exhausted = right.exhausted)
    (eof : left.eof = right.eof) :
    left.received? = right.received? := by
  obtain ⟨-, sameQueue, -⟩ := fill_congr left right feed queue exhausted
  rw [received?, received?, sameQueue, eof]

/-- Reading takes the first byte from the queue and stores what has been received, if anything. -/
theorem receive_eq (machine : Machine) :
    machine.receive = { machine with
      feed := machine.fill.feed
      queue := machine.fill.queue.tail
      exhausted := machine.fill.exhausted
      tape := machine.received?.elim machine.tape (machine.tape.set machine.cursor) } := by
  have policy := (sameControl_fill machine).eof
  have filled := fill_eq machine
  rcases receive_cases machine with ⟨byte, rest, queue, received⟩ |
    ⟨queue, atEnd, received⟩ | ⟨queue, atEnd, received⟩
  · have stored : machine.received? = some byte := by
      simp only [received?, queue]
    rw [received, stored, queue, filled]
    rfl
  · have stored : machine.received? = some 0 := by
      rw [policy] at atEnd
      simp only [received?, queue, atEnd]
    rw [received, stored, queue, filled, queue]
    rfl
  · have stored : machine.received? = none := by
      rw [policy] at atEnd
      simp only [received?, queue, atEnd]
    rw [received, stored, queue, filled, queue]
    rfl

/-! ## Effects and targets -/

/-- Moves the cursor by a distance, or says why the tape has no such cell. -/
def shift (machine : Machine) (distance : Int) : Except FailureCause Machine :=
  match machine.tape.move machine.cursor distance with
  | .ok (cursor, tape) => .ok { machine with cursor := cursor, tape := tape }
  | .error fault => .error fault.cause

/-- What a command makes of the tape, the input and the output, or why it fails. -/
def effect (machine : Machine) : Command → Except FailureCause Machine
  | .increment => .ok (machine.store (machine.cell + 1))
  | .decrement => .ok (machine.store (machine.cell - 1))
  | .moveLeft => machine.shift (-1)
  | .moveRight => machine.shift 1
  | .output => .ok machine.emit
  | .input => .ok machine.receive
  | .loopOpen => .ok machine
  | .loopClose => .ok machine

/-- The position of the partner of a bracket if its jump is taken, of the bracket itself if not. -/
def landing (machine : Machine) (taken : Bool) : Nat :=
  if taken then (machine.program.partner? machine.position).getD machine.position
  else machine.position

/-- The position behind which a machine goes on after a command. -/
def target (machine : Machine) : Command → Nat
  | .loopOpen => machine.landing (machine.cell == 0)
  | .loopClose => machine.landing (machine.cell != 0)
  | _ => machine.position

theorem moveCursor_eq_shift (machine : Machine) (distance : Int) :
    machine.moveCursor distance =
      match machine.shift distance with
      | .ok changed => changed.advance machine.position
      | .error cause => machine.fail cause := by
  unfold moveCursor shift
  cases machine.tape.move machine.cursor distance with
  | ok reached => rfl
  | error fault => rfl

theorem jump_eq_advance (machine : Machine) (taken : Bool) :
    machine.jump taken = machine.advance (machine.landing taken) := by
  cases taken with
  | true => rfl
  | false => rfl

/-- A command has its effect and goes on behind its target, or it fails where it stands. -/
theorem perform_eq (machine : Machine) (command : Command) :
    machine.perform command =
      match machine.effect command with
      | .ok changed => changed.advance (machine.target command)
      | .error cause => machine.fail cause := by
  cases command with
  | increment => rfl
  | decrement => rfl
  | moveLeft => exact machine.moveCursor_eq_shift (-1)
  | moveRight => exact machine.moveCursor_eq_shift 1
  | output => rfl
  | input => rfl
  | loopOpen => exact machine.jump_eq_advance (machine.cell == 0)
  | loopClose => exact machine.jump_eq_advance (machine.cell != 0)

theorem shift_of_ok
    {machine : Machine}
    {distance cursor : Int}
    {tape : Tape}
    (moved : machine.tape.move machine.cursor distance = .ok (cursor, tape)) :
    machine.shift distance = .ok { machine with cursor := cursor, tape := tape } := by
  rw [shift, moved]

theorem shift_of_error
    {machine : Machine}
    {distance : Int}
    {fault : AddressingFault}
    (refused : machine.tape.move machine.cursor distance = .error fault) :
    machine.shift distance = .error fault.cause := by
  rw [shift, refused]

/-- Moves are not affected by a change that leaves the tape and the cursor alone. -/
theorem shift_map
    (change : Machine → Machine)
    (apart : ∀ machine cursor tape, change { machine with cursor := cursor, tape := tape } =
      { change machine with cursor := cursor, tape := tape })
    (machine : Machine)
    (distance : Int) :
    (change machine).shift distance = (machine.shift distance).map change := by
  have unmoved : change machine =
      { change machine with cursor := machine.cursor, tape := machine.tape } :=
    apart machine machine.cursor machine.tape
  have sameMove : (change machine).tape.move (change machine).cursor distance =
      machine.tape.move machine.cursor distance := by
    rw [unmoved]
  rw [shift, shift, sameMove]
  cases machine.tape.move machine.cursor distance with
  | ok reached => exact congrArg Except.ok (apart machine reached.1 reached.2).symm
  | error fault => rfl

/-- A move of the cursor changes the cursor and the extent of the tape. -/
theorem exists_of_shift_eq_ok
    {machine changed : Machine}
    {distance : Int}
    (shifted : machine.shift distance = .ok changed) :
    ∃ cursor tape, changed = { machine with cursor := cursor, tape := tape } := by
  cases moved : machine.tape.move machine.cursor distance with
  | ok reached =>
      obtain ⟨cursor, tape⟩ := reached
      rw [shift_of_ok moved] at shifted
      cases shifted
      exact ⟨cursor, tape, rfl⟩
  | error fault =>
      rw [shift_of_error moved] at shifted
      cases shifted

/-- An effect is none on control. -/
theorem sameControl_effect
    {machine changed : Machine}
    {command : Command}
    (effect : machine.effect command = .ok changed) :
    changed.SameControl machine := by
  cases command with
  | moveLeft | moveRight =>
      obtain ⟨cursor, tape, rfl⟩ := exists_of_shift_eq_ok effect
      exact ⟨rfl, rfl, rfl, rfl, rfl, rfl⟩
  | input =>
      cases effect
      exact sameControl_receive machine
  | increment | decrement | output | loopOpen | loopClose =>
      cases effect
      exact ⟨rfl, rfl, rfl, rfl, rfl, rfl⟩

theorem SameControl.running
    {changed machine : Machine}
    (same : changed.SameControl machine)
    (runs : machine.running) :
    changed.running := by
  rw [running_iff, same.status, ← running_iff]
  exact runs

namespace Coherent

variable {machine : Machine}

theorem changeTo
    {changed : Machine}
    (coherent : machine.Coherent)
    (same : changed.SameControl machine) :
    changed.Coherent := by
  rw [Coherent, same.failure?, same.status]
  exact coherent

theorem perform
    (coherent : machine.Coherent)
    (runs : machine.running)
    (command : Command) :
    (machine.perform command).Coherent := by
  rw [perform_eq]
  cases effect : machine.effect command with
  | ok changed =>
      have same := sameControl_effect effect
      exact (coherent.changeTo same).advance (same.running runs) _
  | error cause => exact .fail machine cause

theorem step (coherent : machine.Coherent) : machine.step.Coherent := by
  rcases step_cases machine with ⟨-, stepped⟩ | ⟨runs, -, stepped⟩ |
    ⟨runs, stillRuns, command, -, stepped⟩
  · rw [stepped]
    exact coherent
  · rw [stepped]
    exact coherent.skipComments runs
  · rw [stepped]
    exact (coherent.skipComments runs).perform stillRuns command

/-- Wherever a run stops, there is a failure exactly if it has failed. -/
theorem run (coherent : machine.Coherent) (budget : Nat) : (machine.run budget).Coherent := by
  induction budget generalizing machine with
  | zero =>
      by_cases runs : machine.running
      · rw [run_zero_of_running runs]
        exact coherent.skipComments runs
      · rwa [run_of_not_running runs]
  | succ budget inductionHypothesis =>
      rw [run_succ]
      exact inductionHypothesis coherent.step

end Coherent

theorem not_running_fail (machine : Machine) (cause : FailureCause) :
    ¬ (machine.fail cause).running := by
  simp [running, fail]

/-! ## Settled machines -/

/-- A machine has stopped, or it stands at a command. -/
def Settled (machine : Machine) : Prop :=
  machine.running → ∃ command, machine.command? = some command

theorem settled_run (machine : Machine) (budget : Nat) : (machine.run budget).Settled := by
  induction budget generalizing machine with
  | zero =>
      intro runs
      by_cases ran : machine.running
      · rw [run_zero_of_running ran] at runs ⊢
        exact exists_command?_of_running_skipComments runs
      · rw [run_of_not_running ran] at runs
        exact absurd runs ran
  | succ budget inductionHypothesis =>
      rw [run_succ]
      exact inductionHypothesis machine.step

/-- The last step of a run is a step of the machine that the run up to it has left behind. -/
theorem run_succ_right (budget : Nat) (machine : Machine) :
    machine.run (budget + 1) = (machine.run budget).run 1 :=
  run_add budget 1 machine

/-- A machine that runs at the end of a run has been running all the time. -/
theorem running_of_running_run
    {machine : Machine}
    {budget : Nat}
    (runs : (machine.run budget).running) :
    machine.running := by
  by_contra stopped
  rw [run_of_not_running stopped] at runs
  exact stopped runs

theorem run_one_of_ok
    {machine changed : Machine}
    {command : Command}
    (runs : machine.running)
    (found : machine.command? = some command)
    (effect : machine.effect command = .ok changed) :
    machine.run 1 = (changed.proceed (machine.target command)).skipComments := by
  have changedRuns := (sameControl_effect effect).running runs
  have proceeds : (changed.proceed (machine.target command)).running := changedRuns
  have performed := run_of_command? runs found 0
  rw [perform_eq, effect] at performed
  simpa only [run_advance changedRuns, run_zero_of_running proceeds] using performed

theorem run_one_of_error
    {machine : Machine}
    {command : Command}
    {cause : FailureCause}
    (runs : machine.running)
    (found : machine.command? = some command)
    (effect : machine.effect command = .error cause) :
    machine.run 1 = machine.fail cause := by
  have performed := run_of_command? runs found 0
  rw [perform_eq, effect] at performed
  simpa only [run_of_not_running (machine.not_running_fail cause)] using performed

/-- Everything that one more step can make of a settled machine. -/
theorem Settled.run_one_cases
    {machine : Machine}
    (settled : machine.Settled) :
    (¬ machine.running ∧ machine.run 1 = machine) ∨
      (machine.running ∧ ∃ command changed, machine.command? = some command ∧
        machine.effect command = .ok changed ∧
        machine.run 1 = (changed.proceed (machine.target command)).skipComments) ∨
      (machine.running ∧ ∃ command cause, machine.command? = some command ∧
        machine.effect command = .error cause ∧ machine.run 1 = machine.fail cause) := by
  by_cases runs : machine.running
  · obtain ⟨command, found⟩ := settled runs
    cases effect : machine.effect command with
    | ok changed =>
        exact Or.inr (Or.inl
          ⟨runs, command, changed, found, effect, run_one_of_ok runs found effect⟩)
    | error cause =>
        exact Or.inr (Or.inr
          ⟨runs, command, cause, found, effect, run_one_of_error runs found effect⟩)
  · exact Or.inl ⟨runs, run_of_not_running runs 1⟩

end Machine
end TapeMachine

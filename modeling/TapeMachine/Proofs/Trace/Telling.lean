import TapeMachine.Proofs.Input.Polling
import TapeMachine.Proofs.Machine.Accounting
import TapeMachine.Proofs.Trace.Faithful

/-!
# What a trace tells

A trace tells of every command that the run takes up, in order.  It announces the command with its
position.  If the machine fails there, it shows the diagnostic and breaks off; otherwise it says
what the command has done and shows the machine.

What a command has done is inferred after the fact.  That a bracket has jumped is told from the
position behind it, and that there was nothing to read from the exhaustion of the source.  Both are
right: the partner of an open comes after it and the partner of a close before it, so that a jump
never ends where going on would, and an exhausted source has no bytes waiting.
-/

namespace TapeMachine

/-! ## What is told of one turn -/

namespace Turn

/-- What a trace says that a turn has done. -/
def told (turn : Turn) : Description :=
  turn.before.describe turn.after turn.command

/-- The entries of a trace on a turn, which has a number. -/
def passage (window : Int) (number : Nat) (turn : Turn) : List Entry :=
  .heading number turn.command.symbol turn.before.position ::
    match turn.after.failure? with
    | some failure => [.diagnostic turn.after.program.code.toList (.failed failure)]
    | none => [.description turn.told, .after number (turn.after.view window)]

end Turn

/--
What a description says is true of a turn.  What a turn could read is a byte, or nothing if no more
input is left.
-/
def Description.Holds (turn : Turn) (offered : Option UInt8) : Description → Prop
  | movedRight cursor =>
      turn.command = .moveRight ∧ turn.after.cursor = cursor ∧
        turn.before.tape.extent.wrap (turn.before.cursor + 1) = cursor
  | movedLeft cursor =>
      turn.command = .moveLeft ∧ turn.after.cursor = cursor ∧
        turn.before.tape.extent.wrap (turn.before.cursor - 1) = cursor
  | incremented index value =>
      turn.command = .increment ∧ turn.before.cursor = index ∧ turn.after.cursor = index ∧
        turn.before.tape.get index + 1 = value ∧ turn.after.tape.get index = value
  | decremented index value =>
      turn.command = .decrement ∧ turn.before.cursor = index ∧ turn.after.cursor = index ∧
        turn.before.tape.get index - 1 = value ∧ turn.after.tape.get index = value
  | wrote index value =>
      turn.command = .output ∧ turn.before.cursor = index ∧ turn.after.cursor = index ∧
        turn.before.tape.get index = value ∧ turn.after.output = turn.before.output.push value
  | received value index =>
      turn.command = .input ∧ turn.before.cursor = index ∧ turn.after.cursor = index ∧
        offered = some value ∧ turn.after.tape.get index = value
  | receivedNothing index value =>
      turn.command = .input ∧ turn.before.cursor = index ∧ turn.after.cursor = index ∧
        offered = none ∧ turn.after.tape.get index = value
  | skippedLoop index target =>
      turn.command = .loopOpen ∧ turn.before.cursor = index ∧ turn.after.cursor = index ∧
        turn.before.tape.get index = 0 ∧ turn.after.position = target ∧
        ∃ close, Brackets.Encloses turn.before.program.code.toList turn.before.position close ∧
          target = close + 1
  | enteredLoop index =>
      turn.command = .loopOpen ∧ turn.before.cursor = index ∧ turn.after.cursor = index ∧
        turn.before.tape.get index ≠ 0 ∧ turn.after.position = turn.before.position + 1
  | repeatedLoop index target =>
      turn.command = .loopClose ∧ turn.before.cursor = index ∧ turn.after.cursor = index ∧
        turn.before.tape.get index ≠ 0 ∧ turn.after.position = target ∧
        ∃ start, Brackets.Encloses turn.before.program.code.toList start turn.before.position ∧
          target = start + 1
  | leftLoop index =>
      turn.command = .loopClose ∧ turn.before.cursor = index ∧ turn.after.cursor = index ∧
        turn.before.tape.get index = 0 ∧ turn.after.position = turn.before.position + 1

/-- The cell at which a turn is taken, as it is named in print. -/
def Turn.cellName (turn : Turn) : String :=
  "cell[" ++ toString turn.before.cursor ++ "]"

/-- The command that a description is about. -/
def Description.command : Description → Command
  | movedRight _ => .moveRight
  | movedLeft _ => .moveLeft
  | incremented _ _ => .increment
  | decremented _ _ => .decrement
  | wrote _ _ => .output
  | received _ _ | receivedNothing _ _ => .input
  | skippedLoop _ _ | enteredLoop _ => .loopOpen
  | repeatedLoop _ _ | leftLoop _ => .loopClose

namespace Description.Holds

variable {turn : Turn} {offered : Option UInt8} {told other : Description}

theorem command_eq (holds : told.Holds turn offered) : turn.command = told.command := by
  cases told <;> exact holds.1

/-- There is only one description that is true of a turn. -/
theorem unique
    (holds : told.Holds turn offered)
    (otherHolds : other.Holds turn offered) :
    told = other := by
  have sameCommand := holds.command_eq.symm.trans otherHolds.command_eq
  cases told <;> cases other <;> cases sameCommand
  -- two descriptions of one command name the same things, or they exclude each other
  all_goals grind [Holds]

end Description.Holds

namespace Program

variable {program : Program} {position partner : Nat}

end Program

namespace Machine

variable {program : Program} {start : Extent} {machine changed : Machine} {command : Command}

/-- The turns of a run are those of the commands that it takes up. -/
theorem map_command_turns (budget : Nat) (machine : Machine) :
    (machine.turns budget).map Turn.command = machine.dispatched budget := by
  induction budget generalizing machine with
  | zero => rfl
  | succ budget inductionHypothesis =>
      rw [turns, dispatched, List.map_append, inductionHypothesis, turn?]
      cases machine.next? with
      | none => rfl
      | some command => rfl

theorem length_turns (budget : Nat) (machine : Machine) :
    (machine.turns budget).length = (machine.dispatched budget).length := by
  rw [← map_command_turns, List.length_map]

theorem turns_of_not_running
    (stopped : ¬ machine.running)
    (budget : Nat) :
    machine.turns budget = [] := by
  induction budget with
  | zero => rfl
  | succ budget inductionHypothesis =>
      rw [turns, turn?_of_not_running stopped, step_of_not_running stopped, inductionHypothesis]
      rfl

/-- Every turn is taken by the machine that has taken up the commands of the turns before it. -/
theorem of_getElem?_turns
    {budget index : Nat}
    {turn : Turn}
    (found : (machine.turns budget)[index]? = some turn) :
    (machine.run index).running ∧ (machine.run index).command? = some turn.command ∧
      turn = ⟨turn.command, machine.run index, (machine.run index).perform turn.command⟩ ∧
      (machine.turns budget).take index = machine.turns index := by
  induction budget with
  | zero => cases found
  | succ budget inductionHypothesis =>
      rw [turns_succ] at found ⊢
      by_cases earlier : index < (machine.turns budget).length
      · rw [List.getElem?_append_left earlier] at found
        rw [List.take_append_of_le_length (Nat.le_of_lt earlier)]
        exact inductionHypothesis found
      · rw [List.getElem?_append_right (Nat.not_lt.mp earlier)] at found
        have runs : (machine.run budget).running := by
          by_contra stopped
          rw [turn?_of_not_running stopped] at found
          cases found
        have length : (machine.turns budget).length = budget := by
          rw [length_turns, length_dispatched_of_running runs]
        obtain ⟨command, standing⟩ := machine.settled_run budget runs
        rw [turn?_of_command? runs standing, Option.toList_some, List.getElem?_singleton] at found
        split_ifs at found with isLast
        obtain rfl : budget = index := by omega
        cases found
        exact ⟨runs, standing, rfl, List.take_left' length⟩

/-- The entries of a trace on its steps are the passages on the turns of the run. -/
theorem traceSteps_eq_passages
    (coherent : machine.Coherent)
    (window : Int)
    (budget done : Nat) :
    (machine.traceSteps window budget done).1 =
      ((machine.turns budget).mapIdx fun index turn =>
        turn.passage window (done + index + 1)).flatten := by
  induction budget generalizing done machine with
  | zero => rfl
  | succ budget inductionHypothesis =>
      rw [← turns_run_zero]
      rcases machine.traceSteps_cases window budget done with ⟨stopped, same⟩ |
        ⟨command, runs, found, rest⟩
      · rw [same, turns_of_not_running stopped]
        rfl
      · rw [turns, turn?_of_command? runs found, ← step_of_command? runs found, Option.toList_some,
          List.singleton_append, List.mapIdx_cons, List.flatten_cons]
        rcases rest with ⟨failure, failed, same⟩ | ⟨completed, same⟩
        · have stopped := (coherent.run 0).step.not_running_of_failure? failed
          rw [same, turns_of_not_running stopped]
          simp [Turn.passage, failed]
        · rw [same, inductionHypothesis (coherent.run 0).step]
          simp [Turn.passage, completed, Turn.told, Nat.add_right_comm, Nat.add_assoc]

theorem entries_trace
    (coherent : machine.Coherent)
    (window budget : Int) :
    (machine.trace window budget).entries =
      .initial (machine.view window) ::
          ((machine.turns budget.toNat).mapIdx fun index turn =>
            turn.passage window (index + 1)).flatten ++
        (if (machine.trace window budget).outcome.hitLimit then [.stopped budget] else []) ++
        [.closing (machine.trace window budget).outcome] := by
  have steps := traceSteps_eq_passages coherent window budget.toNat 0
  simp only [Nat.zero_add] at steps
  rw [← steps]
  rfl

end Machine

namespace Settings

theorem trace_of_accepted
    {code : String}
    {program : Program}
    (accepted : Program.parse code = .ok program)
    (settings : Settings)
    (window budget : Int)
    (data : List UInt8) :
    let body := (settings.launch program (.whole data) .absent).trace window budget
    settings.trace window budget code data =
      ⟨.opening code :: .input data :: body.entries, body.outcome⟩ := by
  simp only [trace, traceBody, accepted]

end Settings
end TapeMachine

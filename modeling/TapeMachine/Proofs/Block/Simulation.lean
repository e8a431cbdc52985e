import TapeMachine.Proofs.Block.Semantics
import TapeMachine.Proofs.Brackets.Matching
import TapeMachine.Proofs.Machine.Pending
import TapeMachine.Proofs.Machine.Stepping

/-!
# Machines and situations

A machine shows a situation when it has the same tape, cursor, output and input.  This module
follows a machine through one command: an action takes it to the situation that the effect of the
action describes, and each of the two brackets of a loop takes it to the same place, behind the
loop when the current cell is zero and into the body when it is not.
-/

namespace TapeMachine

/-! ## Texts in a program -/

namespace Program

/-- A text stands in a program at a position. -/
def Holds (program : Program) (position : Nat) (text : List Char) : Prop :=
  ∃ before after, program.code.toList = before ++ text ++ after ∧ before.length = position

namespace Holds

variable {program : Program} {position : Nat}

/-- The parts of a text stand one after the other. -/
theorem of_append
    {left right : List Char}
    (holds : program.Holds position (left ++ right)) :
    program.Holds position left ∧ program.Holds (position + left.length) right := by
  obtain ⟨before, after, split, rfl⟩ := holds
  refine ⟨⟨before, right ++ after, by simp [split], rfl⟩,
    ⟨before ++ left, after, by simp [split], by simp⟩⟩

theorem tail
    {character : Char}
    {text : List Char}
    (holds : program.Holds position (character :: text)) :
    program.Holds (position + 1) text := by
  have split : program.Holds position ([character] ++ text) := holds
  exact split.of_append.2

theorem lt_length
    {character : Char}
    {text : List Char}
    (holds : program.Holds position (character :: text)) :
    position < program.length := by
  obtain ⟨before, after, split, rfl⟩ := holds
  rw [Program.length, ← Array.length_toList, split]
  simp

theorem command?_eq
    {character : Char}
    {text : List Char}
    (holds : program.Holds position (character :: text)) :
    program.command? position = Command.ofChar? character := by
  obtain ⟨before, after, split, rfl⟩ := holds
  have found : program.code[before.length]? = some character := by
    rw [← Array.getElem?_toList, split]
    simp
  rw [Program.command?, found, Option.bind_some]

/-- The body of a loop, its close and what follows stand behind the open. -/
theorem loop_parts
    {inner after : List Char}
    (holds : program.Holds position ('[' :: (inner ++ ']' :: after))) :
    program.Holds (position + 1) inner ∧
      program.Holds (position + inner.length + 1) (']' :: after) ∧
      program.Holds (position + inner.length + 2) after := by
  obtain ⟨body, close⟩ := holds.tail.of_append
  rw [Nat.add_right_comm] at close
  exact ⟨body, close, close.tail⟩

/-- The brackets around a balanced text are partners. -/
theorem partner?_eq
    {inner after : List Char}
    (holds : program.Holds position ('[' :: (inner ++ ']' :: after)))
    (balanced : Brackets.Balanced inner) :
    program.partner? position = some (position + inner.length + 1) ∧
      program.partner? (position + inner.length + 1) = some position := by
  obtain ⟨before, behind, split, rfl⟩ := holds
  have scanned := Brackets.scanned_of_matchLoops program.matched
  have encloses : Brackets.Encloses program.code.toList before.length
      (before.length + inner.length + 1) :=
    ⟨before, inner, after ++ behind, by simp [split], rfl, rfl, balanced⟩
  have forward := (scanned.partners _ _).mpr ⟨_, _, encloses, Or.inl ⟨rfl, rfl⟩⟩
  have backward := (scanned.partners _ _).mpr ⟨_, _, encloses, Or.inr ⟨rfl, rfl⟩⟩
  constructor
  · rw [Program.partner?, forward]
    rfl
  · rw [Program.partner?, backward]
    rfl

end Holds
end Program

/--
Where either bracket of a loop leads: behind the loop when the current cell is zero, into the body
when it is not.
-/
def Situation.landing (situation : Situation) (position : Nat) (inner : List Char) : Nat :=
  if situation.cell = 0 then position + inner.length + 2 else position + 1

/-- The open jumps to its partner when the cell is zero. -/
theorem Situation.landing_of_open
    (situation : Situation)
    (position : Nat)
    (inner : List Char) :
    (if situation.cell == 0 then position + inner.length + 1 else position) + 1 =
      situation.landing position inner := by
  unfold landing
  by_cases isZero : situation.cell = 0
  · simp [isZero]
  · simp [isZero]

/-- The close jumps to its partner when the cell is not zero. -/
theorem Situation.landing_of_close
    (situation : Situation)
    (position : Nat)
    (inner : List Char) :
    (if situation.cell != 0 then position else position + inner.length + 1) + 1 =
      situation.landing position inner := by
  unfold landing
  by_cases isZero : situation.cell = 0
  · simp [isZero]
  · simp [isZero]

/-! ## Showing a situation -/

namespace Machine

/-- A machine that was started on a source is in a situation. -/
structure Shows (source : Source) (machine : Machine) (situation : Situation) : Prop where
  /-- The tapes are the same. -/
  tape : machine.tape = situation.tape
  /-- The cursors are the same. -/
  cursor : machine.cursor = situation.cursor
  /-- The outputs are the same. -/
  output : machine.output = situation.output
  /-- The machine would read what is left of the input. -/
  pending : machine.pending = situation.input
  /-- What has been fetched is what was consumed and what waits in the queue. -/
  fetched : source.fetched machine.feed.polls = situation.consumed ++ machine.queue
  /-- The source stands where the polls have brought it. -/
  feed : machine.feed.source = source.after machine.feed.polls

namespace Shows

variable {source : Source} {machine : Machine} {situation : Situation}

theorem cell_eq (shown : machine.Shows source situation) : machine.cell = situation.cell := by
  rw [Machine.cell, Situation.cell, shown.tape, shown.cursor]

/-- The situation does not depend on the position, the cycles, the status and the failure. -/
theorem relocate
    (shown : machine.Shows source situation)
    (position cycles : Nat)
    (status : Status)
    (failure? : Option Failure) :
    { machine with
      position := position
      cycles := cycles
      status := status
      failure? := failure? }.Shows source situation :=
  ⟨shown.tape, shown.cursor, shown.output, shown.pending, shown.fetched, shown.feed⟩

theorem store
    (shown : machine.Shows source situation)
    (byte : UInt8) :
    (machine.store byte).Shows source (situation.put byte) where
  tape := by
    rw [Machine.store, Situation.put, shown.tape, shown.cursor]
  cursor := shown.cursor
  output := shown.output
  pending := shown.pending
  fetched := shown.fetched
  feed := shown.feed

theorem emit (shown : machine.Shows source situation) :
    machine.emit.Shows source situation.write where
  tape := shown.tape
  cursor := shown.cursor
  output := by
    rw [Machine.emit, Situation.write, shown.output, shown.cell_eq]
  pending := shown.pending
  fetched := shown.fetched
  feed := shown.feed

/-- Fetching input does not change the situation. -/
theorem fill (shown : machine.Shows source situation) :
    machine.fill.Shows source situation := by
  have pending := (pending_fill machine).trans shown.pending
  rcases fill_cases machine with ⟨same, -⟩ |
    ⟨empty, -, first, others, answer, filled⟩ | ⟨empty, -, noChunk, filled⟩
  · rw [same]
    exact shown
  · have fetched := shown.fetched
    rw [shown.feed] at answer
    rw [filled] at pending ⊢
    refine ⟨shown.tape, shown.cursor, shown.output, pending, ?_, ?_⟩
    · rw [Source.fetched_succ, answer, fetched, empty]
      simp
    · rw [Source.after_succ, ← shown.feed]
  · have fetched := shown.fetched
    rw [filled] at pending ⊢
    refine ⟨shown.tape, shown.cursor, shown.output, pending, ?_, ?_⟩
    · have nothing : ((source.after machine.feed.polls).poll.1).getD [] = [] := by
        rw [← shown.feed]
        cases answer : machine.feed.source.poll.1 with
        | none => rfl
        | some chunk =>
            cases chunk with
            | nil => rfl
            | cons first others => exact absurd answer (noChunk first others)
      rw [Source.fetched_succ, nothing, fetched, List.append_nil]
    · rw [Source.after_succ, ← shown.feed]

/-- Taking the first byte out of the queue takes it from the input. -/
theorem dequeue
    {byte : UInt8}
    {rest : List UInt8}
    (shown : machine.Shows source situation)
    (queue : machine.queue = byte :: rest) :
    situation.input 0 = some byte ∧
      { machine with queue := rest }.Shows source
        { situation with
          input := fun index => situation.input (index + 1)
          consumed := situation.consumed ++ [byte] } := by
  have pending := shown.pending
  constructor
  · rw [← pending, Machine.pending, queue]
    rfl
  · refine ⟨shown.tape, shown.cursor, shown.output, ?_, ?_, shown.feed⟩
    · funext index
      rw [← pending]
      simp [Machine.pending, queue]
    · rw [shown.fetched, queue]
      simp

/-- Receiving a byte is reading one. -/
theorem receive (shown : machine.Shows source situation) :
    machine.receive.Shows source (situation.read machine.eof) := by
  have filled := shown.fill
  have samePolicy := (sameControl_fill machine).eof
  -- an empty queue after fetching means that no byte is left
  have nothing (queue : machine.fill.queue = []) : situation.input 0 = none := by
    have exhausted := exhausted_of_queue_fill_eq_nil queue
    rw [← filled.pending]
    simp [Machine.pending, queue, exhausted]
  rcases receive_cases machine with ⟨byte, rest, queue, received⟩ |
    ⟨queue, policy, received⟩ | ⟨queue, policy, received⟩
  · obtain ⟨next, dequeued⟩ := filled.dequeue queue
    simp only [received, Situation.read, next]
    exact dequeued.store byte
  · rw [samePolicy] at policy
    simp only [received, Situation.read, nothing queue, policy]
    exact filled.store 0
  · rw [samePolicy] at policy
    simp only [received, Situation.read, nothing queue, policy]
    exact filled

end Shows

/-! ## One command -/

/-- A machine that runs a program stands at a position, in a situation, after some cycles. -/
structure Stands
    (program : Program)
    (eof : EofPolicy)
    (source : Source)
    (machine : Machine)
    (position cycles : Nat)
    (situation : Situation) : Prop where
  program_eq : machine.program = program
  eof_eq : machine.eof = eof
  runs : machine.running
  unfailed : machine.failure? = none
  position_eq : machine.position = position
  cycles_eq : machine.cycles = cycles
  shown : machine.Shows source situation

namespace Stands

variable
  {program : Program} {eof : EofPolicy} {source : Source} {machine : Machine}
  {position cycles : Nat} {situation : Situation}

theorem command?_eq
    (stands : machine.Stands program eof source position cycles situation) :
    machine.command? = program.command? position := by
  rw [Machine.command?, stands.program_eq, stands.position_eq]

/-- A machine at a command goes on running when its budget is spent. -/
theorem running_run_zero
    {command : Command}
    (stands : machine.Stands program eof source position cycles situation)
    (found : program.command? position = some command) :
    (machine.run 0).running := by
  rw [← stands.command?_eq] at found
  rw [run_zero_of_running stands.runs, skipComments_of_command? found]
  exact stands.runs

/-- A comment is passed without a cycle. -/
theorem comment
    {character : Char}
    {text : List Char}
    (stands : machine.Stands program eof source position cycles situation)
    (holds : program.Holds position (character :: text))
    (isComment : Command.ofChar? character = none) :
    ∃ next : Machine, next.Stands program eof source (position + 1) cycles situation ∧
      ∀ budget, machine.run budget = next.run budget := by
  have inside : machine.position < machine.program.length := by
    rw [stands.program_eq, stands.position_eq]
    exact holds.lt_length
  have nothing : machine.command? = none := by
    rw [stands.command?_eq, holds.command?_eq, isComment]
  refine ⟨{ machine with position := machine.position + 1 }, ?_,
    run_comment stands.runs inside nothing⟩
  exact ⟨stands.program_eq, stands.eof_eq, stands.runs, stands.unfailed,
    congrArg (· + 1) stands.position_eq, stands.cycles_eq, stands.shown.relocate _ _ _ _⟩

/-- A command that changes the situation and then goes on behind a position. -/
theorem perform
    {command : Command}
    {changed : Machine}
    {after : Situation}
    {target : Nat}
    (stands : machine.Stands program eof source position cycles situation)
    (found : program.command? position = some command)
    (changedStands : changed.Stands program eof source position cycles after)
    (performed : machine.perform command = changed.advance target) :
    ∃ next : Machine, next.Stands program eof source (target + 1) (cycles + 1) after ∧
      ∀ budget, machine.run (1 + budget) = next.run budget := by
  rw [← stands.command?_eq] at found
  refine ⟨changed.proceed target, ?_, ?_⟩
  · exact ⟨changedStands.program_eq, changedStands.eof_eq, changedStands.runs,
      changedStands.unfailed, rfl, congrArg (· + 1) changedStands.cycles_eq,
      changedStands.shown.relocate _ _ _ _⟩
  · intro budget
    rw [run_of_command? stands.runs found, performed, run_advance changedStands.runs]

/-- After a change that is none of control, a machine stands where it stood. -/
theorem changeTo
    {changed : Machine}
    {after : Situation}
    (stands : machine.Stands program eof source position cycles situation)
    (same : changed.SameControl machine)
    (shown : changed.Shows source after) :
    changed.Stands program eof source position cycles after where
  program_eq := same.program.trans stands.program_eq
  eof_eq := same.eof.trans stands.eof_eq
  runs := by
    rw [running_iff, same.status, ← running_iff]
    exact stands.runs
  unfailed := same.failure?.trans stands.unfailed
  position_eq := same.position.trans stands.position_eq
  cycles_eq := same.cycles.trans stands.cycles_eq
  shown := shown

theorem move
    {after : Situation}
    {distance : Int}
    (stands : machine.Stands program eof source position cycles situation)
    (moved : situation.move distance = .ok after) :
    ∃ changed : Machine, changed.Stands program eof source position cycles after ∧
      machine.moveCursor distance = changed.advance machine.position := by
  rw [Situation.move, ← stands.shown.tape, ← stands.shown.cursor] at moved
  cases target : machine.tape.move machine.cursor distance with
  | error fault =>
      rw [target] at moved
      cases moved
  | ok reached =>
      obtain ⟨cursor, tape⟩ := reached
      rw [target] at moved
      cases moved
      refine ⟨{ machine with cursor := cursor, tape := tape }, ?_, ?_⟩
      · exact stands.changeTo ⟨rfl, rfl, rfl, rfl, rfl, rfl⟩
          ⟨rfl, rfl, stands.shown.output, stands.shown.pending, stands.shown.fetched,
            stands.shown.feed⟩
      · rw [moveCursor, target]

theorem move_error
    {cause : FailureCause}
    {distance : Int}
    (stands : machine.Stands program eof source position cycles situation)
    (moved : situation.move distance = .error cause) :
    machine.moveCursor distance = machine.fail cause := by
  rw [Situation.move, ← stands.shown.tape, ← stands.shown.cursor] at moved
  cases target : machine.tape.move machine.cursor distance with
  | error fault =>
      rw [target] at moved
      cases moved
      rw [moveCursor, target]
  | ok reached =>
      rw [target] at moved
      cases moved

/-- An action takes the machine to the situation that its effect describes. -/
theorem act
    {action : Action}
    {after : Situation}
    (stands : machine.Stands program eof source position cycles situation)
    (found : program.command? position = some action.command)
    (effect : action.effect eof situation = .ok after) :
    ∃ next : Machine, next.Stands program eof source (position + 1) (cycles + 1) after ∧
      ∀ budget, machine.run (1 + budget) = next.run budget := by
  have sameCell := stands.shown.cell_eq
  obtain ⟨changed, changedStands, performed⟩ :
      ∃ changed : Machine, changed.Stands program eof source position cycles after ∧
        machine.perform action.command = changed.advance machine.position := by
    cases action with
    | increment =>
        cases effect
        refine ⟨machine.store (machine.cell + 1), ?_, rfl⟩
        rw [sameCell]
        exact stands.changeTo ⟨rfl, rfl, rfl, rfl, rfl, rfl⟩ (stands.shown.store _)
    | decrement =>
        cases effect
        refine ⟨machine.store (machine.cell - 1), ?_, rfl⟩
        rw [sameCell]
        exact stands.changeTo ⟨rfl, rfl, rfl, rfl, rfl, rfl⟩ (stands.shown.store _)
    | moveLeft => exact stands.move effect
    | moveRight => exact stands.move effect
    | output =>
        cases effect
        exact ⟨machine.emit, stands.changeTo ⟨rfl, rfl, rfl, rfl, rfl, rfl⟩ stands.shown.emit, rfl⟩
    | input =>
        cases effect
        refine ⟨machine.receive, ?_, rfl⟩
        have shown := stands.shown.receive
        rw [stands.eof_eq] at shown
        exact stands.changeTo (sameControl_receive machine) shown
  rw [stands.position_eq] at performed
  exact stands.perform found changedStands performed

/-- An action that fails stops the machine in the situation that it is in. -/
theorem fail
    {action : Action}
    {cause : FailureCause}
    (stands : machine.Stands program eof source position cycles situation)
    (found : program.command? position = some action.command)
    (effect : action.effect eof situation = .error cause)
    (budget : Nat) :
    machine.run (1 + budget) = machine.fail cause := by
  have performed : machine.perform action.command = machine.fail cause := by
    cases action with
    | increment => cases effect
    | decrement => cases effect
    | moveLeft => exact stands.move_error effect
    | moveRight => exact stands.move_error effect
    | output => cases effect
    | input => cases effect
  rw [← stands.command?_eq] at found
  rw [run_of_command? stands.runs found, performed]
  exact run_of_not_running (by simp [running, Machine.fail]) budget

/-- A jump goes behind the partner when it is taken, and behind the bracket when it is not. -/
theorem jump
    {command : Command}
    {partner : Nat}
    {taken : Bool}
    (stands : machine.Stands program eof source position cycles situation)
    (found : program.command? position = some command)
    (paired : program.partner? position = some partner)
    (performed : machine.perform command = machine.jump taken) :
    ∃ next : Machine,
      next.Stands program eof source ((if taken then partner else position) + 1) (cycles + 1)
        situation ∧
      ∀ budget, machine.run (1 + budget) = next.run budget := by
  apply stands.perform found stands
  rw [performed, Machine.jump, stands.program_eq, stands.position_eq, paired]
  cases taken <;> rfl

/-- The open of a loop leads to the landing. -/
theorem enterLoop
    {inner after : List Char}
    (stands : machine.Stands program eof source position cycles situation)
    (holds : program.Holds position ('[' :: (inner ++ ']' :: after)))
    (balanced : Brackets.Balanced inner) :
    ∃ next : Machine,
      next.Stands program eof source (situation.landing position inner) (cycles + 1) situation ∧
      ∀ budget, machine.run (1 + budget) = next.run budget := by
  obtain ⟨paired, -⟩ := holds.partner?_eq balanced
  have found : program.command? position = some .loopOpen := holds.command?_eq
  have jumped := stands.jump found paired rfl
  rwa [stands.shown.cell_eq, situation.landing_of_open] at jumped

/-- The close of a loop leads to the landing as well, so the cell is not tested twice. -/
theorem repeatLoop
    {inner after : List Char}
    (holds : program.Holds position ('[' :: (inner ++ ']' :: after)))
    (balanced : Brackets.Balanced inner)
    (stands : machine.Stands program eof source (position + inner.length + 1) cycles situation) :
    ∃ next : Machine,
      next.Stands program eof source (situation.landing position inner) (cycles + 1) situation ∧
      ∀ budget, machine.run (1 + budget) = next.run budget := by
  obtain ⟨-, paired⟩ := holds.partner?_eq balanced
  obtain ⟨-, atClose, -⟩ := holds.loop_parts
  have found : program.command? (position + inner.length + 1) = some .loopClose :=
    atClose.command?_eq
  have jumped := stands.jump found paired rfl
  rwa [stands.shown.cell_eq, situation.landing_of_close] at jumped

end Stands
end Machine
end TapeMachine

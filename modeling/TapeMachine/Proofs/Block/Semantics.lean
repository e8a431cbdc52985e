import TapeMachine.Policy
import TapeMachine.Proofs.Block.Syntax
import TapeMachine.Tape.Basic

/-!
# What blocks do

The meaning of a block by its structure, without positions and jumps.  An action changes the
situation, or it fails when a move leaves the tape.  A loop does nothing when the current cell is
zero; otherwise its body runs and the cell is tested again.  A block that fails anywhere ends
there.

Every action costs one cycle.  A loop costs one cycle when it is reached and one more each time
its body is completed.
-/

namespace TapeMachine

/-- What a program acts on. -/
structure Situation where
  /-- The tape. -/
  tape : Tape
  /-- The index of the current cell. -/
  cursor : Int
  /-- The input that is left: its next byte, the one after that, and so on. -/
  input : Nat → Option UInt8
  /-- The input that has been read. -/
  consumed : List UInt8
  /-- The output so far. -/
  output : Array UInt8

namespace Situation

/-- The byte under the cursor. -/
def cell (situation : Situation) : UInt8 :=
  situation.tape.get situation.cursor

/-- Puts a byte into the current cell. -/
def put (situation : Situation) (byte : UInt8) : Situation :=
  { situation with tape := situation.tape.set situation.cursor byte }

/-- Moves the cursor by a distance, or fails where the tape has no such cell. -/
def move (situation : Situation) (distance : Int) : Except FailureCause Situation :=
  match situation.tape.move situation.cursor distance with
  | .ok (cursor, tape) => .ok { situation with cursor := cursor, tape := tape }
  | .error fault => .error fault.cause

/-- Writes the current cell to the output. -/
def write (situation : Situation) : Situation :=
  { situation with output := situation.output.push situation.cell }

/-- Reads a byte into the current cell; at the end of the input the policy decides. -/
def read (situation : Situation) (eof : EofPolicy) : Situation :=
  match situation.input 0 with
  | some byte =>
      { situation with
        input := fun index => situation.input (index + 1)
        consumed := situation.consumed ++ [byte] }.put byte
  | none =>
      match eof with
      | .zero => situation.put 0
      | .unchanged => situation

section Fields

variable (situation : Situation) (byte : UInt8)

@[simp] theorem cell_put : (situation.put byte).cell = byte :=
  Cells.get_set_self _ _ byte

@[simp] theorem input_put : (situation.put byte).input = situation.input := rfl

@[simp] theorem output_put : (situation.put byte).output = situation.output := rfl

@[simp] theorem cell_write : situation.write.cell = situation.cell := rfl

@[simp] theorem input_write : situation.write.input = situation.input := rfl

@[simp] theorem output_write : situation.write.output = situation.output.push situation.cell := rfl

end Fields
end Situation

/-- What an action makes of a situation, or why it fails. -/
def Action.effect
    (eof : EofPolicy)
    (situation : Situation) :
    Action → Except FailureCause Situation
  | .increment => .ok (situation.put (situation.cell + 1))
  | .decrement => .ok (situation.put (situation.cell - 1))
  | .moveLeft => situation.move (-1)
  | .moveRight => situation.move 1
  | .output => .ok situation.write
  | .input => .ok (situation.read eof)

/-- How a block ends. -/
inductive Ending
  /-- Everything was done. -/
  | finished (situation : Situation)
  /-- An action failed. -/
  | failed (situation : Situation) (cause : FailureCause)

namespace Ending

/-- The situation in which a block ends. -/
def situation : Ending → Situation
  | finished situation => situation
  | failed situation _ => situation

/-- Why a block failed, if it did. -/
def cause? : Ending → Option FailureCause
  | finished _ => none
  | failed _ cause => some cause

end Ending

/-- What there is to do: a block, or a loop that has been reached and tests its cell. -/
inductive Task
  /-- A block is to be run. -/
  | block (block : Block)
  /-- A body is to be run as long as the current cell is not zero. -/
  | again (body : Block)

/-- A task, begun in a situation, comes to an ending after a number of cycles. -/
inductive Runs (eof : EofPolicy) : Task → Situation → Nat → Ending → Prop
  /-- An empty block is finished. -/
  | done {situation : Situation} :
      Runs eof (.block .done) situation 0 (.finished situation)
  /-- An action takes one cycle, and the rest follows. -/
  | act {action : Action} {rest : Block} {before after : Situation}
      {cycles : Nat} {ending : Ending}
      (effect : action.effect eof before = .ok after)
      (restRuns : Runs eof (.block rest) after cycles ending) :
      Runs eof (.block (.act action rest)) before (1 + cycles) ending
  /-- An action that fails takes no cycle and ends the block. -/
  | fail {action : Action} {rest : Block} {situation : Situation} {cause : FailureCause}
      (effect : action.effect eof situation = .error cause) :
      Runs eof (.block (.act action rest)) situation 0 (.failed situation cause)
  /-- Reaching a loop takes one cycle; when the loop is finished, the rest follows. -/
  | loop {body rest : Block} {before after : Situation}
      {cycles restCycles : Nat} {ending : Ending}
      (loopRuns : Runs eof (.again body) before cycles (.finished after))
      (restRuns : Runs eof (.block rest) after restCycles ending) :
      Runs eof (.block (.loop body rest)) before (1 + cycles + restCycles) ending
  /-- A loop that fails ends the block. -/
  | loopFail {body rest : Block} {before after : Situation}
      {cycles : Nat} {cause : FailureCause}
      (loopRuns : Runs eof (.again body) before cycles (.failed after cause)) :
      Runs eof (.block (.loop body rest)) before (1 + cycles) (.failed after cause)
  /-- A zero ends the loop. -/
  | stop {body : Block} {situation : Situation}
      (isZero : situation.cell = 0) :
      Runs eof (.again body) situation 0 (.finished situation)
  /-- A completed body takes one cycle more, and the cell is tested again. -/
  | again {body : Block} {before between : Situation}
      {cycles moreCycles : Nat} {ending : Ending}
      (notZero : before.cell ≠ 0)
      (bodyRuns : Runs eof (.block body) before cycles (.finished between))
      (againRuns : Runs eof (.again body) between moreCycles ending) :
      Runs eof (.again body) before (cycles + 1 + moreCycles) ending
  /-- A body that fails ends the loop. -/
  | againFail {body : Block} {before after : Situation}
      {cycles : Nat} {cause : FailureCause}
      (notZero : before.cell ≠ 0)
      (bodyRuns : Runs eof (.block body) before cycles (.failed after cause)) :
      Runs eof (.again body) before cycles (.failed after cause)

/-- A loop that completes its body once more takes the cycles of the body and one for the close. -/
theorem Runs.loop_again
    {eof : EofPolicy}
    {body rest : Block}
    {before between : Situation}
    {bodyCycles cycles : Nat}
    {ending : Ending}
    (notZero : before.cell ≠ 0)
    (bodyRuns : Runs eof (.block body) before bodyCycles (.finished between))
    (runs : Runs eof (.block (.loop body rest)) between (1 + cycles) ending) :
    Runs eof (.block (.loop body rest)) before (1 + (bodyCycles + 1 + cycles)) ending := by
  generalize total : 1 + cycles = reached at runs
  cases runs with
  | @loop _ _ _ _ loopCycles restCycles _ loopRuns restRuns =>
      have whole := Runs.loop (.again notZero bodyRuns loopRuns) restRuns
      have sum : 1 + (bodyCycles + 1 + loopCycles) + restCycles =
          1 + (bodyCycles + 1 + cycles) := by omega
      rwa [sum] at whole
  | @loopFail _ _ _ _ loopCycles _ loopRuns =>
      obtain rfl : cycles = loopCycles := by omega
      exact .loopFail (.again notZero bodyRuns loopRuns)

end TapeMachine

import TapeMachine.Machine.Basic
import TapeMachine.Text.Quoted

/-!
# Descriptions of steps

A description says in words what a completed step has done.
-/

namespace TapeMachine

/-- What a completed step has done. -/
inductive Description
  /-- The cursor moved right to an index. -/
  | movedRight (cursor : Int)
  /-- The cursor moved left to an index. -/
  | movedLeft (cursor : Int)
  /-- A cell was incremented to a value. -/
  | incremented (index : Int) (value : UInt8)
  /-- A cell was decremented to a value. -/
  | decremented (index : Int) (value : UInt8)
  /-- The value of a cell was written. -/
  | wrote (index : Int) (value : UInt8)
  /-- A byte was read into a cell. -/
  | received (value : UInt8) (index : Int)
  /-- There was nothing to read, and a cell has a value. -/
  | receivedNothing (index : Int) (value : UInt8)
  /-- A loop was skipped because a cell is zero, and the run goes on at a position. -/
  | skippedLoop (index : Int) (target : Nat)
  /-- A loop was entered because a cell is not zero. -/
  | enteredLoop (index : Int)
  /-- A loop is repeated because a cell is not zero, and the run goes on at a position. -/
  | repeatedLoop (index : Int) (target : Nat)
  /-- A loop was left because a cell is zero. -/
  | leftLoop (index : Int)
  deriving DecidableEq, Repr

namespace Description

/-- A cell by its index. -/
def cellName (index : Int) : String :=
  "cell[" ++ toString index ++ "]"

/-- A byte in decimal. -/
def number (byte : UInt8) : String :=
  toString byte.toNat

/-- A description in words. -/
def text : Description → String
  | movedRight cursor => "Move pointer right → position " ++ toString cursor
  | movedLeft cursor => "Move pointer left → position " ++ toString cursor
  | incremented index value => "Increment " ++ cellName index ++ " → " ++ number value
  | decremented index value => "Decrement " ++ cellName index ++ " → " ++ number value
  | wrote index value =>
    "Output " ++ cellName index ++ " = " ++ number value ++ " → " ++
      Text.quote (String.singleton (Text.charOfByte value))
  | received value index => "Read input " ++ number value ++ " → " ++ cellName index
  | receivedNothing index value =>
    "Read input: EOF, " ++ cellName index ++ " = " ++ number value
  | skippedLoop index target =>
    "Loop start: " ++ cellName index ++ " = 0, jump to position " ++ toString target
  | enteredLoop index => "Loop start: " ++ cellName index ++ " ≠ 0, enter loop"
  | repeatedLoop index target =>
    "Loop end: " ++ cellName index ++ " ≠ 0, jump back to position " ++ toString target
  | leftLoop index => "Loop end: " ++ cellName index ++ " = 0, exit loop"

end Description

namespace Machine

/-- Describes a completed command by the machines before and after it. -/
def describe (before after : Machine) : Command → Description
  | .moveRight => .movedRight after.cursor
  | .moveLeft => .movedLeft after.cursor
  | .increment => .incremented before.cursor after.cell
  | .decrement => .decremented before.cursor after.cell
  | .output => .wrote before.cursor before.cell
  | .input =>
    if after.exhausted then .receivedNothing before.cursor after.cell
    else .received after.cell before.cursor
  | .loopOpen =>
    if after.position = before.position + 1 then .enteredLoop before.cursor
    else .skippedLoop before.cursor after.position
  | .loopClose =>
    if after.position = before.position + 1 then .leftLoop before.cursor
    else .repeatedLoop before.cursor after.position

end Machine
end TapeMachine

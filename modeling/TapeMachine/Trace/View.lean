import TapeMachine.Machine.Basic
import TapeMachine.Text.Pad
import TapeMachine.Text.Quoted

/-!
# Views of a machine

A view is what a trace shows of a machine between two steps: the program with its position, the
input that is waiting, a window of the tape around the cursor, and the output.
-/

namespace TapeMachine

/-- What a trace shows of a machine. -/
structure View where
  /-- The text of the program. -/
  code : Array Char
  /-- The position in the program. -/
  position : Nat
  /-- Input that has been fetched and not yet read. -/
  pending : List UInt8
  /-- Whether the source has said that it is exhausted. -/
  exhausted : Bool
  /-- The index of the first cell of the window. -/
  start : Int
  /-- The cells of the window. -/
  cells : List UInt8
  /-- The index of the current cell. -/
  cursor : Int
  /-- The output so far. -/
  output : Array UInt8
  deriving DecidableEq, Repr

/-- Bytes as a list of numbers. -/
def byteList (bytes : List UInt8) : String :=
  "[" ++ ", ".intercalate (bytes.map fun byte => toString byte.toNat) ++ "]"

namespace View

/-- Where a window around a cursor starts.  Only a sparse tape is shown below zero. -/
def startAround (policy : Addressing) (cursor window : Int) : Int :=
  let centred := cursor - window.fdiv 2
  match policy with
  | .sparse => centred
  | _ => max 0 centred

/-- The indices of the cells of the window. -/
def addresses (view : View) : List Int :=
  interval view.start (view.start + view.cells.length)

/-- The program with brackets around the character at its position. -/
def markedCode (view : View) : String :=
  let position := min view.position view.code.size
  let before := String.ofList (view.code.toList.take position)
  match view.code.toList.drop position with
  | [] => before ++ "[END]"
  | character :: after => before ++ "[" ++ String.singleton character ++ "]" ++ String.ofList after

/-- The lines on the program and the input. -/
def programLines (view : View) : List String :=
  ["Program:  " ++ view.markedCode,
    "Input:    " ++ Text.quoteBytes view.pending ++ (if view.exhausted then " [EOF]" else "")]

/-- The lines on the window: the cells, a mark under the current one, and their indices. -/
def memoryLines (view : View) : List String :=
  let cells := view.cells.map fun byte => Text.padLeft 3 (toString byte.toNat)
  let marks := view.addresses.map fun index => if index = view.cursor then " ^ " else "   "
  let indices := view.addresses.map fun index => Text.padLeft 3 (toString index)
  ["Memory:   [" ++ "|".intercalate cells ++ "]",
    "Pointer:   " ++ " ".intercalate marks,
    "Address:   " ++ " ".intercalate indices]

/-- The line on the output. -/
def outputLine (view : View) : String :=
  let output := view.output.toList
  if output.isEmpty then "Output:   (empty)"
  else "Output:   " ++ Text.quote (Text.ofLatinBytes output) ++ " → " ++ byteList output

/-- The lines of a view. -/
def lines (view : View) : List String :=
  view.programLines ++ view.memoryLines ++ [view.outputLine]

end View

namespace Machine

/-- The view of a machine with a window of some width. -/
def view (window : Int) (machine : Machine) : View :=
  let start := View.startAround machine.tape.extent.policy machine.cursor window
  { code := machine.program.code
    position := machine.position
    pending := machine.queue
    exhausted := machine.exhausted
    start := start
    cells := machine.tape.snapshot start (start + window)
    cursor := machine.cursor
    output := machine.output }

end Machine
end TapeMachine

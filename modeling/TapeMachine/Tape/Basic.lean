import TapeMachine.Diagnostic
import TapeMachine.Policy
import TapeMachine.Tape.Cells

/-!
# Tapes

A tape holds bytes.  Its extent says which indices there are and where a move of the cursor
may end: a bounded tape has a fixed range of cells, a growable tape gets more cells to the
right when they are needed, and a sparse tape has a cell for every integer or for every
residue of a modulus.
-/

namespace TapeMachine

/-- The number of cells of a bounded tape that nothing else is said about. -/
def defaultTapeSize : Nat := 30000

/-- Which indices a tape has. -/
inductive Extent
  /-- The indices below a fixed size. -/
  | bounded (size : Nat)
  /-- The indices below a size that grows on demand. -/
  | growable (size : Nat)
  /-- Every integer; moves are reduced by the modulus if there is one. -/
  | sparse (modulus : Option Nat)
  deriving DecidableEq, Repr

/-- A tape of bytes. -/
structure Tape where
  /-- Which indices there are. -/
  extent : Extent
  /-- The content. -/
  cells : Cells

/-- A move of the cursor to an index that the tape does not have. -/
structure AddressingFault where
  /-- On which side the move left the tape. -/
  cause : FailureCause
  /-- The index that the move would have reached. -/
  index : Int
  deriving DecidableEq, Repr

/-- The wording of a fault. -/
def AddressingFault.message (fault : AddressingFault) : String :=
  fault.cause.name ++ ": index " ++ toString fault.index

/-- An access to an index that a tape with finitely many cells does not have. -/
structure IndexFault where
  /-- The index. -/
  index : Int
  /-- The number of cells. -/
  size : Nat
  deriving DecidableEq, Repr

/-- The wording of a fault. -/
def IndexFault.message (fault : IndexFault) : String :=
  "index " ++ toString fault.index ++ " is out of bounds for axis 0 with size " ++
    toString fault.size

/-- A measure of a tape that has to be positive and is not. -/
inductive ExtentFault
  /-- The size of a bounded tape. -/
  | size (given : Int)
  /-- The first size of a growable tape. -/
  | initialSize (given : Int)
  /-- The modulus of a sparse tape. -/
  | modulus (given : Int)
  deriving DecidableEq, Repr

/-- The wording of a fault. -/
def ExtentFault.message : ExtentFault → String
  | size given => "tape size must be positive, got " ++ toString given
  | initialSize given => "initial size must be positive, got " ++ toString given
  | modulus given => "modulus must be positive, got " ++ toString given

/-- The byte that an integer leaves modulo 256. -/
def byteOfInt (value : Int) : UInt8 :=
  UInt8.ofNat (value % 256).toNat

/-- The integers from a first one up to but not including a last one. -/
def interval (first last : Int) : List Int :=
  (List.range (last - first).toNat).map fun (step : Nat) => first + (step : Int)

namespace Extent

/-- The policy of an extent. -/
def policy : Extent → Addressing
  | bounded _ => .bounded
  | growable _ => .growable
  | sparse _ => .sparse

/-- The number of cells, where it is finite. -/
def size? : Extent → Option Nat
  | bounded size => some size
  | growable size => some size
  | sparse _ => none

/-- The extent of a bounded tape; the size has to be positive. -/
def bounded? (size : Int) : Except ExtentFault Extent :=
  if size < 1 then .error (.size size) else .ok (.bounded size.toNat)

/-- The extent of a growable tape; the first size has to be positive. -/
def growable? (size : Int) : Except ExtentFault Extent :=
  if size < 1 then .error (.initialSize size) else .ok (.growable size.toNat)

/-- The extent of a sparse tape; a modulus has to be positive. -/
def sparse? (modulus : Option Int) : Except ExtentFault Extent :=
  match modulus with
  | none => .ok (.sparse none)
  | some given =>
    if given < 1 then .error (.modulus given) else .ok (.sparse (some given.toNat))

/-- The extent of a tape of a policy.  A growable tape starts with one cell whatever the size is. -/
def ofPolicy? (policy : Addressing) (size : Int) (modulus : Option Int) :
    Except ExtentFault Extent :=
  match policy with
  | .bounded => bounded? size
  | .growable => growable? 1
  | .sparse => sparse? modulus

/-- The size after a growable tape has made room for an index: at least doubled if it grows. -/
def grownSize (size : Nat) (index : Int) : Nat :=
  if index < size then size else max (index + 1).toNat (2 * size)

/-- Makes room for an index where the extent can grow. -/
def ensure (extent : Extent) (index : Int) : Extent :=
  match extent with
  | growable size => growable (grownSize size index)
  | other => other

/-- The cell that an index means among finitely many cells: negative ones count from the end. -/
def slot (size : Nat) (index : Int) : Except IndexFault Int :=
  if 0 ≤ index ∧ index < size then .ok index
  else if -(size : Int) ≤ index ∧ index < 0 then .ok (index + size)
  else .error ⟨index, size⟩

end Extent

namespace Tape

/-- A blank tape of an extent. -/
def ofExtent (extent : Extent) : Tape :=
  ⟨extent, .blank⟩

/-- A blank growable tape; the first size has to be positive. -/
def growable? (size : Int) : Except ExtentFault Tape :=
  (Extent.growable? size).map ofExtent

/-- A blank tape of a policy. -/
def ofPolicy? (policy : Addressing) (size : Int) (modulus : Option Int) :
    Except ExtentFault Tape :=
  (Extent.ofPolicy? policy size modulus).map ofExtent

/-- The byte of a cell. -/
def get (tape : Tape) (index : Int) : UInt8 :=
  tape.cells.get index

/-- Puts a byte into a cell. -/
def set (tape : Tape) (index : Int) (byte : UInt8) : Tape :=
  { tape with cells := tape.cells.set index byte }

/--
Reads the cell that an index means.  On a tape with finitely many cells negative indices count
from the end, and a growable tape reads zero beyond its end.
-/
def read (tape : Tape) (index : Int) : Except IndexFault UInt8 :=
  match tape.extent with
  | .bounded size => (Extent.slot size index).map tape.get
  | .growable size => if size ≤ index then .ok 0 else (Extent.slot size index).map tape.get
  | .sparse _ => .ok (tape.get index)

/-- Writes an integer modulo 256 to the cell that an index means, making room for it if possible. -/
def write (tape : Tape) (index value : Int) : Except IndexFault Tape :=
  let roomy : Tape := { tape with extent := tape.extent.ensure index }
  match roomy.extent with
  | .bounded size => (Extent.slot size index).map fun slot => roomy.set slot (byteOfInt value)
  | .growable size => (Extent.slot size index).map fun slot => roomy.set slot (byteOfInt value)
  | .sparse _ => .ok (roomy.set index (byteOfInt value))

/-- Where a move from an index ends, and the tape with room for that index. -/
def move (tape : Tape) (index distance : Int) : Except AddressingFault (Int × Tape) :=
  let target := index + distance
  match tape.extent with
  | .bounded size =>
    if target < 0 then .error ⟨.underflow, target⟩
    else if size ≤ target then .error ⟨.overflow, target⟩
    else .ok (target, tape)
  | .growable _ =>
    if target < 0 then .error ⟨.underflow, target⟩
    else .ok (target, { tape with extent := tape.extent.ensure target })
  | .sparse none => .ok (target, tape)
  | .sparse (some modulus) => .ok (target % modulus, tape)

/-- Where a cut through finitely many cells ends: a negative end counts from the end. -/
def cutEnd (size : Nat) (stop : Int) : Int :=
  let clipped := min (size : Int) stop
  if clipped < 0 then max 0 (size + clipped) else clipped

/-- The byte that is read at an index, or zero if none can be read there. -/
def shown (tape : Tape) (index : Int) : UInt8 :=
  match tape.read index with
  | .ok byte => byte
  | .error _ => 0

/--
The bytes of a window of indices.  A bounded tape shows only cells that it has; the other
tapes show zero where they have no cell.
-/
def snapshot (tape : Tape) (start stop : Int) : List UInt8 :=
  match tape.extent with
  | .bounded size => (interval (max 0 start) (cutEnd size stop)).map tape.get
  | .growable _ =>
    (interval start stop).map fun index => if 0 ≤ index then tape.shown index else 0
  | .sparse _ => (interval start stop).map tape.shown

/-- The cells that are not zero, by ascending index. -/
def touched (tape : Tape) : List (Int × UInt8) :=
  tape.cells.toList

end Tape
end TapeMachine

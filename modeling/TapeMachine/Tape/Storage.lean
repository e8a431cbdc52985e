import Std.Data.HashMap
import TapeMachine.Tape.Basic

/-!
# Storages

How the cells of a tape are laid out.  A bounded tape keeps them in an array.  So does a growable
tape, and to grow it copies them into a larger array of zeros.  A sparse tape keeps the cells that
are not zero in a dictionary.
-/

namespace TapeMachine

/-- The cells of a tape as they are laid out. -/
inductive Storage
  /-- All cells are in an array. -/
  | bounded (cells : Array UInt8)
  /-- The cells that there is room for are in an array. -/
  | growable (cells : Array UInt8)
  /-- The cells that are not zero are in a dictionary; moves are reduced by a modulus. -/
  | sparse (modulus : Option Nat) (cells : Std.HashMap Int UInt8)

namespace Storage

/-! ## Arrays -/

/-- An array of zeros. -/
def zeros (size : Nat) : Array UInt8 :=
  Array.replicate size 0

/-- Copies the cells of an array in turn to the front of another. -/
def copyFront (target source : Array UInt8) : Array UInt8 :=
  (List.range source.size).foldl
    (fun copied place => copied.setIfInBounds place (source.getD place 0)) target

/-- An array with room for an index: it is copied into a larger one if it has none. -/
def ensure (cells : Array UInt8) (index : Int) : Array UInt8 :=
  if index < cells.size then cells
  else copyFront (zeros (max (index + 1).toNat (2 * cells.size))) cells

/-- The byte of an array that an index means; negative indices count from the end. -/
def load (cells : Array UInt8) (index : Int) : Except IndexFault UInt8 :=
  (Extent.slot cells.size index).map fun slot => cells.getD slot.toNat 0

/-- Puts a byte where an index means; negative indices count from the end. -/
def store (cells : Array UInt8) (index : Int) (byte : UInt8) : Except IndexFault (Array UInt8) :=
  (Extent.slot cells.size index).map fun slot => cells.setIfInBounds slot.toNat byte

/-- The bytes of an array that are not zero, by ascending index. -/
def scan (cells : Array UInt8) : List (Int × UInt8) :=
  let places := (List.range cells.size).filter fun place => cells.getD place 0 != 0
  places.map fun (place : Nat) => ((place : Int), cells.getD place 0)

/-! ## Dictionaries -/

/-- Puts a byte at an index of a dictionary, or removes the index if the byte is zero. -/
def enter (cells : Std.HashMap Int UInt8) (index : Int) (byte : UInt8) : Std.HashMap Int UInt8 :=
  if byte = 0 then cells.erase index else cells.insert index byte

/-! ## Tapes -/

/-- The storage of a blank tape of an extent. -/
def blank : Extent → Storage
  | .bounded size => bounded (zeros size)
  | .growable size => growable (zeros size)
  | .sparse modulus => sparse modulus ∅

/-- The storage of a blank tape of a policy. -/
def ofPolicy? (policy : Addressing) (size : Int) (modulus : Option Int) :
    Except ExtentFault Storage :=
  (Extent.ofPolicy? policy size modulus).map blank

/-- The extent of a tape. -/
def extent : Storage → Extent
  | bounded cells => .bounded cells.size
  | growable cells => .growable cells.size
  | sparse modulus _ => .sparse modulus

/-- Reads the cell that an index means.  A growable tape reads zero beyond its end. -/
def read (storage : Storage) (index : Int) : Except IndexFault UInt8 :=
  match storage with
  | bounded cells => load cells index
  | growable cells => if cells.size ≤ index then .ok 0 else load cells index
  | sparse _ cells => .ok (cells.getD index 0)

/--
Writes an integer modulo 256 to the cell that an index means.  A growable tape makes room before it
is known whether there is such a cell.
-/
def write (storage : Storage) (index value : Int) : Except IndexFault Unit × Storage :=
  let byte := byteOfInt value
  match storage with
  | bounded cells =>
    match store cells index byte with
    | .ok stored => (.ok (), bounded stored)
    | .error fault => (.error fault, bounded cells)
  | growable cells =>
    let roomy := ensure cells index
    match store roomy index byte with
    | .ok stored => (.ok (), growable stored)
    | .error fault => (.error fault, growable roomy)
  | sparse modulus cells => (.ok (), sparse modulus (enter cells index byte))

/-- Where a move from an index ends, and the storage with room for that index. -/
def move (storage : Storage) (index distance : Int) : Except AddressingFault Int × Storage :=
  let target := index + distance
  match storage with
  | bounded cells =>
    if target < 0 then (.error ⟨.underflow, target⟩, bounded cells)
    else if cells.size ≤ target then (.error ⟨.overflow, target⟩, bounded cells)
    else (.ok target, bounded cells)
  | growable cells =>
    if target < 0 then (.error ⟨.underflow, target⟩, growable cells)
    else (.ok target, growable (ensure cells target))
  | sparse none cells => (.ok target, sparse none cells)
  | sparse (some modulus) cells => (.ok (target % modulus), sparse (some modulus) cells)

/--
The bytes of a window of indices.  A bounded tape cuts them out of its array; the other tapes read
them one by one.
-/
def snapshot (storage : Storage) (start stop : Int) : Except IndexFault (List UInt8) :=
  match storage with
  | bounded cells =>
    .ok (cells.extract (max 0 start).toNat (Tape.cutEnd cells.size stop).toNat).toList
  | growable cells =>
    (interval start stop).mapM fun index =>
      if 0 ≤ index then (growable cells).read index else .ok 0
  | sparse modulus cells => (interval start stop).mapM (sparse modulus cells).read

/-- The cells that are not zero, by ascending index. -/
def touched : Storage → List (Int × UInt8)
  | bounded cells => scan cells
  | growable cells => scan cells
  | sparse _ cells => cells.toList.mergeSort fun entry next => entry.1 ≤ next.1

end Storage
end TapeMachine

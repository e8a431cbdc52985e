import Std.Data.ExtTreeMap

/-!
# Cells

The content of a tape: a byte for every integer, all but finitely many of them zero.  Only
the cells that are not zero are stored.
-/

namespace TapeMachine

/-- Finitely many bytes that are not zero, by index. -/
structure Cells where
  /-- The cells that are not zero. -/
  stored : Std.ExtTreeMap Int UInt8

namespace Cells

/-- The content in which every cell is zero. -/
def blank : Cells := ⟨∅⟩

/-- The byte at an index. -/
def get (cells : Cells) (index : Int) : UInt8 :=
  cells.stored.getD index 0

/-- Puts a byte at an index. -/
def set (cells : Cells) (index : Int) (byte : UInt8) : Cells :=
  ⟨if byte = 0 then cells.stored.erase index else cells.stored.insert index byte⟩

/-- The cells that are not zero, by ascending index. -/
def toList (cells : Cells) : List (Int × UInt8) :=
  cells.stored.toList

@[simp]
theorem get_blank (index : Int) : blank.get index = 0 := by
  simp [get, blank]

/-- Putting a byte changes the cell at its index and no other. -/
theorem get_set (cells : Cells) (index other : Int) (byte : UInt8) :
    (cells.set index byte).get other = if index = other then byte else cells.get other := by
  unfold get set
  by_cases isZero : byte = 0
  · subst isZero
    simp [Std.ExtTreeMap.getD_erase]
  · simp [isZero, Std.ExtTreeMap.getD_insert]

@[simp]
theorem get_set_self (cells : Cells) (index : Int) (byte : UInt8) :
    (cells.set index byte).get index = byte := by
  simp [get_set]

end Cells
end TapeMachine

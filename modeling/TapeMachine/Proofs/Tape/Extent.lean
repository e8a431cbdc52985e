import Mathlib.Tactic.Common
import TapeMachine.Tape.Basic

/-!
# Inside a tape

An extent contains the indices at which a cursor may stand.  Inside its extent a tape is plain
memory: reading and writing succeed and mean the cell at the index itself.  A move that succeeds
ends inside the extent, which may have grown for it, and a tape stores bytes only inside its
extent and none that is zero.
-/

namespace TapeMachine
namespace Extent

/-- The indices at which a cursor may stand. -/
def Contains : Extent → Int → Prop
  | bounded size, index => 0 ≤ index ∧ index < size
  | growable size, index => 0 ≤ index ∧ index < size
  | sparse none, _ => True
  | sparse (some modulus), index => 0 ≤ index ∧ index < modulus

/-- An extent stays as it is, or it is growable and gets larger. -/
def Grows : Extent → Extent → Prop
  | growable before, growable after => before ≤ after
  | before, after => before = after

theorem Grows.refl (extent : Extent) : extent.Grows extent := by
  cases extent with
  | bounded size => rfl
  | growable size => exact Nat.le_refl size
  | sparse modulus => rfl

/-- All that growing can be. -/
theorem Grows.eq_or_growable
    {before after : Extent}
    (grows : before.Grows after) :
    before = after ∨
      ∃ size larger, before = growable size ∧ after = growable larger ∧ size ≤ larger := by
  cases before with
  | bounded size | sparse modulus => exact Or.inl grows
  | growable size =>
      cases after with
      | growable larger => exact Or.inr ⟨size, larger, rfl, rfl, grows⟩
      | bounded other | sparse modulus => cases grows

theorem Grows.trans
    {first second third : Extent}
    (firstGrows : first.Grows second)
    (secondGrows : second.Grows third) :
    first.Grows third := by
  rcases firstGrows.eq_or_growable with rfl | ⟨size, larger, rfl, rfl, firstBound⟩
  · exact secondGrows
  · rcases secondGrows.eq_or_growable with rfl | ⟨_, largest, ⟨⟩, rfl, secondBound⟩
    · exact firstGrows
    · exact Nat.le_trans firstBound secondBound

/-- A larger extent contains what a smaller one contains. -/
theorem Grows.contains
    {before after : Extent}
    {index : Int}
    (grows : before.Grows after)
    (contained : before.Contains index) :
    after.Contains index := by
  rcases grows.eq_or_growable with rfl | ⟨size, larger, rfl, rfl, bound⟩
  · exact contained
  · obtain ⟨nonnegative, below⟩ := contained
    exact ⟨nonnegative, by omega⟩

/-- A size that has made room for an index is no smaller and exceeds the index. -/
theorem grownSize_spec (size : Nat) (index : Int) :
    size ≤ grownSize size index ∧ index < grownSize size index := by
  unfold grownSize
  split_ifs with inside
  · exact ⟨Nat.le_refl size, inside⟩
  · omega

theorem grows_ensure (extent : Extent) (index : Int) : extent.Grows (extent.ensure index) := by
  cases extent with
  | bounded size => rfl
  | growable size => exact (grownSize_spec size index).1
  | sparse modulus => rfl

/-- There is room already for an index that is contained. -/
theorem ensure_of_contains
    {extent : Extent}
    {index : Int}
    (contained : extent.Contains index) :
    extent.ensure index = extent := by
  cases extent with
  | bounded size => rfl
  | growable size =>
      obtain ⟨-, below⟩ := contained
      rw [ensure, grownSize, if_pos below]
  | sparse modulus => rfl

/-- An index that is contained means its own cell. -/
theorem slot_of_contains
    {size : Nat}
    {index : Int}
    (nonnegative : 0 ≤ index)
    (below : index < size) :
    slot size index = .ok index := by
  rw [slot, if_pos ⟨nonnegative, below⟩]

end Extent

namespace Tape

variable {tape : Tape} {index : Int}

theorem shown_of_read_eq_ok
    {byte : UInt8}
    (readable : tape.read index = .ok byte) :
    tape.shown index = byte := by
  rw [shown, readable]

/-- A cut ends inside the tape. -/
theorem cutEnd_le (size : Nat) (stop : Int) : cutEnd size stop ≤ size := by
  simp only [cutEnd]
  split_ifs with negative
  · omega
  · exact Int.min_le_left _ _

/-- Reading a cell that the tape has gives its byte. -/
theorem read_of_contains (contained : tape.extent.Contains index) :
    tape.read index = .ok (tape.get index) := by
  obtain ⟨extent, cells⟩ := tape
  cases extent with
  | bounded size =>
      obtain ⟨nonnegative, below⟩ := contained
      simp only [read]
      rw [Extent.slot_of_contains nonnegative below]
      rfl
  | growable size =>
      obtain ⟨nonnegative, below⟩ := contained
      simp only [read]
      rw [if_neg (by omega), Extent.slot_of_contains nonnegative below]
      rfl
  | sparse modulus => rfl

/-- Writing to a cell that the tape has puts the remainder modulo 256 into it. -/
theorem write_of_contains
    (contained : tape.extent.Contains index)
    (value : Int) :
    tape.write index value = .ok (tape.set index (byteOfInt value)) := by
  have roomy := Extent.ensure_of_contains contained
  obtain ⟨extent, cells⟩ := tape
  simp only at roomy
  cases extent with
  | bounded size =>
      obtain ⟨nonnegative, below⟩ := contained
      simp only [write, roomy]
      rw [Extent.slot_of_contains nonnegative below]
      rfl
  | growable size =>
      obtain ⟨nonnegative, below⟩ := contained
      simp only [write, roomy]
      rw [Extent.slot_of_contains nonnegative below]
      rfl
  | sparse modulus => rfl

/-- A move that succeeds from inside a tape ends inside it, with the same cells. -/
theorem move_spec
    {moved : Tape}
    {distance target : Int}
    (contained : tape.extent.Contains index)
    (reached : tape.move index distance = .ok (target, moved)) :
    moved.cells = tape.cells ∧ tape.extent.Grows moved.extent ∧
      moved.extent.Contains target := by
  obtain ⟨extent, cells⟩ := tape
  cases extent with
  | bounded size =>
      simp only [move] at reached
      split_ifs at reached with below beyond
      cases reached
      exact ⟨rfl, .refl _, by omega, by omega⟩
  | growable size =>
      simp only [move] at reached
      split_ifs at reached with below
      cases reached
      refine ⟨rfl, Extent.grows_ensure _ _, by omega, ?_⟩
      exact (Extent.grownSize_spec size _).2
  | sparse modulus =>
      cases modulus with
      | none =>
          cases reached
          exact ⟨rfl, .refl _, trivial⟩
      | some modulus =>
          cases reached
          obtain ⟨nonnegative, below⟩ := contained
          exact ⟨rfl, .refl _, Int.emod_nonneg _ (by omega), Int.emod_lt_of_pos _ (by omega)⟩

/-- The stored bytes are not zero, and they are stored inside the extent. -/
structure Neat (tape : Tape) : Prop where
  /-- No zero is stored. -/
  nonzero : ∀ entry ∈ tape.touched, entry.2 ≠ 0
  /-- Nothing is stored outside. -/
  contained : ∀ entry ∈ tape.touched, tape.extent.Contains entry.1

/-- The stored bytes after putting one. -/
theorem mem_touched_set
    {byte : UInt8}
    {entry : Int × UInt8}
    (stored : entry ∈ (tape.set index byte).touched) :
    (entry = (index, byte) ∧ byte ≠ 0) ∨ entry ∈ tape.touched := by
  obtain ⟨other, value⟩ := entry
  simp only [touched, set, Cells.toList, Cells.set] at stored ⊢
  rw [Std.ExtTreeMap.mem_toList_iff_getElem?_eq_some] at stored ⊢
  by_cases isZero : byte = 0
  · rw [if_pos isZero, Std.ExtTreeMap.getElem?_erase] at stored
    split_ifs at stored
    exact Or.inr stored
  · rw [if_neg isZero, Std.ExtTreeMap.getElem?_insert] at stored
    split_ifs at stored with same
    · rw [Std.LawfulEqCmp.compare_eq_iff_eq] at same
      cases stored
      exact Or.inl ⟨by rw [same], isZero⟩
    · exact Or.inr stored

theorem not_mem_touched_ofExtent (extent : Extent) (entry : Int × UInt8) :
    entry ∉ (ofExtent extent).touched := by
  intro stored
  rw [touched, Cells.toList, Std.ExtTreeMap.mem_toList_iff_getElem?_eq_some] at stored
  simp [ofExtent, Cells.blank] at stored

theorem Neat.blank (extent : Extent) : (ofExtent extent).Neat where
  nonzero := fun entry stored => absurd stored (not_mem_touched_ofExtent extent entry)
  contained := fun entry stored => absurd stored (not_mem_touched_ofExtent extent entry)

theorem Neat.set
    (neat : tape.Neat)
    (contained : tape.extent.Contains index)
    (byte : UInt8) :
    (tape.set index byte).Neat where
  nonzero := by
    intro entry stored
    rcases mem_touched_set stored with ⟨rfl, notZero⟩ | old
    · exact notZero
    · exact neat.nonzero entry old
  contained := by
    intro entry stored
    rcases mem_touched_set stored with ⟨rfl, -⟩ | old
    · exact contained
    · exact neat.contained entry old

theorem Neat.grow
    {moved : Tape}
    (neat : tape.Neat)
    (sameCells : moved.cells = tape.cells)
    (grows : tape.extent.Grows moved.extent) :
    moved.Neat where
  nonzero := by
    intro entry stored
    rw [touched, sameCells] at stored
    exact neat.nonzero entry stored
  contained := by
    intro entry stored
    rw [touched, sameCells] at stored
    exact grows.contains (neat.contained entry stored)

/-- A tape that stores no zero stores the cells that are not zero. -/
theorem mem_touched_iff_of_nonzero
    (nonzero : ∀ entry ∈ tape.touched, entry.2 ≠ 0)
    (entry : Int × UInt8) :
    entry ∈ tape.touched ↔ tape.get entry.1 = entry.2 ∧ entry.2 ≠ 0 := by
  have nonzero := nonzero entry
  obtain ⟨index, byte⟩ := entry
  rw [touched, Cells.toList, Std.ExtTreeMap.mem_toList_iff_getElem?_eq_some] at nonzero ⊢
  rw [get, Cells.get, Std.ExtTreeMap.getD_eq_getD_getElem?]
  constructor
  · intro stored
    exact ⟨by rw [stored, Option.getD_some], nonzero stored⟩
  · rintro ⟨same, notZero⟩
    cases stored : tape.cells.stored[index]? with
    | none =>
        rw [stored] at same
        exact absurd same.symm notZero
    | some value =>
        rw [stored] at same
        exact congrArg some same

theorem Neat.mem_touched_iff
    (neat : tape.Neat)
    (entry : Int × UInt8) :
    entry ∈ tape.touched ↔ tape.get entry.1 = entry.2 ∧ entry.2 ≠ 0 :=
  mem_touched_iff_of_nonzero neat.nonzero entry

/-- A tape stores nothing beyond its extent. -/
theorem Neat.get_of_not_contains
    (neat : tape.Neat)
    (outside : ¬ tape.extent.Contains index) :
    tape.get index = 0 := by
  by_contra notZero
  have stored := (neat.mem_touched_iff (index, tape.get index)).mpr ⟨rfl, notZero⟩
  exact outside (neat.contained _ stored)

end Tape
end TapeMachine

import Mathlib.Data.List.Induction
import TapeMachine.Proofs.Tape.Extent

/-!
# Tapes as stores of bytes

A tape is used by reads, writes, moves and snapshots in any order.  Whatever kind of tape it is, and
however it has grown in between, a cell that it has holds the integer last written to it, modulo
256, or zero if there was none.  The cells that are listed are those that do not read zero.

A growable tape has a cell for every index from zero on, although it makes room for a cell only when
that cell is needed: the cells for which there is no room yet read zero.
-/

namespace TapeMachine

/-- A use of a tape. -/
inductive Access
  /-- Read the cell at an index. -/
  | read (index : Int)
  /-- Write an integer to the cell at an index. -/
  | write (index value : Int)
  /-- Move from an index over a distance. -/
  | move (index distance : Int)
  /-- Look at the cells from an index up to but not including another. -/
  | snapshot (start stop : Int)
  deriving DecidableEq, Repr

namespace Access

/-- The integer that an access writes to an index, if it does. -/
def written? (index : Int) : Access → Option Int
  | write other value => if other = index then some value else none
  | _ => none

/-- The integer that was last written to an index. -/
def lastWritten? (accesses : List Access) (index : Int) : Option Int :=
  (accesses.filterMap (written? index)).getLast?

theorem lastWritten?_concat (accesses : List Access) (access : Access) (index : Int) :
    lastWritten? (accesses ++ [access]) index =
      (access.written? index).or (lastWritten? accesses index) := by
  rw [lastWritten?, List.filterMap_append, List.getLast?_append, lastWritten?,
    List.filterMap_cons]
  cases access.written? index with
  | none => rfl
  | some value => rfl

/-- A write was made if it was the last one. -/
theorem mem_of_lastWritten?
    {accesses : List Access}
    {index value : Int}
    (last : lastWritten? accesses index = some value) :
    write index value ∈ accesses := by
  obtain ⟨access, made, written⟩ := List.mem_filterMap.mp (List.mem_of_getLast? last)
  cases access with
  | write other given =>
      simp only [written?] at written
      split_ifs at written with here
      cases written
      rwa [← here]
  | read | move | snapshot => cases written

end Access

namespace Extent

/-- The indices that a tape can be read and written at as they are. -/
def Addresses : Extent → Int → Prop
  | bounded size, index => 0 ≤ index ∧ index < size
  | growable _, index => 0 ≤ index
  | sparse _, _ => True

instance (extent : Extent) (index : Int) : Decidable (extent.Addresses index) :=
  match extent with
  | bounded _ => inferInstanceAs (Decidable (_ ∧ _))
  | growable _ => inferInstanceAs (Decidable (0 ≤ index))
  | sparse _ => inferInstanceAs (Decidable True)

/-- There is room for an index: where the number of cells is finite, the index is among them. -/
def HasRoom (extent : Extent) (index : Int) : Prop :=
  ∀ size ∈ extent.size?, index < size

theorem Grows.addresses_iff
    {before after : Extent}
    (grows : before.Grows after)
    (index : Int) :
    after.Addresses index ↔ before.Addresses index := by
  rcases grows.eq_or_growable with rfl | ⟨size, larger, rfl, rfl, -⟩
  · rfl
  · rfl

theorem Grows.hasRoom
    {before after : Extent}
    {index : Int}
    (grows : before.Grows after)
    (room : before.HasRoom index) :
    after.HasRoom index := by
  rcases grows.eq_or_growable with rfl | ⟨size, larger, rfl, rfl, bound⟩
  · exact room
  · have small : index < size := room size rfl
    rintro _ ⟨⟩
    omega

/-- There is room for an index that is addressed once it has been made. -/
theorem Addresses.hasRoom_ensure
    {extent : Extent}
    {index : Int}
    (addressed : extent.Addresses index) :
    (extent.ensure index).HasRoom index := by
  cases extent with
  | bounded size =>
      rintro _ ⟨⟩
      exact addressed.2
  | growable size =>
      rintro _ ⟨⟩
      exact (grownSize_spec size index).2
  | sparse modulus => nofun

end Extent

namespace Tape

/-- The tape after an access.  An access that is refused leaves the tape as it is. -/
def after (tape : Tape) : Access → Tape
  | .read _ => tape
  | .write index value =>
    match tape.write index value with
    | .ok written => written
    | .error _ => tape
  | .move index distance =>
    match tape.move index distance with
    | .ok (_, moved) => moved
    | .error _ => tape
  | .snapshot _ _ => tape

/-- The tape after accesses in turn. -/
def afterAll (tape : Tape) (accesses : List Access) : Tape :=
  accesses.foldl after tape

theorem afterAll_append (tape : Tape) (accesses others : List Access) :
    tape.afterAll (accesses ++ others) = (tape.afterAll accesses).afterAll others :=
  List.foldl_append

/-- The byte that is read at an index; an index that the tape does not address counts as zero. -/
def byteAt (tape : Tape) (index : Int) : UInt8 :=
  if tape.extent.Addresses index then (tape.read index).toOption.getD 0 else 0

/-! ## What is listed -/

theorem pairwise_touched (tape : Tape) :
    tape.touched.Pairwise fun entry next => entry.1 < next.1 := by
  apply Std.ExtTreeMap.ordered_keys_toList.imp
  intro entry next ordered
  exact Int.compare_eq_lt.mp ordered

/-! ## What an access does -/

/-- A write to an index that is addressed makes room for it and puts the remainder there. -/
theorem write_of_addresses
    {tape : Tape}
    {index : Int}
    (addressed : tape.extent.Addresses index)
    (value : Int) :
    tape.write index value =
      .ok ({ tape with extent := tape.extent.ensure index }.set index (byteOfInt value)) := by
  obtain ⟨extent, cells⟩ := tape
  cases extent with
  | bounded size =>
      have contained : (Extent.bounded size).Contains index := addressed
      exact write_of_contains contained value
  | growable size =>
      have room := (Extent.grownSize_spec size index).2
      simp only [write, Extent.ensure]
      rw [Extent.slot_of_contains addressed room]
      rfl
  | sparse modulus => rfl

/-- A move that is not refused changes no cell; it may have made room for one. -/
theorem move_keeps_cells
    {tape moved : Tape}
    {index distance target : Int}
    (reached : tape.move index distance = .ok (target, moved)) :
    moved.cells = tape.cells ∧ tape.extent.Grows moved.extent := by
  obtain ⟨extent, cells⟩ := tape
  cases extent with
  | bounded size =>
      simp only [move] at reached
      split_ifs at reached
      cases reached
      exact ⟨rfl, .refl _⟩
  | growable size =>
      simp only [move] at reached
      split_ifs at reached
      cases reached
      exact ⟨rfl, Extent.grows_ensure _ _⟩
  | sparse modulus =>
      cases modulus with
      | none | some modulus =>
          cases reached
          exact ⟨rfl, .refl _⟩

/-- Everything that an access to a tape can do. -/
theorem after_cases
    {tape : Tape}
    {access : Access}
    (fits : ∀ index value, access = .write index value → tape.extent.Addresses index) :
    (∃ index value, access = .write index value ∧
        tape.after access =
          { tape with extent := tape.extent.ensure index }.set index (byteOfInt value)) ∨
      ((∀ index, access.written? index = none) ∧ (tape.after access).cells = tape.cells ∧
        tape.extent.Grows (tape.after access).extent) := by
  cases access with
  | write index value =>
      refine Or.inl ⟨index, value, rfl, ?_⟩
      simp only [after, write_of_addresses (fits index value rfl)]
  | move index distance =>
      refine Or.inr ⟨fun _ => rfl, ?_⟩
      cases moved : tape.move index distance with
      | ok reached =>
          simp only [after, moved]
          exact move_keeps_cells moved
      | error fault =>
          simp only [after, moved, true_and]
          exact .refl _
  | read index => exact Or.inr ⟨fun _ => rfl, rfl, .refl _⟩
  | snapshot start stop => exact Or.inr ⟨fun _ => rfl, rfl, .refl _⟩

/-! ## What accesses amount to -/

/-- A tape that began with an extent holds what accesses have written. -/
structure Holds (start : Extent) (accesses : List Access) (tape : Tape) : Prop where
  /-- The tape has the extent with which it began, or has grown. -/
  grows : start.Grows tape.extent
  /-- Every cell holds the remainder of what was last written to it. -/
  get_eq : ∀ index, tape.get index = byteOfInt ((Access.lastWritten? accesses index).getD 0)
  /-- There is room for everything that was written. -/
  hasRoom : ∀ index value, .write index value ∈ accesses → tape.extent.HasRoom index
  /-- No zero is stored. -/
  nonzero : ∀ entry ∈ tape.touched, entry.2 ≠ 0

namespace Holds

variable {start : Extent} {accesses : List Access} {tape : Tape} {index : Int}

theorem blank (start : Extent) : Holds start [] (ofExtent start) where
  grows := .refl _
  get_eq index := Cells.get_blank index
  hasRoom := nofun
  nonzero entry stored := absurd stored (not_mem_touched_ofExtent start entry)

/-- One more access to an index that is addressed, or to none, is one more that the tape holds. -/
theorem access
    {access : Access}
    (holds : Holds start accesses tape)
    (fits : ∀ index value, access = .write index value → start.Addresses index) :
    Holds start (accesses ++ [access]) (tape.after access) := by
  have fitsHere (index value : Int) (isWrite : access = .write index value) :
      tape.extent.Addresses index :=
    (holds.grows.addresses_iff index).mpr (fits index value isWrite)
  rcases after_cases fitsHere with ⟨index, value, rfl, written⟩ | ⟨noWrite, sameCells, grows⟩
  · have grows : tape.extent.Grows (tape.extent.ensure index) := Extent.grows_ensure _ _
    rw [written]
    refine ⟨holds.grows.trans grows, ?_, ?_, ?_⟩
    · intro other
      rw [Access.lastWritten?_concat, Access.written?]
      apply (Cells.get_set _ _ _ _).trans
      split_ifs with here
      · rfl
      · exact holds.get_eq other
    · intro other given made
      rcases List.mem_append.mp made with before | last
      · exact grows.hasRoom (holds.hasRoom other given before)
      · cases List.mem_singleton.mp last
        exact (fitsHere _ _ rfl).hasRoom_ensure
    · intro entry stored
      rcases mem_touched_set stored with ⟨rfl, notZero⟩ | old
      · exact notZero
      · exact holds.nonzero entry old
  · refine ⟨holds.grows.trans grows, ?_, ?_, ?_⟩
    · intro other
      rw [Access.lastWritten?_concat, noWrite, Option.none_or, get, sameCells]
      exact holds.get_eq other
    · intro other given made
      rcases List.mem_append.mp made with before | last
      · exact grows.hasRoom (holds.hasRoom other given before)
      · have written := noWrite other
        rw [← List.mem_singleton.mp last, Access.written?, if_pos rfl] at written
        cases written
    · intro entry stored
      rw [touched, sameCells] at stored
      exact holds.nonzero entry stored

/-- A tape holds what accesses have written that were addressed to it. -/
theorem afterAll
    (addressed : ∀ index value, .write index value ∈ accesses → start.Addresses index) :
    Holds start accesses ((ofExtent start).afterAll accesses) := by
  induction accesses using List.reverseRecOn with
  | nil => exact blank start
  | append_singleton accesses last inductionHypothesis =>
      rw [afterAll_append]
      apply access
      · apply inductionHypothesis
        exact fun index value made => addressed index value (List.mem_append_left _ made)
      · rintro index value rfl
        exact addressed index value (by simp)

/-- A cell holds zero if there is no room for it yet. -/
theorem get_of_not_hasRoom
    (holds : Holds start accesses tape)
    (noRoom : ¬ tape.extent.HasRoom index) :
    tape.get index = 0 := by
  rw [holds.get_eq]
  cases last : Access.lastWritten? accesses index with
  | none => rfl
  | some value => exact absurd (holds.hasRoom index value (Access.mem_of_lastWritten? last)) noRoom

/-- Reading an index that is addressed gives the byte of its cell. -/
theorem read_eq
    (holds : Holds start accesses tape)
    (addressed : start.Addresses index) :
    tape.read index = .ok (tape.get index) := by
  have noRoom := @get_of_not_hasRoom _ _ _ index holds
  rw [← holds.grows.addresses_iff] at addressed
  obtain ⟨extent, cells⟩ := tape
  cases extent with
  | bounded size =>
      have contained : (Extent.bounded size).Contains index := addressed
      exact read_of_contains contained
  | growable size =>
      by_cases inside : index < size
      · exact read_of_contains ⟨addressed, inside⟩
      · rw [noRoom (fun room => inside (room size rfl)), read]
        exact if_pos (Int.not_lt.mp inside)
  | sparse modulus => rfl

/-- A cell that is not zero was written to, at an index that is addressed. -/
theorem addresses_of_get_ne_zero
    (holds : Holds start accesses tape)
    (addressed : ∀ index value, .write index value ∈ accesses → start.Addresses index)
    (notZero : tape.get index ≠ 0) :
    start.Addresses index := by
  rw [holds.get_eq] at notZero
  cases last : Access.lastWritten? accesses index with
  | none =>
      rw [last] at notZero
      exact absurd rfl notZero
  | some value => exact addressed index value (Access.mem_of_lastWritten? last)

theorem byteAt_eq
    (holds : Holds start accesses tape)
    (addressed : ∀ index value, .write index value ∈ accesses → start.Addresses index)
    (index : Int) :
    tape.byteAt index = tape.get index := by
  rw [byteAt]
  split_ifs with here
  · rw [holds.read_eq ((holds.grows.addresses_iff index).mp here)]
    rfl
  · by_contra notZero
    apply here
    rw [holds.grows.addresses_iff]
    exact holds.addresses_of_get_ne_zero addressed (Ne.symm notZero)

/-- The cells that are listed are those that are addressed and read a byte that is not zero. -/
theorem mem_touched_iff
    (holds : Holds start accesses tape)
    (addressed : ∀ index value, .write index value ∈ accesses → start.Addresses index)
    (index : Int)
    (byte : UInt8) :
    (index, byte) ∈ tape.touched ↔
      start.Addresses index ∧ tape.read index = .ok byte ∧ byte ≠ 0 := by
  simp only [mem_touched_iff_of_nonzero holds.nonzero]
  constructor
  · rintro ⟨rfl, notZero⟩
    have inside := holds.addresses_of_get_ne_zero addressed notZero
    exact ⟨inside, holds.read_eq inside, notZero⟩
  · rintro ⟨inside, reads, notZero⟩
    rw [holds.read_eq inside] at reads
    exact ⟨Except.ok.inj reads, notZero⟩

end Holds

/-! ## Remainders -/

theorem toNat_byteOfInt (value : Int) : ((byteOfInt value).toNat : Int) = value % 256 := by
  have nonnegative := Int.emod_nonneg value (by decide : (256 : Int) ≠ 0)
  have small := Int.emod_lt_of_pos value (by decide : (0 : Int) < 256)
  rw [byteOfInt, UInt8.toNat_ofNat']
  omega

end Tape
end TapeMachine

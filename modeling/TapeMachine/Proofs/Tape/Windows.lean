import TapeMachine.Proofs.Tape.Store

/-!
# Windows of a tape

A snapshot asks for the cells from an index up to but not including another.  What a tape has been
through does not matter: where the number of cells is finite nothing is stored beyond them, so that
a growable tape shows zero there and to the left of its first cell, and a sparse tape shows zero
where it stores nothing.

A bounded tape cuts the window to the cells that it has, but not on all sides.  An end below zero is
taken to count from the end of the tape.  The window has no cells then, and the snapshot still shows
those up to where the end is taken to be.
-/

namespace TapeMachine

theorem length_interval (first last : Int) :
    (interval first last).length = (last - first).toNat := by
  rw [interval, List.length_map, List.length_range]

theorem getElem?_interval
    {first last : Int}
    {offset : Nat}
    (inside : first + offset < last) :
    (interval first last)[offset]? = some (first + offset) := by
  have small : offset < (last - first).toNat := by omega
  rw [interval, List.getElem?_map, List.getElem?_range small, Option.map_some]

/-- What is done at the cell that an index means is done at one of the cells that there are. -/
theorem Extent.exists_place_of_map_slot
    {size : Nat}
    {index : Int}
    {result : Type}
    {done : Int → result}
    {reached : result}
    (found : (slot size index).map done = .ok reached) :
    ∃ place : Int, (0 ≤ place ∧ place < size) ∧ reached = done place := by
  unfold slot at found
  split_ifs at found with inside fromEnd
  · cases found
    exact ⟨index, inside, rfl⟩
  · cases found
    exact ⟨index + size, by omega, rfl⟩
  · cases found

namespace Tape

/-! ## Nothing is stored beyond the cells -/

/-- Where the number of cells is finite, only they are stored. -/
def Confined (tape : Tape) : Prop :=
  ∀ size ∈ tape.extent.size?, ∀ index, tape.get index ≠ 0 → 0 ≤ index ∧ index < size

/-- A write that is not refused makes room and puts the remainder into a cell that there is. -/
theorem exists_of_write_eq_ok
    {tape written : Tape}
    {index value : Int}
    (done : tape.write index value = .ok written) :
    ∃ place : Int, (∀ size ∈ (tape.extent.ensure index).size?, 0 ≤ place ∧ place < size) ∧
      written = { tape with extent := tape.extent.ensure index }.set place (byteOfInt value) := by
  obtain ⟨extent, cells⟩ := tape
  cases extent with
  | bounded size | growable size =>
      obtain ⟨place, inside, put⟩ := Extent.exists_place_of_map_slot done
      refine ⟨place, ?_, put⟩
      rintro _ ⟨⟩
      exact inside
  | sparse modulus => exact ⟨index, nofun, (Except.ok.inj done).symm⟩

/-- Everything that an access can do, at whatever index it is made. -/
theorem after_put_or_kept (tape : Tape) (access : Access) :
    (∃ (index place : Int) (byte : UInt8),
      (∀ size ∈ (tape.extent.ensure index).size?, 0 ≤ place ∧ place < size) ∧
        tape.after access =
          { tape with extent := tape.extent.ensure index }.set place byte) ∨
      ((tape.after access).cells = tape.cells ∧
        tape.extent.Grows (tape.after access).extent) := by
  cases access with
  | read index => exact Or.inr ⟨rfl, .refl _⟩
  | snapshot start stop => exact Or.inr ⟨rfl, .refl _⟩
  | write index value =>
      cases done : tape.write index value with
      | error fault =>
          simp only [after, done]
          exact Or.inr ⟨trivial, .refl _⟩
      | ok written =>
          obtain ⟨place, inside, put⟩ := exists_of_write_eq_ok done
          simp only [after, done]
          exact Or.inl ⟨index, place, byteOfInt value, inside, put⟩
  | move index distance =>
      cases moved : tape.move index distance with
      | error fault =>
          simp only [after, moved]
          exact Or.inr ⟨trivial, .refl _⟩
      | ok reached =>
          simp only [after, moved]
          exact Or.inr (move_keeps_cells moved)

theorem grows_after (tape : Tape) (access : Access) :
    tape.extent.Grows (tape.after access).extent := by
  rcases tape.after_put_or_kept access with ⟨index, place, byte, -, put⟩ | ⟨-, grows⟩
  · rw [put]
    exact Extent.grows_ensure _ _
  · exact grows

theorem grows_afterAll (tape : Tape) (accesses : List Access) :
    tape.extent.Grows (tape.afterAll accesses).extent := by
  induction accesses generalizing tape with
  | nil => exact .refl _
  | cons access accesses inductionHypothesis =>
      exact (tape.grows_after access).trans (inductionHypothesis (tape.after access))

namespace Confined

variable {tape : Tape}

theorem blank (extent : Extent) : (ofExtent extent).Confined := by
  intro size _ index stored
  exact absurd (Cells.get_blank index) stored

/-- A tape that gets more room stays confined. -/
theorem grow
    {grown : Tape}
    (confined : tape.Confined)
    (sameCells : grown.cells = tape.cells)
    (grows : tape.extent.Grows grown.extent) :
    grown.Confined := by
  intro size hasSize index stored
  rw [get, sameCells] at stored
  rcases grows.eq_or_growable with same | ⟨smaller, larger, before, after, bound⟩
  · rw [← same] at hasSize
    exact confined size hasSize index stored
  · rw [after] at hasSize
    obtain rfl : larger = size := Option.some.inj hasSize
    obtain ⟨nonnegative, below⟩ := confined smaller (by rw [before]; rfl) index stored
    exact ⟨nonnegative, by omega⟩

theorem set
    {place : Int}
    (confined : tape.Confined)
    (inside : ∀ size ∈ tape.extent.size?, 0 ≤ place ∧ place < size)
    (byte : UInt8) :
    (tape.set place byte).Confined := by
  intro size hasSize index stored
  rw [get, Tape.set, Cells.get_set] at stored
  split_ifs at stored with here
  · rw [← here]
    exact inside size hasSize
  · exact confined size hasSize index stored

/-- Whatever index an access is made at, it stores nothing beyond the cells. -/
theorem after
    (confined : tape.Confined)
    (access : Access) :
    (tape.after access).Confined := by
  rcases tape.after_put_or_kept access with ⟨index, place, byte, inside, put⟩ |
    ⟨sameCells, grows⟩
  · rw [put]
    apply set _ inside
    exact confined.grow rfl (Extent.grows_ensure _ _)
  · exact confined.grow sameCells grows

theorem afterAll (confined : tape.Confined) (accesses : List Access) :
    (tape.afterAll accesses).Confined := by
  induction accesses generalizing tape with
  | nil => exact confined
  | cons access accesses inductionHypothesis => exact inductionHypothesis (confined.after access)

/-- Reading an index that is addressed gives the byte of its cell. -/
theorem read_eq
    {index : Int}
    (confined : tape.Confined)
    (addressed : tape.extent.Addresses index) :
    tape.read index = .ok (tape.get index) := by
  obtain ⟨extent, cells⟩ := tape
  cases extent with
  | bounded size =>
      have contained : (Extent.bounded size).Contains index := addressed
      exact read_of_contains contained
  | growable size =>
      by_cases inside : index < size
      · exact read_of_contains ⟨addressed, inside⟩
      · -- beyond the end of the tape zero is read, and nothing is stored there
        have isZero : cells.get index = 0 := by
          by_contra stored
          exact inside (confined size rfl index stored).2
        simp only [read, if_pos (Int.not_lt.mp inside), get, isZero]
  | sparse modulus => rfl

/-- Indices that are not addressed have nothing stored at them. -/
theorem byteAt_eq (confined : tape.Confined) (index : Int) :
    tape.byteAt index = tape.get index := by
  unfold byteAt
  split_ifs with addressed
  · rw [confined.read_eq addressed]
    rfl
  · by_contra stored
    apply addressed
    obtain ⟨extent, cells⟩ := tape
    cases extent with
    | bounded size => exact confined size rfl index (Ne.symm stored)
    | growable size => exact (confined size rfl index (Ne.symm stored)).1
    | sparse modulus => trivial

end Confined

/-- The tape of a machine is confined to its cells. -/
theorem Neat.confined
    {tape : Tape}
    (neat : tape.Neat) :
    tape.Confined := by
  intro size hasSize index stored
  have contained : tape.extent.Contains index := by
    by_contra outside
    exact stored (neat.get_of_not_contains outside)
  obtain ⟨extent, cells⟩ := tape
  cases extent with
  | bounded other =>
      obtain rfl : other = size := Option.some.inj hasSize
      exact contained
  | growable other =>
      obtain rfl : other = size := Option.some.inj hasSize
      exact contained
  | sparse modulus => cases hasSize

/-! ## Windows -/

/--
Values are those of the window from an index up to but not including another: there is one for each
index, in order, which is what is read there or zero if the tape does not address the index.
-/
structure Shows (tape : Tape) (first last : Int) (values : List UInt8) : Prop where
  /-- There are as many values as indices. -/
  length_eq : values.length = (last - first).toNat
  /-- The values are those of the indices. -/
  getElem?_eq : ∀ offset : Nat, first + offset < last →
    values[offset]? = some (tape.byteAt (first + offset))

/-- It makes no difference where a window ends that has no index. -/
theorem Shows.of_max_eq
    {tape : Tape}
    {first last other : Int}
    {values : List UInt8}
    (shows : tape.Shows first last values)
    (sameEnd : max first last = max first other) :
    tape.Shows first other values where
  length_eq := by
    rw [shows.length_eq]
    omega
  getElem?_eq := by
    intro offset inside
    apply shows.getElem?_eq
    omega

/-- The cells of a window, in order. -/
theorem Confined.shows_interval
    {tape : Tape}
    (confined : tape.Confined)
    (first last : Int) :
    tape.Shows first last ((interval first last).map tape.get) where
  length_eq := by
    rw [List.length_map, length_interval]
  getElem?_eq := by
    intro offset inside
    rw [List.getElem?_map, getElem?_interval inside, Option.map_some, confined.byteAt_eq]

theorem cutEnd_of_nonneg
    {stop : Int}
    (nonnegative : 0 ≤ stop)
    (size : Nat) :
    cutEnd size stop = min (size : Int) stop := by
  simp only [cutEnd]
  rw [if_neg (by omega)]

theorem cutEnd_of_neg
    {stop : Int}
    (negative : stop < 0)
    (size : Nat) :
    cutEnd size stop = max 0 (size + stop) := by
  have clipped : min (size : Int) stop = stop := by omega
  simp only [cutEnd, clipped, if_pos negative]

section Snapshots

variable {tape : Tape} (start stop : Int)

/-- A tape that is not bounded shows the whole window. -/
theorem Confined.shows_snapshot_of_unbounded
    (confined : tape.Confined)
    (unbounded : ∀ size, tape.extent ≠ .bounded size) :
    tape.Shows start stop (tape.snapshot start stop) := by
  have shown := confined.shows_interval start stop
  have leftOfFirst := confined
  obtain ⟨extent, cells⟩ := tape
  cases extent with
  | bounded size => exact absurd rfl (unbounded size)
  | growable size =>
      have same : (⟨.growable size, cells⟩ : Tape).snapshot start stop =
          (interval start stop).map (⟨.growable size, cells⟩ : Tape).get := by
        simp only [snapshot]
        apply List.map_congr_left
        intro index _
        split_ifs with nonnegative
        · exact shown_of_read_eq_ok (leftOfFirst.read_eq nonnegative)
        · by_contra stored
          exact nonnegative (leftOfFirst size rfl index (Ne.symm stored)).1
      rwa [same]
  | sparse modulus => exact shown

/-- A bounded tape shows the window from its first cell on, up to where the end is taken to be. -/
theorem Confined.shows_snapshot_of_bounded
    {size : Nat}
    (confined : tape.Confined)
    (bounded : tape.extent = .bounded size) :
    tape.Shows (max 0 start) (cutEnd size stop) (tape.snapshot start stop) := by
  have shown := confined.shows_interval (max 0 start) (cutEnd size stop)
  simp only [snapshot, bounded]
  exact shown

/--
What a bounded tape shows is the window exactly if that does not end below zero, or starts late.
-/
theorem Confined.shows_snapshot_iff
    {size : Nat}
    (confined : tape.Confined)
    (bounded : tape.extent = .bounded size) :
    tape.Shows (max 0 start) (min size stop) (tape.snapshot start stop) ↔
      0 ≤ stop ∨ size + stop ≤ max 0 start := by
  have shown := confined.shows_snapshot_of_bounded start stop bounded
  by_cases nonnegative : 0 ≤ stop
  · rw [cutEnd_of_nonneg nonnegative] at shown
    exact iff_of_true shown (Or.inl nonnegative)
  · have taken := cutEnd_of_neg (Int.not_le.mp nonnegative) size
    constructor
    · intro window
      have sameLength := shown.length_eq.symm.trans window.length_eq
      right
      omega
    · intro late
      apply shown.of_max_eq
      omega

end Snapshots

/--
A snapshot shows the window that is asked for, unless the tape is bounded and the window ends below
zero.  Whatever accesses a tape has been through, the values are those that are read at the indices,
or zero where the tape addresses none.  A growable tape and a sparse one show the whole window.  A
bounded tape shows the cells of the window that it has, exactly if the window does not end below
zero, or starts so late that this makes no difference.  Otherwise it shows the cells up to where the
end is if it counts from the end of the tape.
-/
theorem snapshot_shows_window_unless_it_ends_below_zero
    (extent : Extent)
    (accesses : List Access)
    (start stop : Int) :
    let tape := (ofExtent extent).afterAll accesses
    let values := tape.snapshot start stop
    (∀ index, extent.Addresses index → tape.read index = .ok (tape.byteAt index)) ∧
      ((∀ size, extent ≠ .bounded size) → tape.Shows start stop values) ∧
      ∀ size : Nat, extent = .bounded size →
        (tape.Shows (max 0 start) (min size stop) values ↔
            0 ≤ stop ∨ size + stop ≤ max 0 start) ∧
          (stop < 0 → tape.Shows (max 0 start) (size + stop) values) := by
  intro tape values
  have confined : tape.Confined := (Confined.blank extent).afterAll accesses
  have grows : extent.Grows tape.extent := (ofExtent extent).grows_afterAll accesses
  refine ⟨?_, ?_, ?_⟩
  · intro index addressed
    rw [confined.byteAt_eq, confined.read_eq ((grows.addresses_iff index).mpr addressed)]
  · intro unbounded
    apply confined.shows_snapshot_of_unbounded
    intro size bounded
    rcases grows.eq_or_growable with same | ⟨_, _, _, growable, _⟩
    · exact unbounded size (same.trans bounded)
    · rw [growable] at bounded
      cases bounded
  · rintro size rfl
    have bounded : tape.extent = .bounded size := by
      rcases grows.eq_or_growable with same | ⟨_, _, growable, _⟩
      · exact same.symm
      · cases growable
    refine ⟨confined.shows_snapshot_iff start stop bounded, ?_⟩
    intro negative
    have shown := confined.shows_snapshot_of_bounded start stop bounded
    rw [cutEnd_of_neg negative] at shown
    apply shown.of_max_eq
    omega

/-- A window that ends below zero has no cells, and two of three cells are shown for it. -/
theorem snapshot_below_zero_shows_cells :
    let tape := (ofExtent (.bounded 3)).afterAll [.write 0 7]
    tape.snapshot 0 (-1) = [7, 0] ∧
      ¬ tape.Shows (max 0 0) (min 3 (-1)) (tape.snapshot 0 (-1)) := by
  intro tape
  have shown : tape.snapshot 0 (-1) = [7, 0] := by decide +kernel
  refine ⟨shown, ?_⟩
  intro window
  have noCells := window.length_eq
  rw [shown] at noCells
  cases noCells

end Tape
end TapeMachine

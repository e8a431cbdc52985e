import Mathlib.Order.Bounds.Basic
import TapeMachine.Proofs.Tape.Windows

/-!
# How a growable tape grows

A growable tape makes room for the indices at which it is written to and for those to which moves on
it lead.  It always has more cells than any of these indices says, and once it has grown it has no
more than twice the largest of them.  Both facts hold of one access and carry over from accesses to
those that follow them, so that nothing has to be known of the way in which a tape has come to its
size.

More can be said if every index goes at most one beyond an earlier one.  Then the tape only ever
grows by doubling, and starting from one cell it has the least power of two that exceeds every
index.
-/

namespace TapeMachine
namespace Extent

/-! ## Sizes -/

/-- A tape that had a number of cells has just as many as some indices need. -/
structure Suits (before : Nat) (indices : List Int) (size : Nat) : Prop where
  /-- No cell has been lost. -/
  le_size : before ≤ size
  /-- There is room for the indices. -/
  lt_size : ∀ index ∈ indices, index < size
  /-- Cells are added for an index, and not more than up to twice the index. -/
  needed : size = before ∨ ∃ index ∈ indices, size ≤ 2 * index

namespace Suits

theorem refl (size : Nat) : Suits size [] size :=
  ⟨Nat.le_refl size, nofun, Or.inl rfl⟩

theorem trans
    {first second third : Nat}
    {indices others : List Int}
    (suits : Suits first indices second)
    (suitsLater : Suits second others third) :
    Suits first (indices ++ others) third where
  le_size := Nat.le_trans suits.le_size suitsLater.le_size
  lt_size := by
    intro index member
    rcases List.mem_append.mp member with earlier | later
    · have inside := suits.lt_size index earlier
      have kept := suitsLater.le_size
      omega
    · exact suitsLater.lt_size index later
  needed := by
    rcases suitsLater.needed with same | ⟨index, member, bound⟩
    · rw [same]
      rcases suits.needed with unchanged | ⟨index, member, bound⟩
      · exact Or.inl unchanged
      · exact Or.inr ⟨index, List.mem_append_left _ member, bound⟩
    · exact Or.inr ⟨index, List.mem_append_right _ member, bound⟩

/-- Room for one index. -/
theorem grownSize
    {size : Nat}
    (positive : 0 < size)
    (index : Int) :
    Suits size [index] (grownSize size index) where
  le_size := (grownSize_spec size index).1
  lt_size := by
    intro other member
    rw [List.mem_singleton.mp member]
    exact (grownSize_spec size index).2
  needed := by
    unfold Extent.grownSize
    split_ifs with inside
    · exact Or.inl rfl
    · exact Or.inr ⟨index, List.mem_singleton_self index, by omega⟩

/-- What suits some indices suits the largest of them. -/
theorem bounds_of_max?
    {before size : Nat}
    {indices : List Int}
    {farthest : Int}
    (suits : Suits before indices size)
    (largest : indices.max? = some farthest) :
    farthest < size ∧ (size : Int) ≤ max (before : Int) (2 * farthest) := by
  obtain ⟨member, greatest⟩ := List.max?_eq_some_iff.mp largest
  refine ⟨suits.lt_size farthest member, ?_⟩
  rcases suits.needed with same | ⟨index, indexMember, bound⟩
  · rw [same]
    exact le_max_left _ _
  · have below := greatest index indexMember
    omega

end Suits

/-- A size that changes is at least doubled. -/
theorem two_mul_le_grownSize
    {size : Nat}
    {index : Int}
    (changes : grownSize size index ≠ size) :
    2 * size ≤ grownSize size index := by
  unfold grownSize at changes ⊢
  split_ifs at changes ⊢ with inside
  · exact absurd rfl changes
  · exact Nat.le_max_right _ _

/-- Between a power of two and its double there is no other. -/
theorem mul_two_le_of_isPowerOfTwo
    {power other : Nat}
    (isPower : power.isPowerOfTwo)
    (otherIsPower : other.isPowerOfTwo)
    (larger : power < other) :
    power * 2 ≤ other := by
  obtain ⟨exponent, rfl⟩ := isPower
  obtain ⟨otherExponent, rfl⟩ := otherIsPower
  rw [Nat.pow_lt_pow_iff_right Nat.one_lt_two] at larger
  rw [← Nat.pow_succ]
  exact Nat.pow_le_pow_right Nat.two_pos larger

/-- The least power of two beyond some index stays so when room is made for one index more. -/
theorem isLeast_grownSize
    {farthest index : Int}
    {size : Nat}
    (least : IsLeast {power : Nat | power.isPowerOfTwo ∧ farthest < power} size)
    (near : index ≤ farthest + 1) :
    IsLeast {power : Nat | power.isPowerOfTwo ∧ max farthest index < power}
      (grownSize size index) := by
  obtain ⟨⟨isPower, beyond⟩, below⟩ := least
  by_cases inside : index < size
  · rw [grownSize, if_pos inside]
    refine ⟨⟨isPower, max_lt beyond inside⟩, ?_⟩
    rintro power ⟨powerIsPower, powerBeyond⟩
    exact below ⟨powerIsPower, lt_of_le_of_lt (le_max_left _ _) powerBeyond⟩
  · -- the index is the first one that there is no room for
    have isNext : index = size := by omega
    have positive := Nat.pos_of_isPowerOfTwo isPower
    have doubled : grownSize size index = size * 2 := by
      rw [grownSize, if_neg inside]
      omega
    rw [doubled]
    refine ⟨⟨Nat.isPowerOfTwo_mul_two_of_isPowerOfTwo isPower, max_lt (by omega) (by omega)⟩, ?_⟩
    rintro power ⟨powerIsPower, powerBeyond⟩
    have indexBelow : index < power := lt_of_le_of_lt (le_max_right _ _) powerBeyond
    exact mul_two_le_of_isPowerOfTwo isPower powerIsPower (by omega)

end Extent

namespace Tape

/-! ## Accesses -/

/-- The index at which an access writes, or to which it moves if it is not refused. -/
def destination? (tape : Tape) : Access → Option Int
  | .read _ => none
  | .write index _ => some index
  | .move index distance => (tape.move index distance).toOption.map Prod.fst
  | .snapshot _ _ => none

/-- The indices at which accesses in turn write or to which they move. -/
def destinations : List Access → Tape → List Int
  | [], _ => []
  | access :: accesses, tape =>
    (tape.destination? access).toList ++ destinations accesses (tape.after access)

theorem extent_move
    {tape moved : Tape}
    {index distance target : Int}
    (reached : tape.move index distance = .ok (target, moved)) :
    moved.extent = tape.extent.ensure target := by
  obtain ⟨extent, cells⟩ := tape
  cases extent with
  | bounded size =>
      simp only [move] at reached
      split_ifs at reached
      cases reached
      rfl
  | growable size =>
      simp only [move] at reached
      split_ifs at reached
      cases reached
      rfl
  | sparse modulus =>
      cases modulus with
      | none | some modulus =>
          cases reached
          rfl

/-- A write that is refused would not have needed any room. -/
theorem ensure_of_write_eq_error
    {tape : Tape}
    {index value : Int}
    {fault : IndexFault}
    (refused : tape.write index value = .error fault) :
    tape.extent.ensure index = tape.extent := by
  have unaddressed : ¬ tape.extent.Addresses index := by
    intro addressed
    rw [write_of_addresses addressed] at refused
    cases refused
  cases extent : tape.extent with
  | bounded size => rfl
  | growable size =>
      rw [extent] at unaddressed
      have negative : ¬ 0 ≤ index := unaddressed
      rw [Extent.ensure, Extent.grownSize, if_pos (by omega)]
  | sparse modulus => rfl

/-- An access makes room for its destination and for nothing else. -/
theorem extent_after (tape : Tape) (access : Access) :
    (tape.after access).extent =
      (tape.destination? access).elim tape.extent tape.extent.ensure := by
  cases access with
  | read index => rfl
  | snapshot start stop => rfl
  | write index value =>
      cases done : tape.write index value with
      | ok written =>
          obtain ⟨place, -, put⟩ := exists_of_write_eq_ok done
          simp only [after, done, put]
          rfl
      | error fault =>
          simp only [after, done]
          exact (ensure_of_write_eq_error done).symm
  | move index distance =>
      cases moved : tape.move index distance with
      | ok reached =>
          simp only [after, destination?, moved]
          exact extent_move moved
      | error fault =>
          simp only [after, destination?, moved]
          rfl

section Growable

variable {tape : Tape} {size : Nat}

/-- What one access makes of the size of a growable tape. -/
theorem exists_size_after
    (growable : tape.extent = .growable size)
    (positive : 0 < size)
    (access : Access) :
    ∃ next, (tape.after access).extent = .growable next ∧
      Extent.Suits size (tape.destination? access).toList next ∧
      (next ≠ size → 2 * size ≤ next) := by
  rw [extent_after, growable]
  cases tape.destination? access with
  | none => exact ⟨size, rfl, .refl size, fun changes => absurd rfl changes⟩
  | some index =>
      exact ⟨Extent.grownSize size index, rfl, .grownSize positive index,
        Extent.two_mul_le_grownSize⟩

/-- What accesses make of the size of a growable tape. -/
theorem exists_size_afterAll
    (growable : tape.extent = .growable size)
    (positive : 0 < size)
    (accesses : List Access) :
    ∃ last, (tape.afterAll accesses).extent = .growable last ∧
      Extent.Suits size (tape.destinations accesses) last := by
  induction accesses generalizing tape size with
  | nil => exact ⟨size, growable, .refl size⟩
  | cons access accesses inductionHypothesis =>
      obtain ⟨next, nextGrowable, suits, -⟩ := exists_size_after growable positive access
      obtain ⟨last, lastGrowable, suitsLater⟩ :=
        inductionHypothesis nextGrowable (Nat.lt_of_lt_of_le positive suits.le_size)
      exact ⟨last, lastGrowable, suits.trans suitsLater⟩

end Growable
end Tape
end TapeMachine

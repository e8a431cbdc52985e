import Mathlib.Algebra.Order.Group.Unbundled.Int
import Mathlib.Data.List.Nodup
import TapeMachine.Proofs.Tape.Extent

/-!
# Folding a tape

A sparse tape with a modulus has a cell for every residue.  It is a folded copy of a sparse tape
without one as long as the latter is used in a window that is no wider than the modulus: there every
residue stands for one index.  Both tapes then have the same cells, up to the reduction of their
indices, and moves and writes keep it that way.

Only moves reduce an index, so that a copy is read and written at indices that are reduced already.
-/

namespace TapeMachine

/-- The indices from a lowest one on, as many as a modulus. -/
def Window (low : Int) (modulus : Nat) (index : Int) : Prop :=
  low ≤ index ∧ index < low + modulus

instance (low : Int) (modulus : Nat) (index : Int) : Decidable (Window low modulus index) :=
  inferInstanceAs (Decidable (_ ∧ _))

namespace Window

variable {low : Int} {modulus : Nat} {index other : Int}

/-- A residue stands for at most one index of a window. -/
theorem eq_of_emod_eq
    (inside : Window low modulus index)
    (otherInside : Window low modulus other)
    (same : index % modulus = other % modulus) :
    index = other := by
  obtain ⟨above, below⟩ := inside
  obtain ⟨otherAbove, otherBelow⟩ := otherInside
  have divides : (modulus : Int) ∣ index - other := Int.dvd_of_emod_eq_zero
    (Int.emod_eq_emod_iff_emod_sub_eq_zero.mp same)
  have small : |index - other| < modulus := abs_lt.mpr ⟨by omega, by omega⟩
  exact Int.sub_eq_zero.mp (Int.eq_zero_of_abs_lt_dvd divides small)

/-- Every residue stands for an index of a window. -/
theorem exists_emod_eq
    {residue : Int}
    (low : Int)
    (nonnegative : 0 ≤ residue)
    (below : residue < modulus) :
    ∃ index, Window low modulus index ∧ index % modulus = residue := by
  have positive : (0 : Int) < modulus := by omega
  refine ⟨low + (residue - low) % modulus, ⟨?_, ?_⟩, ?_⟩
  · have := Int.emod_nonneg (residue - low) (Int.ne_of_gt positive)
    omega
  · have := Int.emod_lt_of_pos (residue - low) positive
    omega
  · have whole : low + (residue - low) = residue := by omega
    rw [Int.add_emod_emod, whole]
    exact Int.emod_eq_of_lt nonnegative below

end Window

namespace Tape

theorem nodup_touched (tape : Tape) : tape.touched.Nodup := by
  apply Std.ExtTreeMap.distinct_keys_toList.imp
  rintro entry other different rfl
  exact different Std.ReflCmp.compare_self

/-! ## Folded tapes -/

/-- A tape with a modulus is a folded copy of one without, which is used in a window only. -/
structure Folds (low : Int) (modulus : Nat) (wide narrow : Tape) : Prop where
  /-- The tape has no modulus. -/
  wide_extent : wide.extent = .sparse none
  /-- The copy has the modulus. -/
  narrow_extent : narrow.extent = .sparse (some modulus)
  /-- The cells of the window are those of the copy, with their indices reduced. -/
  get_eq : ∀ index, Window low modulus index → narrow.get (index % modulus) = wide.get index
  /-- Outside the window there is nothing. -/
  get_outside : ∀ index, ¬ Window low modulus index → wide.get index = 0

namespace Folds

variable {low : Int} {modulus : Nat} {wide narrow : Tape}

theorem blank (low : Int) (modulus : Nat) :
    Folds low modulus (ofExtent (.sparse none)) (ofExtent (.sparse (some modulus))) where
  wide_extent := rfl
  narrow_extent := rfl
  get_eq index _ := (Cells.get_blank _).trans (Cells.get_blank index).symm
  get_outside index _ := Cells.get_blank index

theorem set
    {index : Int}
    (folds : Folds low modulus wide narrow)
    (inside : Window low modulus index)
    (byte : UInt8) :
    Folds low modulus (wide.set index byte) (narrow.set (index % modulus) byte) where
  wide_extent := folds.wide_extent
  narrow_extent := folds.narrow_extent
  get_eq other otherInside := by
    have before := folds.get_eq other otherInside
    simp only [get, Tape.set, Cells.get_set] at before ⊢
    by_cases here : index = other
    · rw [if_pos here, if_pos (congrArg (· % (modulus : Int)) here)]
    · have elsewhere : index % (modulus : Int) ≠ other % modulus :=
        fun same => here (inside.eq_of_emod_eq otherInside same)
      rw [if_neg here, if_neg elsewhere, before]
  get_outside other outside := by
    have before := folds.get_outside other outside
    simp only [get, Tape.set, Cells.get_set] at before ⊢
    have elsewhere : index ≠ other := by
      rintro rfl
      exact outside inside
    rw [if_neg elsewhere, before]

/-- A move on the copy is the move on the tape, with its end reduced. -/
theorem move
    (folds : Folds low modulus wide narrow)
    (index distance : Int) :
    wide.move index distance = .ok (index + distance, wide) ∧
      narrow.move (index % modulus) distance = .ok ((index + distance) % modulus, narrow) := by
  constructor
  · simp only [Tape.move, folds.wide_extent]
  · simp only [Tape.move, folds.narrow_extent, Int.emod_add_emod]

/-- The stored cells of the copy are those of the tape, with their indices reduced. -/
theorem touched_perm
    (folds : Folds low modulus wide narrow)
    (wideNeat : wide.Neat)
    (narrowNeat : narrow.Neat) :
    narrow.touched.Perm (wide.touched.map fun entry => (entry.1 % (modulus : Int), entry.2)) := by
  have inside (entry : Int × UInt8) (stored : entry ∈ wide.touched) :
      Window low modulus entry.1 := by
    obtain ⟨content, notZero⟩ := (wideNeat.mem_touched_iff entry).mp stored
    by_contra outside
    exact notZero (content.symm.trans (folds.get_outside _ outside))
  have nodup : (wide.touched.map fun entry => (entry.1 % (modulus : Int), entry.2)).Nodup := by
    refine List.Nodup.map_on (fun entry stored other otherStored same => ?_) wide.nodup_touched
    obtain ⟨sameResidue, sameByte⟩ := Prod.mk.inj same
    exact Prod.ext
      ((inside entry stored).eq_of_emod_eq (inside other otherStored) sameResidue) sameByte
  rw [List.perm_ext_iff_of_nodup narrow.nodup_touched nodup]
  rintro ⟨residue, byte⟩
  rw [List.mem_map]
  constructor
  · intro stored
    have contained := narrowNeat.contained _ stored
    rw [folds.narrow_extent] at contained
    obtain ⟨index, indexInside, rfl⟩ :=
      Window.exists_emod_eq low contained.1 contained.2
    obtain ⟨content, notZero⟩ := (narrowNeat.mem_touched_iff _).mp stored
    refine ⟨(index, byte), (wideNeat.mem_touched_iff _).mpr ⟨?_, notZero⟩, rfl⟩
    rw [← content, ← folds.get_eq index indexInside]
  · rintro ⟨⟨index, value⟩, stored, same⟩
    obtain ⟨rfl, rfl⟩ := Prod.mk.inj same
    obtain ⟨content, notZero⟩ := (wideNeat.mem_touched_iff _).mp stored
    refine (narrowNeat.mem_touched_iff _).mpr ⟨?_, notZero⟩
    rw [← content, ← folds.get_eq index (inside _ stored)]

end Folds
end Tape
end TapeMachine

import TapeMachine.Proofs.Tape.Growth
import TapeMachine.Tape.Storage

/-!
# Storages as stores of bytes

A storage represents a tape if it has the same extent and holds the same bytes.  Whatever is done
to the two then comes to the same: both answer alike, and the storage afterwards represents the tape
afterwards.  For a growable tape this rests on the copy that is made when the array has to grow,
and for a sparse tape on the removal of cells that become zero.

So a storage is a faithful store of bytes because the tape that it represents is one.
-/

namespace TapeMachine

/-- The cell that an index means is one of the cells that there are. -/
theorem Extent.slot_bounds
    {size : Nat}
    {index place : Int}
    (found : slot size index = .ok place) :
    0 ≤ place ∧ place < size := by
  unfold slot at found
  split_ifs at found with inside fromEnd
  · cases found
    exact inside
  · cases found
    omega

namespace Storage

/-! ## Arrays -/

/-- The byte of an array at an index; there are only zeros beside the array. -/
def byteOf (cells : Array UInt8) (index : Int) : UInt8 :=
  if 0 ≤ index then cells.getD index.toNat 0 else 0

theorem byteOf_of_nonneg
    {cells : Array UInt8}
    {index : Int}
    (nonnegative : 0 ≤ index) :
    byteOf cells index = cells.getD index.toNat 0 :=
  if_pos nonnegative

theorem byteOf_natCast (cells : Array UInt8) (place : Nat) :
    byteOf cells place = cells.getD place 0 :=
  byteOf_of_nonneg (Int.natCast_nonneg place)

theorem byteOf_zeros (size : Nat) (index : Int) : byteOf (zeros size) index = 0 := by
  unfold byteOf zeros
  split_ifs with nonnegative
  · rw [Array.getD_eq_getD_getElem?, Array.getElem?_replicate]
    split_ifs <;> rfl
  · rfl

/-- Only the cells of an array are not zero. -/
theorem lt_size_of_byteOf_ne_zero
    {cells : Array UInt8}
    {index : Int}
    (notZero : byteOf cells index ≠ 0) :
    0 ≤ index ∧ index < cells.size := by
  unfold byteOf at notZero
  split_ifs at notZero with nonnegative
  · refine ⟨nonnegative, ?_⟩
    by_contra beyond
    apply notZero
    rw [Array.getD_eq_getD_getElem?, Array.getElem?_eq_none (by omega), Option.getD_none]
  · exact absurd rfl notZero

theorem byteOf_setIfInBounds
    {cells : Array UInt8}
    {index : Int}
    (inside : 0 ≤ index ∧ index < cells.size)
    (byte : UInt8)
    (other : Int) :
    byteOf (cells.setIfInBounds index.toNat byte) other =
      if index = other then byte else byteOf cells other := by
  unfold byteOf
  simp only [Array.getD_eq_getD_getElem?, Array.getElem?_setIfInBounds]
  by_cases nonnegative : 0 ≤ other
  · by_cases same : index = other
    · have small : other.toNat < cells.size := by omega
      simp [same, nonnegative, small]
    · have different : index.toNat ≠ other.toNat := by omega
      simp [same, nonnegative, different]
  · have different : index ≠ other := by omega
    simp [nonnegative, different]

/-- Cells that have been copied so far are those of the source, the others are still there. -/
theorem copied_spec (target source : Array UInt8) (count : Nat) (fits : count ≤ target.size) :
    let copied := (List.range count).foldl
      (fun copied place => copied.setIfInBounds place (source.getD place 0)) target
    copied.size = target.size ∧
      ∀ place : Nat, copied.getD place 0 =
        if place < count then source.getD place 0 else target.getD place 0 := by
  induction count with
  | zero => simp
  | succ count inductionHypothesis =>
      obtain ⟨sameSize, copied⟩ := inductionHypothesis (by omega)
      rw [List.range_succ, List.foldl_append, List.foldl_cons, List.foldl_nil]
      refine ⟨by rw [Array.size_setIfInBounds, sameSize], ?_⟩
      intro place
      rw [Array.getD_eq_getD_getElem?, Array.getElem?_setIfInBounds, sameSize]
      by_cases last : count = place
      · subst last
        rw [if_pos rfl, if_pos (by omega), if_pos (by omega), Option.getD_some]
      · rw [if_neg last, ← Array.getD_eq_getD_getElem?, copied]
        congr 1
        rw [eq_iff_iff]
        omega

theorem size_ensure (cells : Array UInt8) (index : Int) :
    (ensure cells index).size = Extent.grownSize cells.size index := by
  unfold ensure Extent.grownSize
  split_ifs with inside
  · rfl
  · have fits : cells.size ≤ (zeros (max (index + 1).toNat (2 * cells.size))).size := by
      rw [zeros, Array.size_replicate]
      omega
    rw [copyFront, (copied_spec _ cells cells.size fits).1, zeros, Array.size_replicate]

/-- Making room keeps every byte. -/
theorem byteOf_ensure (cells : Array UInt8) (index other : Int) :
    byteOf (ensure cells index) other = byteOf cells other := by
  unfold ensure
  split_ifs with inside
  · rfl
  · have fits : cells.size ≤ (zeros (max (index + 1).toNat (2 * cells.size))).size := by
      rw [zeros, Array.size_replicate]
      omega
    by_cases nonnegative : 0 ≤ other
    · rw [byteOf_of_nonneg nonnegative, byteOf_of_nonneg nonnegative, copyFront,
        (copied_spec _ cells cells.size fits).2]
      by_cases old : other.toNat < cells.size
      · rw [if_pos old]
      · -- what has been added is zero, and beyond the old cells there was nothing else
        rw [if_neg old, ← byteOf_of_nonneg nonnegative, byteOf_zeros, Array.getD_eq_getD_getElem?,
          Array.getElem?_eq_none (Nat.not_lt.mp old), Option.getD_none]
    · rw [byteOf, if_neg nonnegative, byteOf, if_neg nonnegative]

theorem mem_scan_iff (cells : Array UInt8) (entry : Int × UInt8) :
    entry ∈ scan cells ↔ byteOf cells entry.1 = entry.2 ∧ entry.2 ≠ 0 := by
  simp only [scan, List.mem_map, List.mem_filter, List.mem_range, bne_iff_ne]
  constructor
  · rintro ⟨place, ⟨-, notZero⟩, rfl⟩
    exact ⟨byteOf_natCast cells place, notZero⟩
  · rintro ⟨same, notZero⟩
    obtain ⟨nonnegative, below⟩ := lt_size_of_byteOf_ne_zero (same ▸ notZero)
    rw [byteOf_of_nonneg nonnegative] at same
    refine ⟨entry.1.toNat, ⟨by omega, by rwa [same]⟩, ?_⟩
    exact Prod.ext (Int.toNat_of_nonneg nonnegative) same

theorem pairwise_scan (cells : Array UInt8) :
    (scan cells).Pairwise fun entry next => entry.1 < next.1 := by
  rw [scan, List.pairwise_map]
  apply List.Pairwise.filter
  apply List.pairwise_lt_range.imp
  intro place next ordered
  exact Int.ofNat_lt.mpr ordered

/-! ## Dictionaries -/

theorem getD_enter
    (cells : Std.HashMap Int UInt8)
    (index other : Int)
    (byte : UInt8) :
    (enter cells index byte).getD other 0 = if index = other then byte else cells.getD other 0 := by
  unfold enter
  by_cases isZero : byte = 0
  · rw [if_pos isZero, Std.HashMap.getD_erase, isZero]
    simp only [beq_iff_eq]
  · rw [if_neg isZero, Std.HashMap.getD_insert]
    simp only [beq_iff_eq]

/-- Putting a byte never leaves a zero behind. -/
theorem getElem?_enter_ne
    {cells : Std.HashMap Int UInt8}
    (noZero : ∀ index : Int, cells[index]? ≠ some 0)
    (index other : Int)
    (byte : UInt8) :
    (enter cells index byte)[other]? ≠ some 0 := by
  unfold enter
  by_cases isZero : byte = 0
  · rw [if_pos isZero, Std.HashMap.getElem?_erase]
    split_ifs
    · exact (Option.some_ne_none 0).symm
    · exact noZero other
  · rw [if_neg isZero, Std.HashMap.getElem?_insert]
    split_ifs
    · exact fun same => isZero (Option.some.inj same)
    · exact noZero other

/-! ## What a storage holds -/

/-- The byte that a storage holds for an index. -/
def get : Storage → Int → UInt8
  | bounded cells, index => byteOf cells index
  | growable cells, index => byteOf cells index
  | sparse _ cells, index => cells.getD index 0

/-- No zero is in the dictionary of a sparse tape. -/
def StoresNoZero : Storage → Prop
  | sparse _ cells => ∀ index : Int, cells[index]? ≠ some 0
  | _ => True

theorem mem_touched_iff
    {storage : Storage}
    (noZero : storage.StoresNoZero)
    (entry : Int × UInt8) :
    entry ∈ storage.touched ↔ storage.get entry.1 = entry.2 ∧ entry.2 ≠ 0 := by
  cases storage with
  | bounded cells | growable cells => exact mem_scan_iff cells entry
  | sparse modulus cells =>
      obtain ⟨index, byte⟩ := entry
      have found := noZero index
      rw [touched, (List.mergeSort_perm _ _).mem_iff,
        Std.HashMap.mem_toList_iff_getElem?_eq_some, get, Std.HashMap.getD_eq_getD_getElem?]
      cases stored : cells[index]? with
      | none => grind
      | some value => grind

theorem pairwise_touched (storage : Storage) :
    storage.touched.Pairwise fun entry next => entry.1 < next.1 := by
  cases storage with
  | bounded cells | growable cells => exact pairwise_scan cells
  | sparse modulus cells =>
      let ordered (entry next : Int × UInt8) : Bool := entry.1 ≤ next.1
      let listed := cells.toList.mergeSort ordered
      have sorted : listed.Pairwise fun entry next => entry.1 ≤ next.1 := by
        apply (List.pairwise_mergeSort _ _ cells.toList).imp
        · intro entry next isOrdered
          exact of_decide_eq_true isOrdered
        · grind
        · grind
      have distinct : listed.Pairwise fun entry next => entry.1 ≠ next.1 := by
        rw [List.Perm.pairwise_iff (fun different => different.symm) (List.mergeSort_perm _ _)]
        apply Std.HashMap.distinct_keys_toList.imp
        intro entry next different
        simpa using different
      apply sorted.imp₂ _ distinct
      intro entry next ordered different
      exact lt_of_le_of_ne ordered different

/-- Lists of cells by ascending index are the same if they have the same members. -/
theorem eq_of_ascending
    {listed others : List (Int × UInt8)}
    (ascending : listed.Pairwise fun entry next => entry.1 < next.1)
    (othersAscending : others.Pairwise fun entry next => entry.1 < next.1)
    (same : ∀ entry, entry ∈ listed ↔ entry ∈ others) :
    listed = others := by
  have nodup {listed : List (Int × UInt8)}
      (ascending : listed.Pairwise fun entry next => entry.1 < next.1) : listed.Nodup := by
    apply ascending.imp
    rintro entry _ ordered rfl
    exact lt_irrefl _ ordered
  apply List.Perm.eq_of_pairwise _ ascending othersAscending
  · rw [List.perm_ext_iff_of_nodup (nodup ascending) (nodup othersAscending)]
    exact same
  · intro entry next _ _ ordered reversed
    exact absurd (lt_trans ordered reversed) (lt_irrefl _)

/--
Storages that hold the same bytes list the same cells, whatever kinds of tapes they belong to.
-/
theorem touched_eq_of_get_eq
    {storage other : Storage}
    (noZero : storage.StoresNoZero)
    (otherNoZero : other.StoresNoZero)
    (same : ∀ index, storage.get index = other.get index) :
    storage.touched = other.touched := by
  apply eq_of_ascending storage.pairwise_touched other.pairwise_touched
  intro entry
  rw [mem_touched_iff noZero, mem_touched_iff otherNoZero, same]

/-! ## Tapes and their storages -/

/-- A storage has the extent of a tape and holds its bytes. -/
structure Represents (storage : Storage) (tape : Tape) : Prop where
  /-- The extent is the same. -/
  extent_eq : storage.extent = tape.extent
  /-- Every byte is the same. -/
  get_eq : ∀ index, storage.get index = tape.get index
  /-- The dictionary of a sparse tape has no zero. -/
  noZero : storage.StoresNoZero
  /-- The tape stores no zero. -/
  nonzero : ∀ entry ∈ tape.touched, entry.2 ≠ 0

namespace Represents

variable {storage : Storage} {tape : Tape}

theorem blank (extent : Extent) : (blank extent).Represents (.ofExtent extent) where
  extent_eq := by
    cases extent with
    | bounded size | growable size => simp [Storage.blank, Storage.extent, zeros, Tape.ofExtent]
    | sparse modulus => rfl
  get_eq index := by
    rw [Tape.get, Tape.ofExtent, Cells.get_blank]
    cases extent with
    | bounded size | growable size => exact byteOf_zeros size index
    | sparse modulus => exact Std.HashMap.getD_empty
  noZero := by
    cases extent with
    | bounded size | growable size => trivial
    | sparse modulus =>
        intro index
        rw [Std.HashMap.getElem?_empty]
        exact (Option.some_ne_none 0).symm
  nonzero entry stored := absurd stored (Tape.not_mem_touched_ofExtent extent entry)

/-- A storage of another extent that holds the same bytes represents the tape with that extent. -/
theorem grow
    {grown : Storage}
    {extent : Extent}
    (represents : storage.Represents tape)
    (hasExtent : grown.extent = extent)
    (kept : ∀ index, grown.get index = storage.get index)
    (noZero : grown.StoresNoZero) :
    grown.Represents { tape with extent := extent } where
  extent_eq := hasExtent
  get_eq index := (kept index).trans (represents.get_eq index)
  noZero := noZero
  nonzero := represents.nonzero

/-- A storage with a byte put at an index represents the tape with this byte. -/
theorem set
    {changed : Storage}
    {extent : Extent}
    {place : Int}
    {byte : UInt8}
    (represents : storage.Represents tape)
    (hasExtent : changed.extent = extent)
    (put : ∀ index, changed.get index = if place = index then byte else storage.get index)
    (noZero : changed.StoresNoZero) :
    changed.Represents ({ tape with extent := extent }.set place byte) where
  extent_eq := hasExtent
  get_eq index := by
    rw [put, represents.get_eq]
    exact (Cells.get_set _ _ _ _).symm
  noZero := noZero
  nonzero entry stored := by
    rcases Tape.mem_touched_set stored with ⟨rfl, notZero⟩ | old
    · exact notZero
    · exact represents.nonzero entry old

/-- What is listed is the same: it is in the same order and holds the same bytes. -/
theorem touched_eq (represents : storage.Represents tape) : storage.touched = tape.touched := by
  apply eq_of_ascending storage.pairwise_touched tape.pairwise_touched
  intro entry
  rw [mem_touched_iff represents.noZero, Tape.mem_touched_iff_of_nonzero represents.nonzero,
    represents.get_eq]

/-! ### Reading and writing -/

theorem load_eq (cells : Array UInt8) (index : Int) :
    load cells index = (Extent.slot cells.size index).map (byteOf cells) := by
  rw [load]
  cases found : Extent.slot cells.size index with
  | error fault => rfl
  | ok place => exact congrArg Except.ok (byteOf_of_nonneg (Extent.slot_bounds found).1).symm

/-- Reading gives the same byte or the same fault. -/
theorem read_eq (represents : storage.Represents tape) (index : Int) :
    storage.read index = tape.read index := by
  obtain ⟨extent, held⟩ := tape
  obtain ⟨rfl, same, -, -⟩ := represents
  cases storage with
  | bounded cells =>
      have same : byteOf cells = Tape.get ⟨.bounded cells.size, held⟩ := funext same
      simp only [read, load_eq, same, Tape.read, Storage.extent]
  | growable cells =>
      have same : byteOf cells = Tape.get ⟨.growable cells.size, held⟩ := funext same
      simp only [read, load_eq, same, Tape.read, Storage.extent]
  | sparse modulus cells => exact congrArg Except.ok (same index)

theorem store_of_slot_eq_ok
    {cells : Array UInt8}
    {index place : Int}
    (found : Extent.slot cells.size index = .ok place)
    (byte : UInt8) :
    store cells index byte = .ok (cells.setIfInBounds place.toNat byte) := by
  rw [store, found]
  rfl

theorem store_of_slot_eq_error
    {cells : Array UInt8}
    {index : Int}
    {fault : IndexFault}
    (refused : Extent.slot cells.size index = .error fault)
    (byte : UInt8) :
    store cells index byte = .error fault := by
  rw [store, refused]
  rfl

/-- Writing succeeds or fails alike. -/
theorem write
    (represents : storage.Represents tape)
    (index value : Int) :
    (storage.write index value).1 = (tape.write index value).map (fun _ => ()) ∧
      (storage.write index value).2.Represents (tape.after (.write index value)) := by
  obtain ⟨extent, held⟩ := tape
  obtain rfl : storage.extent = extent := represents.extent_eq
  cases storage with
  | bounded cells =>
      simp only [Tape.after, Tape.write, Storage.extent, Extent.ensure]
      cases found : Extent.slot cells.size index with
      | error fault =>
          simp only [Storage.write, store_of_slot_eq_error found]
          exact ⟨rfl, represents⟩
      | ok place =>
          simp only [Storage.write, store_of_slot_eq_ok found]
          refine ⟨rfl, represents.set ?_ ?_ trivial⟩
          · exact congrArg Extent.bounded Array.size_setIfInBounds
          · exact byteOf_setIfInBounds (Extent.slot_bounds found) (byteOfInt value)
  | growable cells =>
      have roomySize := size_ensure cells index
      cases found : Extent.slot (ensure cells index).size index with
      | error fault =>
          have refused : Tape.write ⟨.growable cells.size, held⟩ index value = .error fault := by
            simp only [Tape.write, Extent.ensure, ← roomySize, found]
            rfl
          -- room is made only for indices that the tape has, so there was no need for any
          have sameExtent : (Extent.growable cells.size).ensure index = .growable cells.size :=
            Tape.ensure_of_write_eq_error refused
          simp only [Storage.write, store_of_slot_eq_error found, Tape.after, Storage.extent,
            refused]
          refine ⟨rfl, represents.grow ?_ (byteOf_ensure cells index) trivial⟩
          rw [← sameExtent, Extent.ensure, ← roomySize]
          rfl
      | ok place =>
          simp only [Storage.write, store_of_slot_eq_ok found, Tape.after, Tape.write,
            Storage.extent, Extent.ensure, ← roomySize, found]
          refine ⟨rfl, represents.set ?_ ?_ trivial⟩
          · exact congrArg Extent.growable Array.size_setIfInBounds
          · intro other
            apply (byteOf_setIfInBounds (Extent.slot_bounds found) _ other).trans
            rw [byteOf_ensure]
            rfl
  | sparse modulus cells =>
      refine ⟨rfl, represents.set rfl ?_ ?_⟩
      · exact fun other => getD_enter cells index other (byteOfInt value)
      · exact fun other => getElem?_enter_ne represents.noZero index other (byteOfInt value)

/-! ### Moving -/

/-- Moving ends at the same index or fails alike. -/
theorem move
    (represents : storage.Represents tape)
    (index distance : Int) :
    (storage.move index distance).1 = (tape.move index distance).map Prod.fst ∧
      (storage.move index distance).2.Represents (tape.after (.move index distance)) := by
  obtain ⟨extent, held⟩ := tape
  obtain rfl : storage.extent = extent := represents.extent_eq
  cases storage with
  | bounded cells =>
      simp only [Storage.move, Tape.after, Tape.move, Storage.extent]
      split_ifs with below beyond
      · exact ⟨rfl, represents⟩
      · exact ⟨rfl, represents⟩
      · exact ⟨rfl, represents⟩
  | growable cells =>
      simp only [Storage.move, Tape.after, Tape.move, Storage.extent, Extent.ensure]
      split_ifs with below
      · exact ⟨rfl, represents⟩
      · refine ⟨rfl, represents.grow ?_ ?_ trivial⟩
        · exact congrArg Extent.growable (size_ensure cells _)
        · exact byteOf_ensure cells _
  | sparse modulus cells =>
      cases modulus with
      | none | some modulus => exact ⟨rfl, represents⟩

/-! ### Looking at windows -/

/-- What is cut out of an array are the bytes of the cells from the start to the end of the cut. -/
theorem toList_extract (cells : Array UInt8) (start stop : Int) :
    (cells.extract (max 0 start).toNat (Tape.cutEnd cells.size stop).toNat).toList =
      (interval (max 0 start) (Tape.cutEnd cells.size stop)).map (byteOf cells) := by
  have ends := Tape.cutEnd_le cells.size stop
  generalize Tape.cutEnd cells.size stop = stop at ends
  apply List.ext_getElem?
  intro offset
  rw [Array.getElem?_toList, Array.getElem?_extract, List.getElem?_map]
  by_cases inside : max 0 start + offset < stop
  · have place : (max 0 start + offset).toNat = (max 0 start).toNat + offset := by omega
    have small : (max 0 start).toNat + offset < cells.size := by omega
    rw [if_pos (by omega), getElem?_interval inside, Option.map_some,
      byteOf_of_nonneg (by omega), place, Array.getD_eq_getD_getElem?,
      Array.getElem?_eq_getElem small, Option.getD_some]
  · have past : (interval (max 0 start) stop).length ≤ offset := by
      rw [length_interval]
      omega
    rw [if_neg (by omega), List.getElem?_eq_none past, Option.map_none]

/-- A growable tape can be read at every index that is not negative. -/
theorem read_growable
    {tape : Tape}
    {size : Nat}
    {index : Int}
    (growable : tape.extent = .growable size)
    (nonnegative : 0 ≤ index) :
    tape.read index = .ok (tape.shown index) := by
  have readable : ∃ byte, tape.read index = .ok byte := by
    by_cases inside : index < size
    · have contained : tape.extent.Contains index := by
        rw [growable]
        exact ⟨nonnegative, inside⟩
      exact ⟨_, Tape.read_of_contains contained⟩
    · refine ⟨0, ?_⟩
      rw [Tape.read, growable]
      exact if_pos (Int.not_lt.mp inside)
  obtain ⟨byte, readable⟩ := readable
  rw [Tape.shown_of_read_eq_ok readable, readable]

/-- A window is shown without fail. -/
theorem snapshot_eq
    (represents : storage.Represents tape)
    (start stop : Int) :
    storage.snapshot start stop = .ok (tape.snapshot start stop) := by
  have reads := represents.read_eq
  obtain ⟨extent, held⟩ := tape
  obtain rfl : storage.extent = extent := represents.extent_eq
  cases storage with
  | bounded cells =>
      have same : byteOf cells = Tape.get ⟨.bounded cells.size, held⟩ := funext represents.get_eq
      rw [snapshot, toList_extract, same]
      rfl
  | growable cells =>
      have readable : (fun index => if 0 ≤ index then (growable cells).read index else .ok 0) =
          fun index => pure (if 0 ≤ index
            then Tape.shown ⟨.growable cells.size, held⟩ index else 0) := by
        funext index
        split_ifs with nonnegative
        · rw [reads]
          exact read_growable rfl nonnegative
        · rfl
      rw [snapshot, readable, List.mapM_pure]
      rfl
  | sparse modulus cells =>
      have readable : (sparse modulus cells).read =
          fun index => pure (Tape.shown ⟨.sparse modulus, held⟩ index) := by
        funext index
        rw [reads]
        rfl
      rw [snapshot, readable, List.mapM_pure]
      rfl

end Represents

/-! ## Accesses -/

/-- The storage after an access. -/
def after (storage : Storage) : Access → Storage
  | .read _ => storage
  | .write index value => (storage.write index value).2
  | .move index distance => (storage.move index distance).2
  | .snapshot _ _ => storage

/-- The storage after accesses in turn. -/
def afterAll (storage : Storage) (accesses : List Access) : Storage :=
  accesses.foldl after storage

/-- The byte that is read at an index; an index that is not addressed counts as zero. -/
def byteAt (storage : Storage) (index : Int) : UInt8 :=
  if storage.extent.Addresses index then (storage.read index).toOption.getD 0 else 0

namespace Represents

variable {storage : Storage} {tape : Tape}

/-- An access is made to a storage as to the tape that it represents. -/
theorem after (represents : storage.Represents tape) (access : Access) :
    (storage.after access).Represents (tape.after access) := by
  cases access with
  | read index => exact represents
  | snapshot start stop => exact represents
  | write index value => exact (represents.write index value).2
  | move index distance => exact (represents.move index distance).2

theorem afterAll (represents : storage.Represents tape) (accesses : List Access) :
    (storage.afterAll accesses).Represents (tape.afterAll accesses) := by
  induction accesses generalizing storage tape with
  | nil => exact represents
  | cons access accesses inductionHypothesis => exact inductionHypothesis (represents.after access)

theorem byteAt_eq (represents : storage.Represents tape) (index : Int) :
    storage.byteAt index = tape.byteAt index := by
  rw [Storage.byteAt, Tape.byteAt, represents.extent_eq, represents.read_eq]

end Represents

/--
The storage of a tape of any kind is a faithful store of bytes.  After any accesses whose writes are
addressed to the tape, successful or failing, reading a cell gives the integer last written to it
modulo 256, or zero if there was none.  An access other than a write changes no cell.  The cells
listed are those that do not read zero, with what they read, by ascending index; and two storages of
whatever kinds that read alike list the same cells.
-/
theorem storages_are_faithful_stores
    (extent : Extent)
    (accesses : List Access)
    (addressed : ∀ index value, .write index value ∈ accesses → extent.Addresses index) :
    let storage := (blank extent).afterAll accesses
    (∀ index, extent.Addresses index →
      ∃ byte, storage.read index = .ok byte ∧
        (byte.toNat : Int) = (Access.lastWritten? accesses index).getD 0 % 256) ∧
      (∀ access, (∀ index value, access ≠ .write index value) →
        ∀ index, extent.Addresses index →
          (storage.after access).read index = storage.read index) ∧
      (storage.touched.Pairwise fun entry next => entry.1 < next.1) ∧
      (∀ index byte, (index, byte) ∈ storage.touched ↔
        extent.Addresses index ∧ storage.read index = .ok byte ∧ byte ≠ 0) ∧
      ∀ (otherExtent : Extent) (otherAccesses : List Access),
        (∀ index value, .write index value ∈ otherAccesses → otherExtent.Addresses index) →
        (∀ index, ((blank otherExtent).afterAll otherAccesses).byteAt index =
          storage.byteAt index) →
        ((blank otherExtent).afterAll otherAccesses).touched = storage.touched := by
  intro storage
  have represents : storage.Represents ((Tape.ofExtent extent).afterAll accesses) :=
    (Represents.blank extent).afterAll accesses
  have holds : ((Tape.ofExtent extent).afterAll accesses).Holds extent accesses :=
    .afterAll addressed
  refine ⟨?_, ?_, storage.pairwise_touched, ?_, ?_⟩
  · intro index inside
    refine ⟨_, (represents.read_eq index).trans (holds.read_eq inside), ?_⟩
    rw [holds.get_eq, Tape.toNat_byteOfInt]
  · intro access noWrite index inside
    have later := holds.access fun index value isWrite => absurd isWrite (noWrite index value)
    rw [(represents.after access).read_eq, represents.read_eq, later.read_eq inside,
      holds.read_eq inside, later.get_eq, holds.get_eq, Access.lastWritten?_concat]
    cases access with
    | write other value => exact absurd rfl (noWrite other value)
    | read | move | snapshot => rfl
  · intro index byte
    rw [represents.touched_eq, represents.read_eq]
    exact holds.mem_touched_iff addressed index byte
  · intro otherExtent otherAccesses otherAddressed alike
    have otherRepresents := (Represents.blank otherExtent).afterAll otherAccesses
    have otherHolds := Tape.Holds.afterAll otherAddressed
    have sameBytes (index : Int) :
        ((blank otherExtent).afterAll otherAccesses).get index = storage.get index := by
      have same := alike index
      rwa [otherRepresents.byteAt_eq, otherHolds.byteAt_eq otherAddressed, represents.byteAt_eq,
        holds.byteAt_eq addressed, ← otherRepresents.get_eq, ← represents.get_eq] at same
    exact touched_eq_of_get_eq otherRepresents.noZero represents.noZero sameBytes

/-- A growable tape is written to beyond its only cell, moved on and refused a move. -/
theorem growable_storage_is_faithful_store :
    let accesses : List Access :=
      [.write 0 300, .write 5 (-1), .move 5 20, .write 5 513, .move 0 (-1), .snapshot (-2) 9]
    let storage := (blank (.growable 1)).afterAll accesses
    (∃ byte, storage.read 0 = .ok byte ∧ byte.toNat = 300 % 256) ∧
      (∃ byte, storage.read 5 = .ok byte ∧ byte.toNat = 513 % 256) ∧
      (∃ byte, storage.read 99 = .ok byte ∧ byte.toNat = 0) ∧
      (∀ index byte, (index, byte) ∈ storage.touched ↔
        0 ≤ index ∧ storage.read index = .ok byte ∧ byte ≠ 0) := by
  intro accesses storage
  have addressed : ∀ index value, .write index value ∈ accesses →
      (Extent.growable 1).Addresses index := by
    intro index value made
    simp only [accesses, List.mem_cons, Access.write.injEq, reduceCtorEq, List.not_mem_nil,
      or_false, false_or] at made
    rcases made with ⟨rfl, -⟩ | ⟨rfl, -⟩ | ⟨rfl, -⟩ <;> decide
  obtain ⟨reads, -, -, listed, -⟩ := storages_are_faithful_stores (.growable 1) accesses addressed
  obtain ⟨first, readsFirst, isFirst⟩ := reads 0 (by decide)
  obtain ⟨second, readsSecond, isSecond⟩ := reads 5 (by decide)
  obtain ⟨third, readsThird, isThird⟩ := reads 99 (by decide)
  exact ⟨⟨first, readsFirst, Int.ofNat.inj isFirst⟩, ⟨second, readsSecond, Int.ofNat.inj isSecond⟩,
    ⟨third, readsThird, Int.ofNat.inj isThird⟩, listed⟩

end Storage
end TapeMachine

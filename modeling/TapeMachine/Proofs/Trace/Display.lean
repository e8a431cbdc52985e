import TapeMachine.Proofs.Tape.Windows
import TapeMachine.Proofs.Text.Rows
import TapeMachine.Proofs.Trace.Telling

/-!
# Displays of a trace

A trace displays the machine before the first step and after every step that it completes.  A
display shows a window of the tape in three rows: the values of the cells, a mark for the cursor,
and the addresses of the cells.  Values and marks have fields of three characters, so that they
stand below each other.  An address may be wider than that, and then those behind it stand further
to the right.  So the mark stands with the value of the cell at the cursor, but not always with its
address.

The window is laid around the cursor.  On a tape that has a first cell it starts there at the
earliest, and on a tape that has a last cell it ends there at the latest.  The cursor is inside in
any case, and the addresses, which are counted from the number of the values, are those of the
values.
-/

namespace TapeMachine

/-- How many cells a tape has in a window of some width that starts at an index. -/
def Extent.visible (extent : Extent) (first window : Int) : Int :=
  match extent with
  | .bounded size => min window (size - first)
  | _ => window

theorem Extent.Grows.visible_eq
    {before after : Extent}
    (grows : before.Grows after)
    (first window : Int) :
    after.visible first window = before.visible first window := by
  rcases grows.eq_or_growable with rfl | ⟨size, larger, rfl, rfl, -⟩
  · rfl
  · rfl

/-! ## Rows -/

/-- The field of a row that belongs to the cell with a number. -/
def cellField (row : String) (number : Nat) : List Char :=
  Text.field 11 3 row.toList number

/-- How many characters the field of an address has. -/
def addressWidth (address : Int) : Nat :=
  max 3 (toString address).length

/-- The column at which the field of an address begins, in a row of addresses from the first on. -/
def addressColumn (first : Int) (number : Nat) : Nat :=
  11 + ((List.range number).map fun before : Nat => addressWidth (first + before) + 1).sum

/-- The field of an address in a row of addresses from the first on. -/
def addressField (row : String) (first : Int) (number : Nat) : List Char :=
  (row.toList.drop (addressColumn first number)).take (addressWidth (first + number))

/-- How many characters the addresses before one have in all beyond three each. -/
def addressExcess (first : Int) (number : Nat) : Nat :=
  ((List.range number).map fun before : Nat => (toString (first + (before : Int))).length - 3).sum

/-- There is a mark at a column of the field of an address. -/
def MarksAddress (marks : String) (first : Int) (number : Nat) : Prop :=
  ∃ column, marks.toList[column]? = some '^' ∧
    addressColumn first number ≤ column ∧
    column < addressColumn first number + addressWidth (first + number)

/-- Wide addresses shift the fields of those behind them. -/
theorem addressColumn_eq (first : Int) (number : Nat) :
    addressColumn first number = 11 + 4 * number + addressExcess first number := by
  induction number with
  | zero => rfl
  | succ number inductionHypothesis =>
      simp only [addressColumn, addressExcess] at inductionHypothesis ⊢
      rw [List.range_succ, List.map_append, List.map_append, List.sum_append, List.sum_append,
        ← Nat.add_assoc, inductionHypothesis, List.map_singleton, List.map_singleton,
        List.sum_singleton, List.sum_singleton, addressWidth]
      omega

/--
Three rows show cells of the tape of a machine, from an index on, and mark the one at the cursor.
-/
structure Machine.ShownIn
    (machine : Machine)
    (first : Int)
    (count : Nat)
    (memory marks addresses : String) : Prop where
  /-- There is a field for each of the cells and for nothing else. -/
  length_memory : memory.length = 11 + 4 * count
  /-- The fields have what is read from the cells. -/
  value : ∀ number < count, ∃ byte, machine.tape.read (first + number) = .ok byte ∧
    cellField memory number = (Text.padLeft 3 (toString byte.toNat)).toList
  /-- The addresses follow each other. -/
  words_addresses : Text.words addresses.toList =
    "Address:".toList ::
      (List.range count).map fun number : Nat => (toString (first + number)).toList
  /-- Each address stands in its field. -/
  address : ∀ number < count, addressField addresses first number =
    (Text.padLeft 3 (toString (first + (number : Int)))).toList
  /-- The cursor is at one of the cells. -/
  cursor_shown : first ≤ machine.cursor ∧ machine.cursor < first + count
  /-- There is one mark. -/
  count_marks : marks.toList.count '^' = 1
  /-- The mark stands in the field of the cell at the cursor. -/
  mark : ∀ number < count, cellField marks number =
    if first + number = machine.cursor then [' ', '^', ' '] else [' ', ' ', ' ']

namespace View

/-- The row of the values. -/
def memoryRow (view : View) : String :=
  "Memory:   [" ++
    "|".intercalate (view.cells.map fun byte => Text.padLeft 3 (toString byte.toNat)) ++ "]"

/-- The row of the mark. -/
def markRow (view : View) : String :=
  "Pointer:   " ++
    " ".intercalate (view.addresses.map fun index => if index = view.cursor then " ^ " else "   ")

/-- The row of the addresses. -/
def addressRow (view : View) : String :=
  "Address:   " ++
    " ".intercalate (view.addresses.map fun index => Text.padLeft 3 (toString index))

theorem addresses_eq (view : View) :
    view.addresses =
      (List.range view.cells.length).map fun number : Nat => view.start + number := by
  have count : (view.start + view.cells.length - view.start).toNat = view.cells.length := by omega
  rw [addresses, interval, count]

theorem toList_memoryRow (view : View) :
    view.memoryRow.toList =
      "Memory:   [".toList ++
        (['|'].intercalate (view.cells.map fun byte =>
          (Text.padLeft 3 (toString byte.toNat)).toList) ++ [']']) := by
  simp [memoryRow, String.toList_intercalate, Function.comp_def]

theorem toList_markRow (view : View) :
    view.markRow.toList =
      "Pointer:   ".toList ++
        ([' '].intercalate (view.addresses.map fun index =>
          if index = view.cursor then [' ', '^', ' '] else [' ', ' ', ' ']) ++ []) := by
  have marks : (String.toList ∘ fun index : Int => if index = view.cursor then " ^ " else "   ") =
      fun index => if index = view.cursor then [' ', '^', ' '] else [' ', ' ', ' '] := by
    funext index
    rw [Function.comp_apply, apply_ite String.toList]
    rfl
  simp [markRow, String.toList_intercalate, marks]

theorem toList_addressRow (view : View) :
    view.addressRow.toList =
      "Address:   ".toList ++
        ([' '].intercalate (view.addresses.map fun index =>
          (Text.padLeft 3 (toString index)).toList) ++ []) := by
  simp [addressRow, String.toList_intercalate, Function.comp_def]

theorem cellField_memoryRow
    {view : View}
    {number : Nat}
    {byte : UInt8}
    (found : view.cells[number]? = some byte) :
    cellField view.memoryRow number = (Text.padLeft 3 (toString byte.toNat)).toList := by
  rw [cellField, toList_memoryRow]
  apply Text.field_intercalate (by decide)
  · intro piece member
    obtain ⟨byte, -, rfl⟩ := List.mem_map.mp member
    exact Text.length_padLeft_byte byte
  · rw [List.getElem?_map, found, Option.map_some]

theorem length_memoryRow
    {view : View}
    (nonempty : view.cells ≠ []) :
    view.memoryRow.length = 11 + 4 * view.cells.length := by
  have even : ∀ piece ∈ view.cells.map fun byte =>
      (Text.padLeft 3 (toString byte.toNat)).toList, piece.length = 3 := by
    intro piece member
    obtain ⟨byte, -, rfl⟩ := List.mem_map.mp member
    exact Text.length_padLeft_byte byte
  have heading : "Memory:   [".toList.length = 11 := by decide
  rw [← String.length_toList, toList_memoryRow, List.length_append, List.length_append, heading,
    List.length_singleton, Text.length_intercalate_add_one even (by simpa using nonempty),
    List.length_map]

theorem cellField_markRow
    {view : View}
    {number : Nat}
    (inside : number < view.cells.length) :
    cellField view.markRow number =
      if view.start + number = view.cursor then [' ', '^', ' '] else [' ', ' ', ' '] := by
  rw [cellField, toList_markRow]
  apply Text.field_intercalate (by decide)
  · intro piece member
    obtain ⟨index, -, rfl⟩ := List.mem_map.mp member
    split_ifs <;> rfl
  · rw [addresses_eq, List.getElem?_map, List.getElem?_map, List.getElem?_range inside,
      Option.map_some, Option.map_some]

/-- The mark of the cursor is the only one if the cursor is shown. -/
theorem count_markRow
    {view : View}
    (shown : view.cursor ∈ view.addresses) :
    view.markRow.toList.count '^' = 1 := by
  have distinct : view.addresses.Nodup := by
    rw [addresses_eq]
    apply List.nodup_range.map
    intro number other same
    simpa using same
  have heading : "Pointer:   ".toList.count '^' = 0 := by decide
  have marked (indices : List Int) : ((indices.map fun index =>
      if index = view.cursor then [' ', '^', ' '] else [' ', ' ', ' ']).map
        (List.count '^')).sum = indices.count view.cursor := by
    induction indices with
    | nil => rfl
    | cons index rest inductionHypothesis =>
        rw [List.map_cons, List.map_cons, List.sum_cons, inductionHypothesis, List.count_cons,
          Nat.add_comm]
        by_cases here : index = view.cursor
        · simp [here]
        · simp [here]
  rw [toList_markRow, List.append_nil, List.count_append, heading, Nat.zero_add,
    Text.count_intercalate (by decide), marked, List.count_eq_one_of_mem distinct shown]

theorem words_addressRow (view : View) :
    Text.words view.addressRow.toList =
      "Address:".toList ::
        (List.range view.cells.length).map fun number : Nat =>
          (toString (view.start + number)).toList := by
  have heading : "Address:   ".toList = "Address:".toList ++ ' ' :: List.replicate 2 ' ' := by
    decide
  rw [toList_addressRow, List.append_nil, heading, List.append_assoc, List.cons_append,
    Text.words_append_blank, Text.words_replicate_append, Text.words_intercalate,
    Text.words_of_notMem (by decide) (by decide), List.flatMap_map, addresses_eq,
    List.flatMap_map]
  simp only [Text.words_padLeft_toString, ← List.map_eq_flatMap, List.singleton_append]

theorem addressField_addressRow
    {view : View}
    {number : Nat}
    (inside : number < view.cells.length) :
    addressField view.addressRow view.start number =
      (Text.padLeft 3 (toString (view.start + (number : Int)))).toList := by
  let padded (number : Nat) : List Char :=
    (Text.padLeft 3 (toString (view.start + (number : Int)))).toList
  have width (number : Nat) : (padded number).length = addressWidth (view.start + number) :=
    Text.length_padLeft 3 _
  have found : ((List.range view.cells.length).map padded)[number]? = some (padded number) := by
    rw [List.getElem?_map, List.getElem?_range inside, Option.map_some]
  have heading : "Address:   ".toList.length = 11 := by decide
  have column : Text.offset ((List.range view.cells.length).map padded) number =
      ((List.range number).map fun before : Nat => addressWidth (view.start + before) + 1).sum := by
    rw [Text.offset, ← List.map_take, List.take_range, Nat.min_eq_left (Nat.le_of_lt inside),
      List.map_map]
    simp only [Function.comp_def, width]
  rw [addressField, addressColumn, toList_addressRow, addresses_eq, List.map_map,
    ← List.drop_drop, List.drop_left' heading, ← column, ← width]
  exact Text.take_drop_intercalate found []

/-- A window around a cursor has it inside, and starts at zero at the earliest if it has to. -/
theorem startAround_spec
    {policy : Addressing}
    {cursor window : Int}
    (positive : 1 ≤ window)
    (standing : policy ≠ .sparse → 0 ≤ cursor) :
    startAround policy cursor window ≤ cursor ∧
      cursor < startAround policy cursor window + window ∧
      (policy ≠ .sparse → 0 ≤ startAround policy cursor window) := by
  have half : window.fdiv 2 = window / 2 := Int.fdiv_eq_ediv_of_nonneg window (by decide)
  cases policy with
  | bounded | growable =>
      have nonnegative := standing (by decide)
      simp only [startAround, half]
      omega
  | sparse =>
      simp only [startAround, half]
      exact ⟨by omega, by omega, fun notSparse => absurd rfl notSparse⟩

end View

namespace Machine

variable {program : Program} {start : Extent} {machine : Machine} {window : Int} {view : View}

theorem Sound.zero_le_cursor
    (sound : machine.Sound program start)
    (notSparse : machine.tape.extent.policy ≠ .sparse) :
    0 ≤ machine.cursor := by
  have contained := sound.cursor_contained
  cases isExtent : machine.tape.extent with
  | bounded size | growable size =>
      rw [isExtent] at contained
      exact contained.1
  | sparse modulus =>
      rw [isExtent] at notSparse
      exact absurd rfl notSparse

/-- The window of a display has the cursor inside and only cells that the tape has. -/
theorem Sound.exists_shows_of_view
    (sound : machine.Sound program start)
    (positive : 1 ≤ window)
    (isView : machine.view window = view) :
    ∃ last, machine.tape.Shows view.start last view.cells ∧
      view.start ≤ machine.cursor ∧ machine.cursor < last ∧
      last - view.start = machine.tape.extent.visible view.start window ∧
      ∀ index, view.start ≤ index → index < last → machine.tape.extent.Addresses index := by
  have confined := sound.neat.confined
  have contained := sound.cursor_contained
  obtain ⟨before, behind, above⟩ := View.startAround_spec positive sound.zero_le_cursor
  have isStart : View.startAround machine.tape.extent.policy machine.cursor window = view.start :=
    congrArg View.start isView
  have isCells : machine.tape.snapshot view.start (view.start + window) = view.cells := by
    rw [← isStart, ← isView]
    rfl
  rw [isStart] at before behind above
  rw [← isCells]
  cases isExtent : machine.tape.extent with
  | bounded size =>
      rw [isExtent] at contained above
      have nonnegative := above nofun
      have inside : machine.cursor < size := contained.2
      have shown := confined.shows_snapshot_of_bounded view.start (view.start + window) isExtent
      rw [Tape.cutEnd_of_nonneg (by omega), Int.max_eq_right nonnegative] at shown
      refine ⟨min size (view.start + window), shown, before, by omega, ?_, ?_⟩
      · simp only [Extent.visible]
        omega
      · intro index fromStart beforeEnd
        exact ⟨by omega, by omega⟩
  | growable size =>
      rw [isExtent] at above
      have shown := confined.shows_snapshot_of_unbounded view.start (view.start + window)
        (by simp [isExtent])
      refine ⟨view.start + window, shown, before, behind, ?_, ?_⟩
      · simp only [Extent.visible]
        omega
      · intro index fromStart _
        exact Int.le_trans (above nofun) fromStart
  | sparse modulus =>
      have shown := confined.shows_snapshot_of_unbounded view.start (view.start + window)
        (by simp [isExtent])
      refine ⟨view.start + window, shown, before, behind, ?_, ?_⟩
      · simp only [Extent.visible]
        omega
      · intro index _ _
        trivial

/-- The rows of a display show the cells around the cursor and mark the one at the cursor. -/
theorem Sound.shownIn_of_view
    (sound : machine.Sound program start)
    (positive : 1 ≤ window)
    (isView : machine.view window = view) :
    machine.ShownIn view.start view.cells.length view.memoryRow view.markRow view.addressRow ∧
      (view.cells.length : Int) = machine.tape.extent.visible view.start window := by
  obtain ⟨last, shows, before, behind, count, addressed⟩ :=
    sound.exists_shows_of_view positive isView
  have confined := sound.neat.confined
  have length := shows.length_eq
  have sameCursor : machine.cursor = view.cursor := congrArg View.cursor isView
  refine ⟨⟨?_, ?_, view.words_addressRow, ?_, ?_, ?_, ?_⟩, by omega⟩
  · apply View.length_memoryRow
    apply List.ne_nil_of_length_pos
    omega
  · intro number inside
    have shown := shows.getElem?_eq number (by omega)
    refine ⟨machine.tape.byteAt (view.start + number), ?_, View.cellField_memoryRow shown⟩
    rw [confined.byteAt_eq]
    apply confined.read_eq
    apply addressed
    · omega
    · omega
  · intro number inside
    exact View.addressField_addressRow inside
  · omega
  · apply View.count_markRow
    rw [View.addresses, mem_interval_iff]
    omega
  · intro number inside
    rw [sameCursor]
    exact View.cellField_markRow inside

end Machine

/--
What is read at an address of a cycle, and what is read where a move to the address ends.  Nothing
is stored at an address that is not its own residue.
-/
theorem Machine.Sound.read_on_cycle
    {program : Program}
    {start : Extent}
    {machine : Machine}
    {modulus : Nat}
    (sound : machine.Sound program start)
    (cyclic : machine.tape.extent = .sparse (some modulus))
    (address : Int) :
    ∃ own seen, machine.tape.read address = .ok own ∧
      machine.tape.move machine.cursor (address - machine.cursor) =
        .ok (address % modulus, machine.tape) ∧
      machine.tape.read (address % modulus) = .ok seen ∧
      (own = seen ↔ address = address % modulus ∨ seen = 0) ∧
      (address ≠ address % modulus → own = 0) := by
  have read (index : Int) : machine.tape.read index = .ok (machine.tape.get index) := by
    simp only [Tape.read, cyclic]
  have unstored : address ≠ address % modulus → machine.tape.get address = 0 := by
    intro elsewhere
    apply sound.neat.get_of_not_contains
    rw [cyclic]
    rintro ⟨nonnegative, below⟩
    exact elsewhere (Int.emod_eq_of_lt nonnegative below).symm
  refine ⟨_, _, read address, ?_, read _, ?_, unstored⟩
  · simp only [Tape.move, cyclic]
    rw [add_sub_cancel]
  · by_cases same : address = address % modulus
    · rw [← same]
      exact iff_of_true rfl (Or.inl rfl)
    · rw [unstored same, or_iff_right same]
      exact eq_comm

/-! ## Marks and addresses -/

section Marks

variable {machine : Machine} {first : Int} {count : Nat} {memory marks addresses : String}

/-- The only mark is in the middle of the field of the cell at the cursor. -/
theorem Machine.ShownIn.getElem?_marks_iff
    (shown : machine.ShownIn first count memory marks addresses)
    {number : Nat}
    (atCursor : first + number = machine.cursor)
    (column : Nat) :
    marks.toList[column]? = some '^' ↔ column = 12 + 4 * number := by
  have inside : number < count := by
    have within := shown.cursor_shown
    omega
  have field := shown.mark number inside
  rw [if_pos atCursor, cellField, Text.field] at field
  have marked : marks.toList[12 + 4 * number]? = some '^' := by
    have second := congrArg (·[1]?) field
    simp only [List.getElem?_take_of_lt (show 1 < 3 by decide), List.getElem?_drop] at second
    rwa [show 11 + (3 + 1) * number + 1 = 12 + 4 * number by omega] at second
  constructor
  · intro found
    -- two marks would be one too many
    by_contra elsewhere
    have twice : List.Duplicate '^' marks.toList := by
      obtain ⟨small, isMark⟩ := List.getElem?_eq_some_iff.mp found
      obtain ⟨smallToo, isMarkToo⟩ := List.getElem?_eq_some_iff.mp marked
      rw [List.duplicate_iff_exists_distinct_get]
      rcases Nat.lt_or_gt_of_ne elsewhere with before | behind
      · exact ⟨⟨column, small⟩, ⟨_, smallToo⟩, before, isMark.symm, isMarkToo.symm⟩
      · exact ⟨⟨_, smallToo⟩, ⟨column, small⟩, behind, isMarkToo.symm, isMark.symm⟩
    have atLeastTwo := List.duplicate_iff_two_le_count.mp twice
    rw [shown.count_marks] at atLeastTwo
    omega
  · rintro rfl
    exact marked

/-- The mark is at an address exactly if the address is not too far from its cell. -/
theorem Machine.ShownIn.marksAddress_iff
    (shown : machine.ShownIn first count memory marks addresses)
    {number : Nat}
    (atCursor : first + number = machine.cursor)
    (other : Nat) :
    MarksAddress marks first other ↔
      addressColumn first other ≤ 12 + 4 * number ∧
        12 + 4 * number < addressColumn first other + addressWidth (first + other) := by
  simp only [MarksAddress, shown.getElem?_marks_iff atCursor, exists_eq_left]

/--
The mark is at the address of the cursor exactly if the addresses before it have at most one
character more than three each.
-/
theorem Machine.ShownIn.marksAddress_cursor_iff
    (shown : machine.ShownIn first count memory marks addresses)
    {number : Nat}
    (atCursor : first + number = machine.cursor) :
    MarksAddress marks first number ↔ addressExcess first number ≤ 1 := by
  have wide : 3 ≤ addressWidth (first + number) := Nat.le_max_left _ _
  rw [shown.marksAddress_iff atCursor, addressColumn_eq]
  omega

end Marks

/-! ## Displays -/

/-- What an entry displays of a machine, if it is a display. -/
def Entry.view? : Entry → Option View
  | .initial view => some view
  | .after _ view => some view
  | _ => none

/-- An entry of a trace displays a machine of the run that the trace accompanies. -/
inductive Entry.Displays (start : Machine) (window : Int) : Entry → Machine → Prop
  /-- The machine from which the run starts. -/
  | initial : Displays start window (.initial (start.view window)) start
  /-- The machine after a completed step. -/
  | after
      {done : Nat}
      (runs : (start.run done).running)
      (completed : (start.run done).step.failure? = none) :
      Displays start window (.after (done + 1) ((start.run done).step.view window))
        (start.run done).step

namespace Entry.Displays

variable {start machine : Machine} {window : Int} {entry : Entry}

theorem sound
    {program : Program}
    {extent : Extent}
    (displays : entry.Displays start window machine)
    (startSound : start.Sound program extent) :
    machine.Sound program extent := by
  cases displays with
  | initial => exact startSound
  | @after done _ _ => exact (startSound.run done).step

/-- The rows of a display stand behind its label and the lines on the program and the input. -/
theorem lines_eq (displays : entry.Displays start window machine) :
    (entry.lines.drop 4).take 3 =
      [(machine.view window).memoryRow, (machine.view window).markRow,
        (machine.view window).addressRow] := by
  cases displays with
  | initial => rfl
  | after => rfl

end Entry.Displays

/-- The passage on a turn displays the machine after it, if the turn is completed. -/
theorem Turn.eq_after_of_mem_passage
    {turn : Turn}
    {window : Int}
    {number : Nat}
    {entry : Entry}
    (listed : entry ∈ turn.passage window number)
    (isDisplay : entry.view?.isSome) :
    turn.after.failure? = none ∧ entry = .after number (turn.after.view window) := by
  rcases List.mem_cons.mp listed with rfl | told
  · cases isDisplay
  · cases failed : turn.after.failure? with
    | some failure =>
        rw [failed] at told
        obtain rfl := List.mem_singleton.mp told
        cases isDisplay
    | none =>
        rw [failed] at told
        rcases List.mem_cons.mp told with rfl | last
        · cases isDisplay
        · exact ⟨rfl, List.mem_singleton.mp last⟩

/-- Every display of a trace is one of a machine of the run. -/
theorem Machine.exists_displays_of_mem_trace
    {start : Machine}
    {window budget : Int}
    {entry : Entry}
    (coherent : start.Coherent)
    (listed : entry ∈ (start.trace window budget).entries)
    (isDisplay : entry.view?.isSome) :
    ∃ machine, entry.Displays start window machine := by
  rw [entries_trace coherent] at listed
  simp only [List.mem_append, List.mem_cons, List.not_mem_nil, or_false] at listed
  rcases listed with ((rfl | told) | limit) | rfl
  · exact ⟨start, .initial⟩
  · obtain ⟨passage, isPassage, inPassage⟩ := List.mem_flatten.mp told
    obtain ⟨done, small, rfl⟩ := List.mem_mapIdx.mp isPassage
    obtain ⟨runs, standing, isTurn, -⟩ := of_getElem?_turns (List.getElem?_eq_getElem small)
    obtain ⟨completed, rfl⟩ := Turn.eq_after_of_mem_passage inPassage isDisplay
    have stepped : (start.turns budget.toNat)[done].after = (start.run done).step := by
      rw [step_of_command? runs standing]
      exact congrArg Turn.after isTurn
    rw [stepped] at completed ⊢
    exact ⟨_, .after runs completed⟩
  · split_ifs at limit
    · obtain rfl := List.mem_singleton.mp limit
      cases isDisplay
    · cases limit
  · cases isDisplay

namespace Settings

/--
Every display of a trace of a text is one of a machine of the run, and the text is accepted then.
-/
theorem exists_displays_of_mem_trace
    {settings : Settings}
    {window budget : Int}
    {code : String}
    {data : List UInt8}
    {entry : Entry}
    (listed : entry ∈ (settings.trace window budget code data).entries)
    (isDisplay : entry.view?.isSome) :
    ∃ program machine, Program.parse code = .ok program ∧
      entry.Displays (settings.launch program (.whole data) .absent) window machine := by
  cases parsed : Program.parse code with
  | error rejection =>
      simp only [trace, traceBody, parsed, List.mem_cons, List.not_mem_nil, or_false] at listed
      rcases listed with rfl | rfl | rfl <;> cases isDisplay
  | ok program =>
      rw [trace_of_accepted parsed settings window budget data] at listed
      simp only [List.mem_cons] at listed
      rcases listed with rfl | rfl | inBody
      · cases isDisplay
      · cases isDisplay
      · have coherent := settings.launch_coherent program (.whole data) .absent
        obtain ⟨machine, displays⟩ :=
          Machine.exists_displays_of_mem_trace coherent inBody isDisplay
        exact ⟨program, machine, rfl, displays⟩

/-- What a display shows in its rows. -/
theorem exists_shownIn_of_displays
    {settings : Settings}
    {program : Program}
    {source : Source}
    {sink : Sink}
    {window : Int}
    {entry : Entry}
    {machine : Machine}
    (positive : 1 ≤ window)
    (displays : entry.Displays (settings.launch program source sink) window machine) :
    ∃ (first : Int) (count : Nat) (memory marks addresses : String),
      (entry.lines.drop 4).take 3 = [memory, marks, addresses] ∧
        machine.ShownIn first count memory marks addresses ∧
        (count : Int) = settings.extent.visible first window := by
  have sound := displays.sound (settings.launch_sound program source sink)
  obtain ⟨shown, count⟩ := sound.shownIn_of_view positive rfl
  rw [sound.grows.visible_eq] at count
  exact ⟨_, _, _, _, _, displays.lines_eq, shown, count⟩

/--
Every display of a trace shows the cursor.  Whatever the settings, the text, its input and the
budget are, and however wide the window is, a display is one of a machine of the run.  It shows
cells whose addresses follow each other, with one value for each, which is what is read there.  The
cursor is at one of them, and the only mark stands with its value.  There are as many cells as the
window is wide, or on a bounded tape as many of these as there are before its end.  The mark stands
with the address of the cursor exactly if the addresses before it have together at most one
character beyond three for each.
-/
theorem displays_show_cursor
    (settings : Settings)
    (window budget : Int)
    (positive : 1 ≤ window)
    (code : String)
    (data : List UInt8)
    (entry : Entry)
    (listed : entry ∈ (settings.trace window budget code data).entries)
    (isDisplay : entry.view?.isSome) :
    ∃ (program : Program) (machine : Machine) (first : Int) (count : Nat)
        (memory marks addresses : String),
      Program.parse code = .ok program ∧
        entry.Displays (settings.launch program (.whole data) .absent) window machine ∧
        (entry.lines.drop 4).take 3 = [memory, marks, addresses] ∧
        machine.ShownIn first count memory marks addresses ∧
        (count : Int) = settings.extent.visible first window ∧
        ∀ number : Nat, first + number = machine.cursor →
          (MarksAddress marks first number ↔ addressExcess first number ≤ 1) := by
  obtain ⟨program, machine, accepted, displays⟩ := exists_displays_of_mem_trace listed isDisplay
  obtain ⟨first, count, memory, marks, addresses, rows, shown, isCount⟩ :=
    exists_shownIn_of_displays positive displays
  exact ⟨program, machine, first, count, memory, marks, addresses, accepted, displays, rows, shown,
    isCount, fun _ atCursor => shown.marksAddress_cursor_iff atCursor⟩

/-- At the right edge of three cells a window for three has only two. -/
theorem displays_show_cursor_at_right_edge :
    let settings : Settings := { tapeSize := ⟨3, by decide⟩ }
    ∃ entry ∈ (settings.trace 3 9 ">>+" []).entries, entry.view?.isSome ∧
      (entry.lines.drop 4).take 3 =
        ["Memory:   [  0|  1]", "Pointer:        ^ ", "Address:     1   2"] ∧
      ∃ (machine : Machine) (first : Int),
        machine.ShownIn first 2 "Memory:   [  0|  1]" "Pointer:        ^ " "Address:     1   2" ∧
          ∀ number : Nat, first + number = machine.cursor →
            (MarksAddress "Pointer:        ^ " first number ↔ addressExcess first number ≤ 1) := by
  intro settings
  have found : ∃ entry ∈ (settings.trace 3 9 ">>+" []).entries, entry.view?.isSome ∧
      (entry.lines.drop 4).take 3 =
        ["Memory:   [  0|  1]", "Pointer:        ^ ", "Address:     1   2"] := by
    decide +kernel
  obtain ⟨entry, listed, isDisplay, rows⟩ := found
  obtain ⟨program, machine, first, count, memory, marks, addresses, -, -, sameRows, shown, -,
      marked⟩ :=
    displays_show_cursor settings 3 9 (by decide) ">>+" [] entry listed isDisplay
  rw [rows] at sameRows
  cases sameRows
  obtain rfl : count = 2 := by
    have length := shown.length_memory
    have isLength : "Memory:   [  0|  1]".length = 19 := by decide
    omega
  exact ⟨entry, listed, isDisplay, rows, machine, first, shown, marked⟩

/--
Around the first cell of a sparse tape a window of 208 begins with five addresses of four
characters.  The mark of the cursor, which is at zero, stands at minus one.
-/
theorem display_marks_address_left_of_cursor :
    let settings : Settings := { addressing := .sparse }
    ∃ entry ∈ (settings.trace 208 0 "" []).entries, ∃ (machine : Machine)
        (memory marks addresses : String),
      (entry.lines.drop 4).take 3 = [memory, marks, addresses] ∧
        machine.ShownIn (-104) 208 memory marks addresses ∧
        machine.cursor = 0 ∧
        addressField addresses (-104) 104 = [' ', ' ', '0'] ∧
        ¬ MarksAddress marks (-104) 104 ∧
        addressField addresses (-104) 103 = [' ', '-', '1'] ∧
        MarksAddress marks (-104) 103 := by
  intro settings
  let program : Program := ⟨#[], .empty, rfl⟩
  let machine := settings.launch program (.whole []) .absent
  let view := machine.view 208
  have sound := settings.launch_sound program (.whole []) .absent
  have displays : Entry.Displays machine 208 (.initial view) machine := .initial
  have shown : machine.ShownIn view.start view.cells.length view.memoryRow view.markRow
      view.addressRow := (sound.shownIn_of_view (by decide) rfl).1
  have atCursor : (-104 : Int) + (104 : Nat) = machine.cursor := by decide
  have count : view.cells.length = 208 := by decide +kernel
  have start : view.start = -104 := by decide
  rw [start, count] at shown
  refine ⟨.initial view, List.mem_cons_of_mem _ (List.mem_cons_of_mem _ List.mem_cons_self),
    machine, view.memoryRow, view.markRow, view.addressRow, displays.lines_eq, shown, rfl,
    ?_, ?_, ?_, ?_⟩
  · rw [shown.address 104 (by decide)]
    decide
  · rw [shown.marksAddress_cursor_iff atCursor]
    decide +kernel
  · rw [shown.address 103 (by decide)]
    decide
  · rw [shown.marksAddress_iff atCursor]
    decide +kernel

/-! ## Displays of a cycle -/

/--
Displays of a tape with a modulus show each cell at its own address only.  The indices of such a
tape form a cycle: a move from the cursor to an address of the window ends at its residue.  The
value that is shown at the address is what is read there exactly if the address is its own residue,
or if the cell is zero.  At all other addresses the display shows zero, whatever the cell has that a
move would end at.
-/
theorem displays_of_cycle_show_cells_at_own_addresses_only
    (settings : Settings)
    (modulus : Positive)
    (sparse : settings.addressing = .sparse)
    (cyclic : settings.modulus = some modulus)
    (window budget : Int)
    (positive : 1 ≤ window)
    (code : String)
    (data : List UInt8)
    (entry : Entry)
    (listed : entry ∈ (settings.trace window budget code data).entries)
    (isDisplay : entry.view?.isSome) :
    ∃ (program : Program) (machine : Machine) (first : Int) (memory marks addresses : String),
      Program.parse code = .ok program ∧
        entry.Displays (settings.launch program (.whole data) .absent) window machine ∧
        (entry.lines.drop 4).take 3 = [memory, marks, addresses] ∧
        machine.ShownIn first window.toNat memory marks addresses ∧
        ∀ number < window.toNat, ∃ (address : Int) (shown seen : UInt8),
          address = first + number ∧
            cellField memory number = (Text.padLeft 3 (toString shown.toNat)).toList ∧
            machine.tape.move machine.cursor (address - machine.cursor) =
              .ok (address % modulus.val, machine.tape) ∧
            machine.tape.read (address % modulus.val) = .ok seen ∧
            (shown = seen ↔ address = address % modulus.val ∨ seen = 0) ∧
            (address ≠ address % modulus.val → shown = 0) := by
  obtain ⟨program, machine, accepted, displays⟩ := exists_displays_of_mem_trace listed isDisplay
  obtain ⟨first, count, memory, marks, addresses, rows, shown, isCount⟩ :=
    exists_shownIn_of_displays positive displays
  have sound := displays.sound (settings.launch_sound program (.whole data) .absent)
  have isExtent : settings.extent = .sparse (some modulus.val) := by
    rw [extent, sparse, cyclic]
    rfl
  have sameExtent : machine.tape.extent = .sparse (some modulus.val) := by
    rw [← isExtent]
    rcases sound.grows.eq_or_growable with same | ⟨size, _, growable, _⟩
    · exact same.symm
    · rw [isExtent] at growable
      cases growable
  obtain rfl : count = window.toNat := by
    simp only [isExtent, Extent.visible] at isCount
    omega
  refine ⟨program, machine, first, memory, marks, addresses, accepted, displays, rows, shown, ?_⟩
  intro number inside
  obtain ⟨byte, isRead, isField⟩ := shown.value number inside
  obtain ⟨own, seen, readOwn, moved, readSeen, compared⟩ :=
    sound.read_on_cycle sameExtent (first + number)
  obtain rfl : byte = own := Except.ok.inj (isRead.symm.trans readOwn)
  exact ⟨first + number, byte, seen, rfl, isField, moved, readSeen, compared⟩

/-- Around the only cell of a cycle, a window of two shows it at zero and shows zero before it. -/
theorem displays_of_cycle_show_single_cell_at_zero_only :
    let settings : Settings := { addressing := .sparse, modulus := some ⟨1, by decide⟩ }
    ∃ entry ∈ (settings.trace 2 9 "+" []).entries, entry.view?.isSome ∧
      (entry.lines.drop 4).take 3 =
        ["Memory:   [  0|  1]", "Pointer:        ^ ", "Address:    -1   0"] ∧
      ∃ (machine : Machine) (first : Int),
        machine.ShownIn first 2 "Memory:   [  0|  1]" "Pointer:        ^ " "Address:    -1   0" ∧
          ∀ number < 2, ∃ (address : Int) (shown seen : UInt8),
            address = first + (number : Nat) ∧
              cellField "Memory:   [  0|  1]" number =
                (Text.padLeft 3 (toString shown.toNat)).toList ∧
              machine.tape.move machine.cursor (address - machine.cursor) =
                .ok (address % 1, machine.tape) ∧
              machine.tape.read (address % 1) = .ok seen ∧
              (shown = seen ↔ address = address % 1 ∨ seen = 0) ∧
              (address ≠ address % 1 → shown = 0) := by
  intro settings
  have found : ∃ entry ∈ (settings.trace 2 9 "+" []).entries, entry.view?.isSome ∧
      (entry.lines.drop 4).take 3 =
        ["Memory:   [  0|  1]", "Pointer:        ^ ", "Address:    -1   0"] := by
    decide +kernel
  obtain ⟨entry, listed, isDisplay, rows⟩ := found
  obtain ⟨program, machine, first, memory, marks, addresses, -, -, sameRows, shown, cells⟩ :=
    displays_of_cycle_show_cells_at_own_addresses_only settings ⟨1, by decide⟩ rfl rfl 2 9
      (by decide) "+" [] entry listed isDisplay
  rw [rows] at sameRows
  cases sameRows
  exact ⟨entry, listed, isDisplay, rows, machine, first, shown, cells⟩

/-- Minus one is an address of the only cell of a cycle, which has one, and zero is shown there. -/
theorem display_of_cycle_hides_cell_at_minus_one :
    let settings : Settings := { addressing := .sparse, modulus := some ⟨1, by decide⟩ }
    ∃ (program : Program) (machine : Machine) (entry : Entry), Program.parse "+" = .ok program ∧
      entry ∈ (settings.trace 2 9 "+" []).entries ∧
      entry.Displays (settings.launch program (.whole []) .absent) 2 machine ∧
      (entry.lines.drop 4).take 3 =
        ["Memory:   [  0|  1]", "Pointer:        ^ ", "Address:    -1   0"] ∧
      machine.cursor = 0 ∧ machine.tape.move 0 (-1) = .ok (0, machine.tape) ∧
      machine.tape.read 0 = .ok 1 := by
  intro settings
  let program : Program := ⟨#['+'], .empty, rfl⟩
  let start := settings.launch program (.whole []) .absent
  have displays : (Entry.after 1 ((start.run 0).step.view 2)).Displays start 2 (start.run 0).step :=
    .after (by decide +kernel) (by decide +kernel)
  have isExtent : (start.run 0).step.tape.extent = .sparse (some 1) := by decide +kernel
  refine ⟨program, (start.run 0).step, _, rfl, by decide +kernel, displays, by decide +kernel,
    by decide +kernel, ?_, by decide +kernel⟩
  simp only [Tape.move, isExtent]
  rfl

end Settings
end TapeMachine

import Mathlib.Data.Prod.Lex
import TapeMachine.Proofs.Diagnostic.Excerpt

/-!
# Places in a text

A place in a text is known by its offset, or by its line and its column.  The two say the same.  The
text before an offset has lines of its own: all of them but the last are lines of the whole text,
and the last is the beginning of a line of the whole text.  The number of the former gives the line
of the offset, and the length of the latter gives its column.

So the offset can be computed from the line and the column, and it grows with them: first by the
line, and within a line by the column.
-/

namespace TapeMachine
namespace Text

/-! ## Lines -/

@[simp]
theorem lines_newline_cons (rest : List Char) : lines ('\n' :: rest) = [] :: lines rest := by
  simp only [lines, if_true]

/-- A character that is no newline joins the first line of what follows. -/
theorem lines_cons_of_ne
    {character : Char}
    {rest line : List Char}
    {more : List (List Char)}
    (notNewline : character ≠ '\n')
    (found : lines rest = line :: more) :
    lines (character :: rest) = (character :: line) :: more := by
  simp only [lines, if_neg notNewline, found]

theorem exists_lines_eq_cons (text : List Char) : ∃ line more, lines text = line :: more :=
  List.exists_cons_of_ne_nil (lines_ne_nil text)

/-- The lines of a text are the pieces into which its newlines split it. -/
theorem lines_eq_splitOn (text : List Char) : lines text = text.splitOn '\n' := by
  rw [List.splitOn_eq_splitOnP]
  induction text with
  | nil => rfl
  | cons character rest inductionHypothesis =>
      obtain ⟨line, more, found⟩ := exists_lines_eq_cons rest
      rw [List.splitOnP_cons_eq_if_modifyHead, ← inductionHypothesis]
      by_cases isNewline : character = '\n'
      · rw [isNewline, lines_newline_cons]
        rfl
      · rw [lines_cons_of_ne isNewline found, found]
        simp [isNewline]

/-- How many characters some lines take up, each of them with a newline behind it. -/
def span (lines : List (List Char)) : Nat :=
  (lines.map fun line => line.length + 1).sum

@[simp]
theorem span_nil : span [] = 0 := rfl

@[simp]
theorem span_cons (line : List Char) (lines : List (List Char)) :
    span (line :: lines) = line.length + 1 + span lines := by
  simp only [span, List.map_cons, List.sum_cons]

@[simp]
theorem span_append (first second : List (List Char)) :
    span (first ++ second) = span first + span second := by
  simp only [span, List.map_append, List.sum_append]

/-- The lines of a text take up the text and the newline that its last line lacks. -/
theorem span_lines (text : List Char) : span (lines text) = text.length + 1 := by
  induction text with
  | nil => rfl
  | cons character rest inductionHypothesis =>
      obtain ⟨line, more, found⟩ := exists_lines_eq_cons rest
      rw [found, span_cons] at inductionHypothesis
      by_cases isNewline : character = '\n'
      · rw [isNewline, lines_newline_cons, found, span_cons, span_cons, List.length_nil,
          List.length_cons]
        omega
      · rw [lines_cons_of_ne isNewline found, span_cons, List.length_cons, List.length_cons]
        omega

/-- What follows the last newline of a text. -/
def lastLine (text : List Char) : List Char :=
  (text.reverse.takeWhile (· != '\n')).reverse

theorem lastLine_concat_newline (text : List Char) : lastLine (text ++ ['\n']) = [] := by
  simp [lastLine]

theorem lastLine_concat_of_ne
    {character : Char}
    (notNewline : character ≠ '\n')
    (text : List Char) :
    lastLine (text ++ [character]) = lastLine text ++ [character] := by
  simp [lastLine, notNewline]

/-- What follows a text continues its last line; the lines before that one stay as they are. -/
theorem exists_lines_append (before : List Char) :
    ∃ earlier, ∀ after rest later, lines after = rest :: later →
      lines (before ++ after) = earlier ++ (lastLine before ++ rest) :: later := by
  -- the text is read from its beginning: a newline completes the last line, the others extend it
  induction before using List.reverseRecOn with
  | nil => exact ⟨[], fun after rest later found => found⟩
  | append_singleton before character inductionHypothesis =>
      obtain ⟨earlier, continued⟩ := inductionHypothesis
      by_cases isNewline : character = '\n'
      · subst isNewline
        refine ⟨earlier ++ [lastLine before], fun after rest later found => ?_⟩
        have whole := continued ('\n' :: after) [] (rest :: later)
          (by rw [lines_newline_cons, found])
        rw [List.append_assoc, List.singleton_append, whole, lastLine_concat_newline,
          List.append_nil, List.nil_append, List.append_assoc, List.singleton_append]
      · refine ⟨earlier, fun after rest later found => ?_⟩
        have whole := continued (character :: after) (character :: rest) later
          (lines_cons_of_ne isNewline found)
        rw [List.append_assoc, List.singleton_append, whole, lastLine_concat_of_ne isNewline,
          List.append_assoc, List.singleton_append]

/-! ## Places -/

/-- A place in some lines. -/
structure Place where
  /-- The lines before its line. -/
  earlier : List (List Char)
  /-- What comes before it in its line. -/
  passed : List Char
  /-- What comes behind it in its line. -/
  rest : List Char
  /-- The lines after its line. -/
  later : List (List Char)

namespace Place

/-- The lines in which a place is. -/
def lines (place : Place) : List (List Char) :=
  place.earlier ++ (place.passed ++ place.rest) :: place.later

/-- How many characters come before a place. -/
def offset (place : Place) : Nat :=
  span place.earlier + place.passed.length

/-- The location of a place. -/
def location (place : Place) : Location :=
  ⟨place.offset, place.earlier.length + 1, place.passed.length + 1⟩

variable {place other : Place}

theorem getElem?_lines (place : Place) :
    place.lines[place.earlier.length]? = some (place.passed ++ place.rest) := by
  simp [lines]

theorem take_lines (place : Place) : place.lines.take place.earlier.length = place.earlier := by
  simp [lines]

theorem length_earlier_lt (place : Place) : place.earlier.length < place.lines.length := by
  simp [lines]

/-- A place in an earlier line of the same text has fewer characters before it. -/
theorem offset_lt_of_earlier
    (sameLines : place.lines = other.lines)
    (fewer : place.earlier.length < other.earlier.length) :
    place.offset < other.offset := by
  have before : place.earlier ++ [place.passed ++ place.rest] <+: other.earlier := by
    have left : place.earlier ++ [place.passed ++ place.rest] <+: place.lines :=
      ⟨place.later, by simp [lines]⟩
    have right : other.earlier <+: place.lines := ⟨_, sameLines.symm⟩
    apply List.prefix_of_prefix_length_le left right
    rw [List.length_append, List.length_singleton]
    exact fewer
  obtain ⟨more, split⟩ := before
  simp only [offset, ← split, span_append, span_cons, span_nil, List.length_append]
  omega

/-- Places in one line of a text are as far apart as their columns. -/
theorem span_earlier_eq
    (sameLines : place.lines = other.lines)
    (sameLine : place.earlier.length = other.earlier.length) :
    span place.earlier = span other.earlier := by
  rw [← place.take_lines, ← other.take_lines, sameLines, sameLine]

end Place
end Text

namespace Location

open Text (Place)

/-- The line and the column, which are compared by the line first. -/
def key (location : Location) : Int ×ₗ Int :=
  toLex (location.line, location.column)

theorem lineStart_eq (text : List Char) :
    lineStart text = text.length - (Text.lastLine text).length := by
  rw [lineStart, Text.lastLine, List.length_reverse]

theorem ofOffset_natCast (program : List Char) (offset : Nat) :
    ofOffset program offset =
      { offset := offset
        line := (program.take offset).count '\n' + 1
        column := offset - lineStart (program.take offset) + 1 } := by
  have extent : program.take (extentBefore program.length offset) = program.take offset := by
    rw [extentBefore, if_neg (Int.not_lt.mpr (Int.natCast_nonneg offset)), Int.toNat_natCast,
      Nat.min_comm, ← List.take_eq_take_min]
  simp only [ofOffset, extent]

/-- Every offset of a text is that of a place, whose location is the one of the offset. -/
theorem exists_place
    {program : List Char}
    {offset : Nat}
    (inside : offset ≤ program.length) :
    ∃ place : Place,
      place.lines = Text.lines program ∧
        Text.lines (program.drop offset) = place.rest :: place.later ∧
        ofOffset program offset = place.location ∧ place.offset = offset := by
  obtain ⟨earlier, continued⟩ := Text.exists_lines_append (program.take offset)
  obtain ⟨rest, later, found⟩ := Text.exists_lines_eq_cons (program.drop offset)
  have whole := continued _ rest later found
  rw [List.take_append_drop] at whole
  have alone : Text.lines (program.take offset) =
      earlier ++ [Text.lastLine (program.take offset)] := by
    have ends := continued [] [] [] rfl
    rwa [List.append_nil, List.append_nil] at ends
  have length : (program.take offset).length = offset := by
    rw [List.length_take, Nat.min_eq_left inside]
  -- the lines before the offset take up all of the text before it
  have total := Text.span_lines (program.take offset)
  rw [alone, Text.span_append, Text.span_cons, Text.span_nil, length] at total
  have count := Text.length_lines (program.take offset)
  rw [alone, List.length_append, List.length_singleton] at count
  have start : (lineStart (program.take offset) : Int) = Text.span earlier := by
    rw [lineStart_eq, length]
    omega
  refine ⟨⟨earlier, Text.lastLine (program.take offset), rest, later⟩, whole.symm, found, ?_, ?_⟩
  · rw [ofOffset_natCast, start, ← Nat.succ.inj count]
    simp only [Place.location, Place.offset]
    congr 1
    · omega
    · omega
  · simp only [Place.offset]
    omega

/-- A character that is no newline stands at its column in its line. -/
theorem getElem?_of_place
    {program : List Char}
    {offset : Nat}
    {place : Place}
    {character : Char}
    (behind : Text.lines (program.drop offset) = place.rest :: place.later)
    (found : program[offset]? = some character)
    (notNewline : character ≠ '\n') :
    (place.passed ++ place.rest)[place.passed.length]? = some character := by
  obtain ⟨inside, rfl⟩ := List.getElem?_eq_some_iff.mp found
  obtain ⟨line, more, split⟩ := Text.exists_lines_eq_cons (program.drop (offset + 1))
  have joined := Text.lines_cons_of_ne notNewline split
  rw [List.cons_getElem_drop_succ, behind] at joined
  rw [(List.cons.inj joined).1, List.getElem?_append_right (Nat.le_refl _), Nat.sub_self]
  rfl

/-- Of two places in a text the one with the smaller line and column has the smaller offset. -/
theorem offset_lt_of_key_lt
    {place other : Place}
    (sameLines : place.lines = other.lines)
    (smaller : place.location.key < other.location.key) :
    place.offset < other.offset := by
  simp only [key, Place.location, Prod.Lex.toLex_lt_toLex] at smaller
  rcases smaller with fewer | ⟨sameLine, fewer⟩
  · exact Place.offset_lt_of_earlier sameLines (by omega)
  · have sameSpan := Place.span_earlier_eq sameLines (by omega)
    simp only [Place.offset]
    omega

/-- Two places in a text with the same line and column have the same offset. -/
theorem offset_eq_of_key_eq
    {place other : Place}
    (sameLines : place.lines = other.lines)
    (same : place.location.key = other.location.key) :
    place.offset = other.offset := by
  simp only [key, Place.location, EmbeddingLike.apply_eq_iff_eq, Prod.mk.injEq] at same
  obtain ⟨sameLine, sameColumn⟩ := same
  have sameSpan := Place.span_earlier_eq sameLines (by omega)
  simp only [Place.offset]
  omega

/--
Locations are exact, and they can be turned back into offsets.  The line of an offset is one of the
lines of the text, its column is one of the columns of that line or the one behind its end, and the
lines before it, each with its newline, take up as many characters as come before the column.  A
character that is no newline is the one in that column of that line.  Different offsets have
different lines or columns, and these are ordered by the line first as the offsets are.
-/
theorem locations_are_exact_and_ordered (program : List Char) :
    (∀ offset : Nat, offset ≤ program.length →
      ∃ (number column : Nat) (row : List Char),
        ofOffset program offset = ⟨offset, number, column⟩ ∧
          1 ≤ number ∧ number ≤ (program.splitOn '\n').length ∧
          (program.splitOn '\n')[number - 1]? = some row ∧
          1 ≤ column ∧ column ≤ row.length + 1 ∧
          (((program.splitOn '\n').take (number - 1)).map fun before => before.length + 1).sum +
              (column - 1) = offset ∧
          ∀ character, program[offset]? = some character → character ≠ '\n' →
            row[column - 1]? = some character) ∧
    ∀ first second : Nat, first ≤ program.length → second ≤ program.length →
      ((ofOffset program first).key = (ofOffset program second).key ↔ first = second) ∧
        ((ofOffset program first).key < (ofOffset program second).key ↔ first < second) := by
  rw [← Text.lines_eq_splitOn]
  constructor
  · intro offset inside
    obtain ⟨place, sameLines, behind, located, sameOffset⟩ := exists_place inside
    refine ⟨place.earlier.length + 1, place.passed.length + 1, place.passed ++ place.rest, ?_⟩
    simp only [Nat.add_sub_cancel, ← sameLines, place.getElem?_lines, place.take_lines]
    refine ⟨?_, by omega, place.length_earlier_lt, trivial, by omega, ?_, sameOffset, ?_⟩
    · rw [located, Place.location, sameOffset]
      rfl
    · rw [List.length_append]
      omega
    · exact fun character found notNewline => getElem?_of_place behind found notNewline
  · intro first second firstInside secondInside
    obtain ⟨place, placeLines, -, placeLocated, rfl⟩ := exists_place firstInside
    obtain ⟨other, otherLines, -, otherLocated, rfl⟩ := exists_place secondInside
    have sameLines := placeLines.trans otherLines.symm
    rw [placeLocated, otherLocated]
    rcases lt_trichotomy place.location.key other.location.key with smaller | same | larger
    · have fewer := offset_lt_of_key_lt sameLines smaller
      exact ⟨iff_of_false smaller.ne fewer.ne, iff_of_true smaller fewer⟩
    · have sameOffset := offset_eq_of_key_eq sameLines same
      exact ⟨iff_of_true same sameOffset, iff_of_false same.not_lt sameOffset.not_lt⟩
    · have more := offset_lt_of_key_lt sameLines.symm larger
      exact ⟨iff_of_false larger.ne' more.ne', iff_of_false larger.not_gt more.not_gt⟩

/-- The letter behind an empty line: it is in the third line, behind the newline that ends it. -/
theorem locations_are_exact_behind_empty_line :
    let program := "a\n\nbc".toList
    3 ≤ program.length ∧
      ∃ (number column : Nat) (row : List Char),
        ofOffset program 3 = ⟨3, number, column⟩ ∧
          (program.splitOn '\n')[number - 1]? = some row ∧ row[column - 1]? = some 'b' ∧
          (((program.splitOn '\n').take (number - 1)).map fun before => before.length + 1).sum +
              (column - 1) = 3 ∧
          (ofOffset program 2).key < (ofOffset program 3).key := by
  intro program
  have inside : 3 ≤ program.length := by decide
  obtain ⟨exact, ordered⟩ := locations_are_exact_and_ordered program
  obtain ⟨number, column, row, located, -, -, found, -, -, offset, character⟩ := exact 3 inside
  refine ⟨inside, number, column, row, located, found, ?_, offset, ?_⟩
  · exact character 'b' rfl (by decide)
  · exact (ordered 2 3 (by decide) inside).2.mpr (by decide)

end Location
end TapeMachine

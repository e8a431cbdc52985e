import TapeMachine.Proofs.Brackets.Lone
import TapeMachine.Proofs.Diagnostic.Places
import TapeMachine.Proofs.Machine.Edges
import TapeMachine.Proofs.Text.Rows

/-!
# Carets

A diagnostic is shown with the lines that lead up to its location, each behind its number, and with
a caret below the last of them.  Whatever is wrong with a program, it is wrong with one of its
characters: a bracket without a partner, or a move off the tape.  None of these is a newline, so the
character stands in the line of the location, in its column.

The numbers are padded to the width of the last one, and so is the margin before the caret.  The
caret therefore stands below the character, however many digits the numbers have.
-/

namespace TapeMachine

/-! ## What a diagnostic complains about -/

namespace RejectionCause

/-- The bracket that lacks a partner. -/
def offender : RejectionCause → Char
  | unclosedOpen => '['
  | unmatchedClose => ']'

end RejectionCause

namespace FailureCause

/-- The command that leaves the tape on this side. -/
def offender : FailureCause → Command
  | underflow => .moveLeft
  | overflow => .moveRight

end FailureCause

/-- A bracket without a partner is the one that the cause names. -/
theorem Brackets.Lone.getElem?_eq
    {text : List Char}
    {cause : RejectionCause}
    {position : Nat}
    (lone : Lone text cause position) :
    text[position]? = some cause.offender := by
  cases cause with
  | unmatchedClose => exact lone.1
  | unclosedOpen => exact lone.2.1

/--
Only a move to the left ends beyond the left end, and only one to the right beyond the right end.
-/
theorem Extent.Contains.eq_offender
    {extent : Extent}
    {cursor : Int}
    {command : Command}
    {cause : FailureCause}
    (contained : extent.Contains cursor)
    (beyond : extent.Beyond (cursor + Machine.stride command) cause) :
    command = cause.offender := by
  have bounds := Machine.stride_le_one command
  cases extent with
  | bounded size =>
      obtain ⟨nonnegative, below⟩ := contained
      cases cause with
      | underflow =>
          apply Machine.stride_eq_neg_one_iff.mp
          simp only [Beyond] at beyond
          omega
      | overflow =>
          apply Machine.stride_eq_one_iff.mp
          simp only [Beyond] at beyond
          omega
  | growable size =>
      obtain ⟨nonnegative, below⟩ := contained
      cases cause with
      | underflow =>
          apply Machine.stride_eq_neg_one_iff.mp
          simp only [Beyond] at beyond
          omega
      | overflow => exact beyond.elim
  | sparse modulus => cases cause <;> exact beyond.elim

/-- A machine fails at the move that the cause names, and the failure is located there. -/
theorem Machine.Sound.failure_run_at_offender
    {program : Program}
    {start : Extent}
    {machine : Machine}
    {budget : Nat}
    {failure : Failure}
    (sound : machine.Sound program start)
    (runs : machine.running)
    (failed : (machine.run budget).failure? = some failure) :
    ∃ position : Nat, failure.location = .ofOffset program.code.toList position ∧
      program.command? position = some failure.cause.offender := by
  obtain ⟨fewer, command, -, found, noEffect, stopped⟩ := 
    exists_failing_command sound.coherent runs failed
  have ready := sound.run fewer
  have isOffender : command = failure.cause.offender :=
    ready.cursor_contained.eq_offender ((effect_eq_error_iff ready.cursor_contained).mp noEffect)
  refine ⟨(machine.run fewer).position, ?_, ?_⟩
  · rw [stopped] at failed
    rw [← ready.program_eq]
    exact (congrArg Failure.location (Option.some.inj failed)).symm
  · rw [← ready.program_eq, ← isOffender]
    exact found

namespace Diagnostic

/-- The character that a diagnostic complains about. -/
def offender : Diagnostic → Char
  | rejected rejection => rejection.cause.offender
  | failed failure => failure.cause.offender.symbol

/-- A diagnostic arises from a text: the matcher refuses the text, or a run reports it. -/
inductive ArisesFrom (code : String) : Diagnostic → Prop
  /-- The brackets of the text do not match. -/
  | refused
      {rejection : Rejection}
      (found : matchLoops code.toList = .error rejection) :
      ArisesFrom code (.rejected rejection)
  /-- A run of the text has ended with the diagnostic. -/
  | reported
      {settings : Settings}
      {fuel : Nat}
      {given : Option Int}
      {source : Source}
      {sink : Sink}
      {report : Report}
      {found : Diagnostic}
      (returned : settings.run? fuel given code source sink = some report)
      (told : report.outcome.diagnostic = some found) :
      ArisesFrom code found

/-- A diagnostic is located in the text that it arises from, at the character it complains about. -/
theorem ArisesFrom.exists_offset
    {code : String}
    {found : Diagnostic}
    (arises : found.ArisesFrom code) :
    ∃ offset : Nat, found.location = .ofOffset code.toList offset ∧
      code.toList[offset]? = some found.offender := by
  have refused {rejection : Rejection} (found : matchLoops code.toList = .error rejection) :
      ∃ offset : Nat, rejection.location = .ofOffset code.toList offset ∧
        code.toList[offset]? = some rejection.cause.offender := by
    obtain ⟨offset, lone, located⟩ := Brackets.matchLoops_eq_error_iff.mp found
    exact ⟨offset, located, lone.getElem?_eq⟩
  cases arises with
  | refused found => exact refused found
  | @reported settings fuel given source sink report _ returned told =>
      cases parsed : Program.parse code with
      | error rejection =>
          rw [Settings.run?_of_rejected parsed] at returned
          cases returned
          cases told
          exact refused (Program.matchLoops_of_parse_eq_error parsed)
      | ok program =>
          rw [Settings.run?, parsed] at returned
          obtain ⟨ended, ends, rfl⟩ := Option.map_eq_some_iff.mp returned
          obtain ⟨steps, rfl⟩ := Machine.exists_eq_run_of_runWithin? ends
          obtain ⟨failure, failed, rfl⟩ := Option.map_eq_some_iff.mp told
          obtain ⟨position, located, found⟩ :=
            (settings.launch_sound program source sink).failure_run_at_offender rfl failed
          have character := Program.code_of_command? found
          rw [← Array.getElem?_toList, Program.code_of_parse parsed] at character
          rw [Program.code_of_parse parsed] at located
          exact ⟨position, located, character⟩

theorem offender_ne_newline (found : Diagnostic) : found.offender ≠ '\n' := by
  cases found with
  | rejected rejection =>
      cases cause : rejection.cause <;> simp [offender, cause, RejectionCause.offender]
  | failed failure =>
      cases cause : failure.cause <;>
        simp [offender, cause, FailureCause.offender, Command.symbol]

end Diagnostic

/-! ## Rows -/

namespace Text

theorem newline_notMem_toDigits (number : Nat) : '\n' ∉ Nat.toDigits 10 number :=
  notMem_toDigits (by decide) number

/-- There is no newline in a decimal. -/
theorem newline_notMem_repr (number : Int) : '\n' ∉ number.repr.toList :=
  notMem_repr (by decide) (by decide) number

/-- There is no newline in a line. -/
theorem newline_notMem_of_mem_lines
    {text line : List Char}
    (member : line ∈ lines text) :
    '\n' ∉ line := by
  induction text generalizing line with
  | nil =>
      obtain rfl := List.mem_singleton.mp member
      exact List.not_mem_nil
  | cons character rest inductionHypothesis =>
      obtain ⟨first, more, found⟩ := exists_lines_eq_cons rest
      rw [found] at inductionHypothesis
      by_cases isNewline : character = '\n'
      · rw [isNewline, lines_newline_cons, found] at member
        rcases List.mem_cons.mp member with rfl | other
        · exact List.not_mem_nil
        · exact inductionHypothesis other
      · rw [lines_cons_of_ne isNewline found] at member
        rcases List.mem_cons.mp member with rfl | other
        · rw [List.mem_cons, not_or]
          exact ⟨Ne.symm isNewline, inductionHypothesis List.mem_cons_self⟩
        · exact inductionHypothesis (List.mem_cons_of_mem _ other)

end Text

namespace Diagnostic

/-- A line behind its number, which is padded with blanks to a width. -/
def numbered (width number : Nat) (line : List Char) : List Char :=
  List.replicate (width - (Nat.toDigits 10 number).length) ' ' ++ Nat.toDigits 10 number ++
    [' ', '|', ' '] ++ line

theorem toList_row (width : Nat) (margin text : String) :
    (row width margin text).toList =
      List.replicate (width - margin.length) ' ' ++ margin.toList ++ [' ', '|', ' '] ++
        text.toList := by
  simp [row, Text.padLeft]

theorem toList_row_toString (width number : Nat) (line : List Char) :
    (row width (toString number) (String.ofList line)).toList = numbered width number line := by
  rw [toList_row, Nat.toString_eq_repr, ← String.length_toList, Nat.toList_repr, numbered,
    String.toList_ofList]

/-- A character of a line keeps its place behind a number that fills its width. -/
theorem getElem?_numbered
    (number : Nat)
    (source : List Char)
    (column : Nat) :
    (numbered (Nat.toDigits 10 number).length number source)[
        (Nat.toDigits 10 number).length + 3 + column]? = source[column]? := by
  have margin : numbered (Nat.toDigits 10 number).length number source =
      (Nat.toDigits 10 number ++ [' ', '|', ' ']) ++ source := by
    simp [numbered]
  rw [margin, List.getElem?_append_right (by simp)]
  simp

theorem toList_caretRow (width column : Nat) :
    (caretRow width (column + 1 : Nat)).toList =
      List.replicate width ' ' ++ [' ', '|', ' '] ++ List.replicate column ' ' ++ ['^'] := by
  simp [caretRow, toList_row]

/-- The caret is the only one in its row. -/
theorem getElem?_caretRow_iff (width column place : Nat) :
    (caretRow width (column + 1 : Nat)).toList[place]? = some '^' ↔ place = width + 3 + column := by
  have noCaret :
      '^' ∉ List.replicate width ' ' ++ [' ', '|', ' '] ++ List.replicate column ' ' := by
    simp
  have length : (List.replicate width ' ' ++ [' ', '|', ' '] ++ List.replicate column ' ').length =
      width + 3 + column := by
    simp only [List.length_append, List.length_replicate, List.length_cons, List.length_nil]
  rw [toList_caretRow, List.getElem?_append, length]
  split_ifs with inMargin
  · exact iff_of_false (fun found => noCaret (List.mem_of_getElem? found)) inMargin.ne
  · rw [List.getElem?_singleton]
    split_ifs with atCaret
    · exact iff_of_true rfl (by omega)
    · exact iff_of_false nofun (by omega)

/-- The numbers of an excerpt follow each other up to the line of its location. -/
theorem excerptNumbers_natCast
    {line : Nat}
    (positive : 1 ≤ line)
    (context : Nat) :
    excerptNumbers line context =
      (List.range (min context (line - 1) + 1)).map (line - min context (line - 1) + ·) := by
  have first : (max 1 ((line : Int) - context)).toNat = line - min context (line - 1) := by omega
  have count : ((line : Int) + 1 - max 1 ((line : Int) - context)).toNat =
      min context (line - 1) + 1 := by omega
  simp only [excerptNumbers, first, count]

theorem newline_notMem_of_mem_heading
    {found : Diagnostic}
    {text : String}
    (member : text ∈ found.heading) :
    '\n' ∉ text.toList := by
  rcases List.mem_cons.mp member with rfl | second
  · cases found with
    | rejected rejection =>
        cases cause : rejection.cause <;>
          simp [causeName, message, cause, RejectionCause.name, RejectionCause.message]
    | failed failure =>
        cases cause : failure.cause <;>
          simp [causeName, message, cause, FailureCause.name, FailureCause.message]
  · obtain rfl := List.mem_singleton.mp second
    simp [Location.text, Text.newline_notMem_repr]

theorem newline_notMem_of_mem_closing
    {found : Diagnostic}
    {width : Nat}
    {text : String}
    (member : text ∈ found.closing width) :
    '\n' ∉ text.toList := by
  cases found with
  | rejected rejection => cases member
  | failed failure =>
      obtain rfl := List.mem_singleton.mp member
      simp [Text.padLeft, Text.newline_notMem_repr]

theorem newline_notMem_numbered
    {line : List Char}
    (single : '\n' ∉ line)
    (width number : Nat) :
    '\n' ∉ numbered width number line := by
  simp [numbered, single, Text.newline_notMem_toDigits]

theorem rows?_eq
    {found : Diagnostic}
    {program : List Char}
    {line : Nat}
    (sameLine : found.location.line = line)
    (inside : line ≤ (Text.lines program).length)
    (context : Int) :
    found.rows? program context =
      some (found.heading ++
        (excerptNumbers line context).map (fun number =>
          row (Nat.toDigits 10 line).length (toString number)
            (String.ofList ((Text.lines program)[number - 1]?.getD []))) ++
        [caretRow (Nat.toDigits 10 line).length found.location.column] ++
        found.closing (Nat.toDigits 10 line).length) := by
  have width : (toString (line : Int)).length = (Nat.toDigits 10 line).length := by
    rw [← Nat.toList_repr, String.length_toList]
    rfl
  simp only [rows?, sameLine, width, excerpt?_eq (Int.ofNat_le.mpr inside), Option.map_some]

/-- The rows of an excerpt: the lines that lead up to a line of a text, each behind its number. -/
def numberedLines (program : List Char) (line context : Nat) : List (List Char) :=
  (excerptNumbers line context).map fun number =>
    numbered (Nat.toDigits 10 line).length number ((Text.lines program)[number - 1]?.getD [])

section Excerpts

variable {program : List Char} {line : Nat} (context : Nat)

theorem length_numberedLines (positive : 1 ≤ line) :
    (numberedLines program line context).length = min context (line - 1) + 1 := by
  rw [numberedLines, List.length_map, excerptNumbers_natCast positive, List.length_map,
    List.length_range]

theorem exists_getElem?_numberedLines
    (positive : 1 ≤ line)
    (inside : line ≤ (Text.lines program).length)
    (index : Nat)
    (small : index < (numberedLines program line context).length) :
    ∃ source, (Text.lines program)[line - min context (line - 1) + index - 1]? = some source ∧
      (numberedLines program line context)[index]? =
        some (numbered (Nat.toDigits 10 line).length (line - min context (line - 1) + index)
          source) := by
  rw [length_numberedLines context positive] at small
  have present : line - min context (line - 1) + index - 1 < (Text.lines program).length := by omega
  refine ⟨_, List.getElem?_eq_getElem present, ?_⟩
  rw [numberedLines, excerptNumbers_natCast positive, List.getElem?_map, List.getElem?_map,
    List.getElem?_range small, Option.map_some, Option.map_some, List.getElem?_eq_getElem present,
    Option.getD_some]

/-- The last row of an excerpt is the one of the line that it leads up to. -/
theorem getLast?_numberedLines
    {source : List Char}
    (positive : 1 ≤ line)
    (isLine : (Text.lines program)[line - 1]? = some source) :
    (numberedLines program line context).getLast? =
      some (numbered (Nat.toDigits 10 line).length line source) := by
  have inside := (List.getElem?_eq_some_iff.mp isLine).1
  have length : (numberedLines program line context).length = min context (line - 1) + 1 :=
    length_numberedLines context positive
  obtain ⟨found, sameLine, lastRow⟩ := exists_getElem?_numberedLines context positive
    (by omega : line ≤ (Text.lines program).length) (min context (line - 1)) (by omega)
  have lastNumber : line - min context (line - 1) + min context (line - 1) = line := by omega
  rw [lastNumber] at sameLine lastRow
  obtain rfl := Option.some.inj (sameLine.symm.trans isLine)
  rw [List.getLast?_eq_getElem?, length, Nat.add_sub_cancel]
  exact lastRow

/-- The rows of a rendering are its heading, the numbered lines, the caret, and its closing. -/
theorem exists_render?_splitOn
    {found : Diagnostic}
    {column : Nat}
    (sameLine : found.location.line = line)
    (sameColumn : found.location.column = (column + 1 : Nat))
    (inside : line ≤ (Text.lines program).length) :
    ∃ rendering, found.render? program context = some rendering ∧
      rendering.toList.splitOn '\n' =
        found.heading.map String.toList ++ numberedLines program line context ++
          [(caretRow (Nat.toDigits 10 line).length (column + 1 : Nat)).toList] ++
          (found.closing (Nat.toDigits 10 line).length).map String.toList := by
  refine ⟨_, by rw [render?, rows?_eq sameLine inside, Option.map_some], ?_⟩
  have separator : "\n".toList = ['\n'] := rfl
  rw [String.toList_intercalate, separator, List.splitOn_intercalate]
  · simp only [List.map_append, List.map_map, Function.comp_def, toList_row_toString, sameColumn,
      List.map_cons, List.map_nil, numberedLines]
  · -- no row has a newline, so the rows are told apart by the newlines between them
    intro characters member
    obtain ⟨text, listed, rfl⟩ := List.mem_map.mp member
    simp only [List.mem_append, List.mem_map, List.mem_singleton] at listed
    rcases listed with ((inHeading | ⟨number, -, rfl⟩) | rfl) | inClosing
    · exact newline_notMem_of_mem_heading inHeading
    · rw [toList_row_toString]
      apply newline_notMem_numbered
      cases present : (Text.lines program)[number - 1]? with
      | none => exact List.not_mem_nil
      | some line => exact Text.newline_notMem_of_mem_lines (List.mem_of_getElem? present)
    · rw [sameColumn, toList_caretRow]
      simp
    · exact newline_notMem_of_mem_closing inClosing
  · simp [heading]

end Excerpts

/--
The caret points at the offending character.  A diagnostic of a text, be it of the matcher or of a
run, is located at the bracket or at the move that it complains about.  It can be shown with any
number of lines of context.  Then there are the lines of the text that end with the line of the
location, as many as are asked for and as there are, each of them as it is and behind its number.
In the row below them there is one caret, in the place in which the row above has the offending
character.
-/
theorem caret_points_at_offending_character
    (code : String)
    (found : Diagnostic)
    (arises : found.ArisesFrom code)
    (context : Nat) :
    ∃ (offset line column first place : Nat) (rendering : String)
      (shown : List (List Char)) (above caret : List Char),
      found.location = ⟨offset, line, column⟩ ∧
        code.toList[offset]? = some found.offender ∧
        (((code.toList.splitOn '\n').take (line - 1)).map fun before => before.length + 1).sum +
            (column - 1) = offset ∧
        found.render? code.toList context = some rendering ∧
        rendering.toList.splitOn '\n' =
          found.heading.map String.toList ++ shown ++ [caret] ++
            (found.closing (Nat.toDigits 10 line).length).map String.toList ∧
        shown.length = min context (line - 1) + 1 ∧
        1 ≤ first ∧ first + min context (line - 1) = line ∧
        (∀ index < shown.length, ∃ source,
          (code.toList.splitOn '\n')[first + index - 1]? = some source ∧
            shown[index]? =
              some (numbered (Nat.toDigits 10 line).length (first + index) source)) ∧
        shown.getLast? = some above ∧
        place = (Nat.toDigits 10 line).length + 3 + (column - 1) ∧
        above[place]? = some found.offender ∧
        ∀ other, caret[other]? = some '^' ↔ other = place := by
  obtain ⟨offset, located, character⟩ := arises.exists_offset
  have inside := (List.getElem?_eq_some_iff.mp character).1
  obtain ⟨place, sameLines, behind, atPlace, sameOffset⟩ :=
    Location.exists_place (Nat.le_of_lt inside)
  have sameLocation := located.trans atPlace
  have isLine := place.getElem?_lines
  rw [sameLines] at isLine
  have inLines := (List.getElem?_eq_some_iff.mp isLine).1
  have positive : 1 ≤ place.earlier.length + 1 := by omega
  obtain ⟨rendering, rendered, rows⟩ := exists_render?_splitOn context
    (congrArg Location.line sameLocation) (congrArg Location.column sameLocation) inLines
  refine ⟨offset, place.earlier.length + 1, place.passed.length + 1,
    place.earlier.length + 1 - min context place.earlier.length, _, rendering, _, _, _,
    ?_, character, ?_, rendered, rows, length_numberedLines context positive, ?_, ?_, ?_,
    getLast?_numberedLines context positive isLine, rfl, ?_, ?_⟩
  · rw [sameLocation, Text.Place.location, sameOffset]
    rfl
  · rw [← Text.lines_eq_splitOn, ← sameLines, Nat.add_sub_cancel, place.take_lines]
    exact sameOffset
  · omega
  · omega
  · rw [← Text.lines_eq_splitOn]
    exact exists_getElem?_numberedLines context positive inLines
  · rw [getElem?_numbered]
    exact Location.getElem?_of_place behind character found.offender_ne_newline
  · exact getElem?_caretRow_iff _ _

/-- The caret below a move off the tape in the tenth line, behind a line with one digit less. -/
theorem caret_points_at_move_in_tenth_line :
    let code := "\n\n\n\n\n\n\n\n+\n <"
    let failure : Failure := ⟨⟨11, 10, 2⟩, 11, 1, .underflow⟩
    ArisesFrom code (.failed failure) ∧
      ∃ (place : Nat) (rendering : String) (shown : List (List Char)) (above caret : List Char),
        Diagnostic.render? (.failed failure) code.toList 1 = some rendering ∧
          rendering.toList.splitOn '\n' =
            (Diagnostic.heading (.failed failure)).map String.toList ++ shown ++ [caret] ++
              (Diagnostic.closing 2 (.failed failure)).map String.toList ∧
          shown.length = 2 ∧ shown[0]? = some " 9 | +".toList ∧ shown.getLast? = some above ∧
          above[place]? = some '<' ∧ ∀ other, caret[other]? = some '^' ↔ other = place := by
  intro code failure
  have returned : ({} : Settings).run? 0 (some 5) code .closed .absent =
      some ⟨⟨#[], some (.failed failure), 1, 11, false⟩, .absent, 0⟩ := by
    decide +kernel
  have arises : ArisesFrom code (.failed failure) := .reported returned rfl
  obtain ⟨offset, line, column, first, place, rendering, shown, above, caret, located, -, -,
      rendered,
    rows, length, -, isFirst, numbers, last, -, offender, onlyCaret⟩ :=
    caret_points_at_offending_character code (.failed failure) arises 1
  obtain rfl : line = 10 := (Int.ofNat.inj (congrArg Location.line located)).symm
  obtain rfl : first = 9 := Nat.add_right_cancel isFirst
  obtain ⟨source, isSource, row⟩ := numbers 0 (by rw [length]; decide)
  have ninthLine : source = ['+'] := by
    rw [← Option.some.injEq, ← isSource]
    decide
  refine ⟨arises, place, rendering, shown, above, caret, rendered, rows, length, ?_, last, offender,
    onlyCaret⟩
  rw [row, ninthLine]
  decide

end Diagnostic
end TapeMachine

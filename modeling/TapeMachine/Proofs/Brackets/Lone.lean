import Mathlib.Order.Bounds.Basic
import TapeMachine.Proofs.Brackets.Matching

/-!
# Lone brackets

The brackets of a program that is rejected do not match, and the rejection points at one of them.  A
close is lone if the text before it is balanced: then everything before it has been closed already.
If there is no such close, an open is lone if the text behind it is balanced: then everything behind
it has been closed, and it has not.

The scan stops at the lone close if there is one, and otherwise ends with the lone open at the top
of its stack.  So a rejection points at the first close without a partner or, if every close has
one, at the last open without a partner.
-/

namespace TapeMachine
namespace Brackets

/-- A close stands at a position, and the text before it is balanced. -/
def LoneClose (text : List Char) (position : Nat) : Prop :=
  text[position]? = some ']' ∧ Balanced (text.take position)

/-- No close is lone, an open stands at a position, and the text behind it is balanced. -/
def LoneOpen (text : List Char) (position : Nat) : Prop :=
  (¬ ∃ close, LoneClose text close) ∧
    text[position]? = some '[' ∧ Balanced (text.drop (position + 1))

/-- The bracket that a rejection with a cause points at. -/
def Lone (text : List Char) : RejectionCause → Nat → Prop
  | .unmatchedClose, position => LoneClose text position
  | .unclosedOpen, position => LoneOpen text position

/-- No position is the partner of a position. -/
def Unpaired (text : List Char) (position : Nat) : Prop :=
  ∀ partner, ¬ Partners text position partner

/-! ## Texts around a bracket -/

/-- A text is what comes before a character of it, the character, and what comes behind. -/
theorem eq_append_of_getElem?
    {text : List Char}
    {position : Nat}
    {character : Char}
    (found : text[position]? = some character) :
    text = text.take position ++ character :: text.drop (position + 1) := by
  obtain ⟨inside, rfl⟩ := List.getElem?_eq_some_iff.mp found
  rw [List.cons_getElem_drop_succ, List.take_append_drop]

theorem innermost_iff
    {text : List Char}
    {start : Nat} :
    Innermost text start ↔
      text[start]? = some '[' ∧ Balanced (text.drop (start + 1)) := by
  constructor
  · rintro ⟨before, inner, rfl, rfl, balanced⟩
    have shape : before ++ '[' :: inner = (before ++ ['[']) ++ inner := by simp
    refine ⟨by simp, ?_⟩
    rwa [shape, List.drop_left' (by simp)]
  · rintro ⟨opened, balanced⟩
    refine ⟨text.take start, text.drop (start + 1), eq_append_of_getElem? opened, ?_, balanced⟩
    have inside := (List.getElem?_eq_some_iff.mp opened).1
    rw [List.length_take, Nat.min_eq_left (Nat.le_of_lt inside)]

/-- A pair of brackets stays one when the text is continued at both ends. -/
theorem Encloses.surround
    {text : List Char}
    {start stop : Nat}
    (encloses : Encloses text start stop)
    (front back : List Char) :
    Encloses (front ++ (text ++ back)) (front.length + start) (front.length + stop) := by
  obtain ⟨before, inner, after, rfl, rfl, rfl, balanced⟩ := encloses
  refine ⟨front ++ before, inner, after ++ back, by simp, ?_, ?_, balanced⟩
  · rw [List.length_append]
  · omega

/-- Every bracket of a balanced text has a partner. -/
theorem Balanced.exists_partners
    {text : List Char}
    {position : Nat}
    (balanced : Balanced text)
    (isBracket : IsBracket text position) :
    ∃ partner, Partners text position partner := by
  obtain ⟨table, accepted⟩ := (exists_matchLoops_iff text).mpr balanced
  rcases (scanned_of_matchLoops accepted).covered position isBracket with waiting | paired
  · cases waiting
  · exact paired

/-- A bracket of a balanced part of a text has a partner in the text. -/
theorem not_unpaired_of_balanced
    {part : List Char}
    {position : Nat}
    (balanced : Balanced part)
    (isBracket : IsBracket part position)
    (front back : List Char) :
    ¬ Unpaired (front ++ (part ++ back)) (front.length + position) := by
  intro unpaired
  obtain ⟨partner, start, stop, encloses, ends⟩ := balanced.exists_partners isBracket
  have around := encloses.surround front back
  rcases ends with ⟨isStart, -⟩ | ⟨isStop, -⟩
  · apply unpaired (front.length + stop : Nat)
    exact ⟨_, _, around, Or.inl ⟨by omega, rfl⟩⟩
  · apply unpaired (front.length + start : Nat)
    exact ⟨_, _, around, Or.inr ⟨by omega, rfl⟩⟩

/-! ## Lone closes -/

namespace LoneClose

variable {text : List Char} {position : Nat}

/-- A text with a lone close is not balanced. -/
theorem not_balanced (lone : LoneClose text position) : ¬ Balanced text := by
  obtain ⟨closed, balanced⟩ := lone
  rw [eq_append_of_getElem? closed]
  exact balanced.not_append_close _

/-- The close of a pair is not lone: the text before it has an open that it leaves open. -/
theorem unpaired (lone : LoneClose text position) : Unpaired text position := by
  obtain ⟨closed, balanced⟩ := lone
  rintro partner ⟨start, stop, encloses, ends⟩
  rcases ends with ⟨isStart, -⟩ | ⟨isStop, -⟩
  · obtain ⟨-, opened, -, -⟩ := encloses_iff.mp encloses
    obtain rfl : position = start := by omega
    rw [closed] at opened
    cases opened
  · obtain ⟨before, inner, after, rfl, rfl, rfl, innerBalanced⟩ := encloses
    obtain rfl : position = before.length + inner.length + 1 := by omega
    have shape : before ++ '[' :: (inner ++ ']' :: after) =
        (before ++ '[' :: inner) ++ ']' :: after := by simp
    rw [shape, List.take_left' (by simp; omega)] at balanced
    exact balanced.not_innermost before.length ⟨before, inner, rfl, rfl, innerBalanced⟩

/-- A lone close is the first close without a partner. -/
theorem isLeast (lone : LoneClose text position) :
    IsLeast {close | text[close]? = some ']' ∧ Unpaired text close} position := by
  refine ⟨⟨lone.1, lone.unpaired⟩, ?_⟩
  rintro other ⟨closed, unpaired⟩
  by_contra! earlier
  -- an earlier close stands in the balanced text before the lone one
  have isBracket : IsBracket (text.take position) other := by
    rw [IsBracket, List.getElem?_take_of_lt earlier]
    exact Or.inr closed
  apply not_unpaired_of_balanced lone.2 isBracket [] (text.drop position)
  rwa [List.nil_append, List.take_append_drop, List.length_nil, Nat.zero_add]

end LoneClose

/-- No beginning of a text closes more than it opens if the stack holds its unclosed opens. -/
theorem Unclosed.level_nonneg
    {text before after : List Char}
    {opens : List Nat}
    (unclosed : Unclosed text opens)
    (split : text = before ++ after) :
    0 ≤ level before := by
  induction opens generalizing text after with
  | nil =>
      have balanced : Balanced text := unclosed
      rw [split] at balanced
      exact balanced.level_nonneg
  | cons start outer inductionHypothesis =>
      obtain ⟨outside, inner, rfl, -, balanced, outerUnclosed⟩ := unclosed
      -- the beginning ends before the innermost open, or it goes on behind it
      rcases List.append_eq_append_iff.mp split with ⟨middle, rfl, rest⟩ | ⟨middle, shape, -⟩
      · have outerLevel := outerUnclosed.level_eq_length
        cases middle with
        | nil =>
            rw [List.append_nil, outerLevel]
            omega
        | cons head middle =>
            obtain ⟨rfl, rfl⟩ := List.cons.inj rest
            have innerLevel := balanced.level_nonneg
            rw [level_append, level_cons, weight_open, outerLevel]
            omega
      · exact inductionHypothesis outerUnclosed shape

theorem Unclosed.not_loneClose
    {text : List Char}
    {opens : List Nat}
    (unclosed : Unclosed text opens)
    (position : Nat) :
    ¬ LoneClose text position := by
  rintro ⟨closed, balanced⟩
  have shape : text = (text.take position ++ [']']) ++ text.drop (position + 1) := by
    simpa using eq_append_of_getElem? closed
  have bound := unclosed.level_nonneg shape
  rw [level_append, balanced.level_eq_zero, level_cons, weight_close, level_nil] at bound
  omega

/-! ## Lone opens -/

/-- The text behind the last open that is not closed closes all of its own. -/
theorem Unclosed.isGreatest
    {text : List Char}
    {start : Nat}
    {outer : List Nat}
    (unclosed : Unclosed text (start :: outer)) :
    IsGreatest {position | text[position]? = some '[' ∧ Unpaired text position} start := by
  obtain ⟨opened, balanced⟩ := innermost_iff.mp unclosed.innermost
  refine ⟨⟨opened, unclosed.not_partners⟩, ?_⟩
  rintro other ⟨otherOpened, unpaired⟩
  by_contra! later
  obtain ⟨distance, rfl⟩ := Nat.exists_eq_add_of_lt later
  have isBracket : IsBracket (text.drop (start + 1)) distance := by
    rw [IsBracket, List.getElem?_drop]
    exact Or.inl (by rwa [Nat.add_right_comm])
  have frontLength : (text.take (start + 1)).length = start + 1 := by
    have inside := (List.getElem?_eq_some_iff.mp opened).1
    rw [List.length_take, Nat.min_eq_left inside]
  apply not_unpaired_of_balanced balanced isBracket (text.take (start + 1)) []
  rwa [List.append_nil, List.take_append_drop, frontLength, Nat.add_right_comm]

/-! ## What the scan reports -/

/-- The bracket at which the scan of a program gives up is lone. -/
theorem Verdict.lone
    {code : List Char}
    {position : Nat}
    {cause : RejectionCause}
    (verdict : Verdict code (.error ⟨position, cause⟩)) :
    Lone code cause position := by
  cases cause with
  | unmatchedClose =>
      obtain ⟨before, after, rfl, rfl, balanced⟩ := verdict
      refine ⟨by simp, ?_⟩
      rwa [List.take_left]
  | unclosedOpen =>
      obtain ⟨outer, unclosed⟩ := verdict
      refine ⟨?_, innermost_iff.mp unclosed.innermost⟩
      rintro ⟨close, lone⟩
      exact unclosed.not_loneClose close lone

/-- A program has at most one lone bracket, of one kind or of the other. -/
theorem Lone.unique
    {text : List Char}
    {cause otherCause : RejectionCause}
    {position other : Nat}
    (lone : Lone text cause position)
    (otherLone : Lone text otherCause other) :
    (⟨position, cause⟩ : LoneBracket) = ⟨other, otherCause⟩ := by
  cases cause with
  | unmatchedClose =>
      cases otherCause with
      | unmatchedClose => rw [LoneClose.isLeast lone |>.unique (LoneClose.isLeast otherLone)]
      | unclosedOpen => exact absurd ⟨position, lone⟩ otherLone.1
  | unclosedOpen =>
      cases otherCause with
      | unmatchedClose => exact absurd ⟨other, otherLone⟩ lone.1
      | unclosedOpen =>
          rw [(innermost_iff.mpr lone.2).unique (innermost_iff.mpr otherLone.2)]

theorem Lone.not_balanced
    {text : List Char}
    {cause : RejectionCause}
    {position : Nat}
    (lone : Lone text cause position) :
    ¬ Balanced text := by
  cases cause with
  | unmatchedClose => exact LoneClose.not_balanced lone
  | unclosedOpen =>
      intro balanced
      exact balanced.not_innermost position (innermost_iff.mpr lone.2)

/-- The scan of a program gives up at a bracket exactly if the bracket is lone. -/
theorem scanLoops_eq_error_iff
    {code : List Char}
    {position : Nat}
    {cause : RejectionCause} :
    scanLoops code 0 [] .empty = .error ⟨position, cause⟩ ↔ Lone code cause position := by
  have verdict := verdict_scanLoops code
  constructor
  · intro refused
    rw [refused] at verdict
    exact verdict.lone
  · intro lone
    cases scan : scanLoops code 0 [] .empty with
    | ok table =>
        rw [scan] at verdict
        have scanned : Scanned code [] table := verdict
        exact absurd scanned.unclosed lone.not_balanced
    | error bracket =>
        obtain ⟨found, foundCause⟩ := bracket
        rw [scan] at verdict
        rw [verdict.lone.unique lone]

/-- A program is rejected exactly for its lone bracket, at the location of the bracket. -/
theorem matchLoops_eq_error_iff
    {code : List Char}
    {rejection : Rejection} :
    matchLoops code = .error rejection ↔
      ∃ position : Nat, Lone code rejection.cause position ∧
        rejection.location = .ofOffset code position := by
  obtain ⟨location, cause⟩ := rejection
  simp only [← scanLoops_eq_error_iff]
  unfold matchLoops
  cases scanLoops code 0 [] .empty with
  | ok table => simp
  | error bracket =>
      obtain ⟨position, found⟩ := bracket
      constructor
      · intro refused
        cases refused
        exact ⟨position, rfl, rfl⟩
      · rintro ⟨other, same, rfl⟩
        cases same
        rfl

/-- A program is rejected with a cause at an offset exactly if its lone bracket is there. -/
theorem exists_matchLoops_eq_error_iff
    {code : List Char}
    {cause : RejectionCause}
    {position : Nat} :
    (∃ rejection, matchLoops code = .error rejection ∧ rejection.cause = cause ∧
        rejection.location.offset = position) ↔
      Lone code cause position := by
  constructor
  · rintro ⟨rejection, refused, rfl, offset⟩
    obtain ⟨found, lone, located⟩ := matchLoops_eq_error_iff.mp refused
    rw [located] at offset
    obtain rfl : found = position := Int.ofNat.inj offset
    exact lone
  · intro lone
    exact ⟨⟨.ofOffset code position, cause⟩, matchLoops_eq_error_iff.mpr ⟨position, lone, rfl⟩,
      rfl, rfl⟩

/-- A lone open is the last open without a partner. -/
theorem LoneOpen.isGreatest
    {text : List Char}
    {position : Nat}
    (lone : LoneOpen text position) :
    IsGreatest {start | text[start]? = some '[' ∧ Unpaired text start} position := by
  have refused : scanLoops text 0 [] .empty = .error ⟨position, .unclosedOpen⟩ :=
    scanLoops_eq_error_iff.mpr lone
  have verdict := verdict_scanLoops text
  rw [refused] at verdict
  obtain ⟨outer, unclosed⟩ := verdict
  exact unclosed.isGreatest

/--
The matcher reports the right bracket.  It reports an unmatched close exactly where a close stands
behind a balanced text; that is one place at most, and it is the first close without a partner.  It
reports an unclosed open exactly if there is no such close, where an open stands before a balanced
text; that is one place at most, and it is the last open without a partner.  Whatever it reports is
located in the program.
-/
theorem matchLoops_reports_lone_bracket (code : List Char) :
    (∀ position : Nat,
      ((∃ rejection, matchLoops code = .error rejection ∧ rejection.cause = .unmatchedClose ∧
          rejection.location.offset = position) ↔ LoneClose code position) ∧
      ((∃ rejection, matchLoops code = .error rejection ∧ rejection.cause = .unclosedOpen ∧
          rejection.location.offset = position) ↔ LoneOpen code position)) ∧
    (∀ rejection, matchLoops code = .error rejection →
      ∃ position : Nat, rejection.location.offset = position ∧
        rejection.location = .ofOffset code position) ∧
    (∀ position, LoneClose code position →
      (∀ other, LoneClose code other → other = position) ∧
        IsLeast {close | code[close]? = some ']' ∧ Unpaired code close} position) ∧
    ∀ position, LoneOpen code position →
      (∀ other, LoneOpen code other → other = position) ∧
        IsGreatest {start | code[start]? = some '[' ∧ Unpaired code start} position := by
  refine ⟨fun position => ⟨?_, ?_⟩, ?_, ?_, ?_⟩
  · exact exists_matchLoops_eq_error_iff
  · exact exists_matchLoops_eq_error_iff
  · intro rejection refused
    obtain ⟨position, -, located⟩ := matchLoops_eq_error_iff.mp refused
    exact ⟨position, congrArg Location.offset located, located⟩
  · intro position lone
    refine ⟨fun other otherLone => ?_, lone.isLeast⟩
    exact otherLone.isLeast.unique lone.isLeast
  · intro position lone
    refine ⟨fun other otherLone => ?_, lone.isGreatest⟩
    exact otherLone.isGreatest.unique lone.isGreatest

/-- A close is reported before an open that is left over; without the close the open is. -/
theorem matchLoops_reports_close_before_open :
    (∃ rejection, matchLoops "[]a][".toList = .error rejection ∧
        rejection.cause = .unmatchedClose ∧ rejection.location.offset = (3 : Nat)) ∧
      IsLeast {close | "[]a][".toList[close]? = some ']' ∧ Unpaired "[]a][".toList close} 3 ∧
      IsGreatest {start | "[a[]".toList[start]? = some '[' ∧ Unpaired "[a[]".toList start} 0 := by
  obtain ⟨reports, -, first, -⟩ := matchLoops_reports_lone_bracket "[]a][".toList
  obtain ⟨otherReports, -, -, last⟩ := matchLoops_reports_lone_bracket "[a[]".toList
  have lone : LoneClose "[]a][".toList 3 := ⟨rfl, (0 : DyckWord).nest, rfl⟩
  have otherLone : LoneOpen "[a[]".toList 0 := by
    apply (otherReports 0).2.mp
    exact ⟨⟨.ofOffset "[a[]".toList 0, .unclosedOpen⟩, rfl, rfl, rfl⟩
  exact ⟨(reports 3).1.mpr lone, (first 3 lone).2, (last 0 otherLone).2⟩

end Brackets
end TapeMachine

import Mathlib.Data.List.Nodup
import TapeMachine.Loops
import TapeMachine.Proofs.Brackets.Balance

/-!
# Loop tables match brackets

An open encloses a close when the text between them is balanced.  The scan of a program keeps
two things true of the part that it has read: the positions on its stack are the opens that are
not closed yet, with balanced texts in between, and its table holds exactly the pairs of which
one encloses the other.  At the end of an accepted program no open is left, so the table is the
matching of all brackets; and the scan reaches the end with an empty stack exactly when the
program is balanced.
-/

namespace TapeMachine
namespace Brackets

/-- An open at one position encloses a close at another: the text between them is balanced. -/
def Encloses (text : List Char) (start stop : Nat) : Prop :=
  ∃ before inner after, text = before ++ '[' :: (inner ++ ']' :: after) ∧
    before.length = start ∧ start + inner.length + 1 = stop ∧ Balanced inner

/-- An open at a position is the last that is not closed: the text behind it is balanced. -/
def Innermost (text : List Char) (start : Nat) : Prop :=
  ∃ before inner, text = before ++ '[' :: inner ∧ before.length = start ∧ Balanced inner

/-- The positions of the opens that are not closed, innermost first. -/
def Unclosed (text : List Char) : List Nat → Prop
  | [] => Balanced text
  | start :: outer =>
      ∃ before inner, text = before ++ '[' :: inner ∧ before.length = start ∧
        Balanced inner ∧ Unclosed before outer

/-- Two positions are partners when one of them encloses the other. -/
def Partners (text : List Char) (position partner : Int) : Prop :=
  ∃ start stop : Nat, Encloses text start stop ∧
    ((position = start ∧ partner = stop) ∨ (position = stop ∧ partner = start))

/-- A bracket stands at a position. -/
def IsBracket (text : List Char) (position : Nat) : Prop :=
  text[position]? = some '[' ∨ text[position]? = some ']'

/-! ## Pairs of brackets -/

/-- Enclosing in terms of the characters at two positions and the text between them. -/
theorem encloses_iff
    {text : List Char}
    {start stop : Nat} :
    Encloses text start stop ↔
      start < stop ∧ text[start]? = some '[' ∧ text[stop]? = some ']' ∧
        Balanced ((text.take stop).drop (start + 1)) := by
  constructor
  · rintro ⟨before, inner, after, rfl, rfl, rfl, balanced⟩
    refine ⟨by omega, by simp, ?_, ?_⟩
    · have beyond : before.length ≤ before.length + inner.length + 1 := by omega
      rw [List.getElem?_append_right beyond]
      have offset : before.length + inner.length + 1 - before.length = inner.length + 1 := by
        omega
      rw [offset, List.getElem?_cons_succ]
      simp
    · have shape : before ++ '[' :: (inner ++ ']' :: after) =
          (before ++ ['[']) ++ inner ++ (']' :: after) := by simp
      rw [shape, List.take_left' (by simp; omega), List.drop_left' (by simp)]
      exact balanced
  · rintro ⟨ordered, opened, closed, balanced⟩
    obtain ⟨stopInside, stopChar⟩ := List.getElem?_eq_some_iff.mp closed
    obtain ⟨startInside, startChar⟩ := List.getElem?_eq_some_iff.mp opened
    refine ⟨text.take start, (text.take stop).drop (start + 1), text.drop (stop + 1),
      ?_, ?_, ?_, balanced⟩
    · have upToStop : text = text.take stop ++ ']' :: text.drop (stop + 1) := by
        rw [← stopChar, List.cons_getElem_drop_succ, List.take_append_drop]
      have startInTake : start < (text.take stop).length := by
        rw [List.length_take]
        omega
      have upToStart : text.take stop =
          text.take start ++ '[' :: (text.take stop).drop (start + 1) := by
        have character : (text.take stop)[start] = '[' := by
          rw [List.getElem_take, startChar]
        have shorter : text.take start = (text.take stop).take start := by
          rw [List.take_take, Nat.min_eq_left (by omega)]
        rw [shorter, ← character, List.cons_getElem_drop_succ, List.take_append_drop]
      conv_lhs => rw [upToStop, upToStart]
      simp
    · rw [List.length_take]
      omega
    · rw [List.length_drop, List.length_take]
      omega

/-- A partner of a position is a bracket, and so is the position. -/
theorem Partners.isBracket
    {text : List Char}
    {position partner : Int}
    (partners : Partners text position partner) :
    ∃ index : Nat, position = index ∧ IsBracket text index := by
  obtain ⟨start, stop, encloses, ends⟩ := partners
  obtain ⟨-, opened, closed, -⟩ := encloses_iff.mp encloses
  rcases ends with ⟨rfl, -⟩ | ⟨rfl, -⟩
  · exact ⟨start, rfl, Or.inl opened⟩
  · exact ⟨stop, rfl, Or.inr closed⟩

theorem Partners.symm
    {text : List Char}
    {position partner : Int}
    (partners : Partners text position partner) :
    Partners text partner position := by
  obtain ⟨start, stop, encloses, ends⟩ := partners
  refine ⟨start, stop, encloses, ?_⟩
  rcases ends with ⟨rfl, rfl⟩ | ⟨rfl, rfl⟩
  · exact Or.inr ⟨rfl, rfl⟩
  · exact Or.inl ⟨rfl, rfl⟩

/-- Of two partners the earlier one encloses the later one. -/
theorem partners_iff_encloses
    {text : List Char}
    {start stop : Nat}
    (ordered : start < stop) :
    Partners text start stop ↔ Encloses text start stop := by
  constructor
  · rintro ⟨first, last, encloses, ends⟩
    obtain ⟨firstBefore, -⟩ := encloses_iff.mp encloses
    rcases ends with ⟨startEq, stopEq⟩ | ⟨startEq, stopEq⟩
    · obtain rfl : start = first := by omega
      obtain rfl : stop = last := by omega
      exact encloses
    · omega
  · intro encloses
    exact ⟨start, stop, encloses, Or.inl ⟨rfl, rfl⟩⟩

/-- Only the innermost open can be enclosed by the next close. -/
theorem encloses_append_singleton
    {text : List Char}
    {character : Char}
    {start stop : Nat} :
    Encloses (text ++ [character]) start stop ↔
      Encloses text start stop ∨
        (character = ']' ∧ stop = text.length ∧ Innermost text start) := by
  constructor
  · rintro ⟨before, inner, after, split, startEq, stopEq, balanced⟩
    -- the close is either the last character or stands in the text before it
    rcases List.eq_nil_or_concat after with rfl | ⟨shorter, last, rfl⟩
    · have shape : text ++ [character] = (before ++ '[' :: inner) ++ [']'] := by
        simp [split]
      obtain ⟨textEq, lastEq⟩ := List.append_inj' shape rfl
      refine Or.inr ⟨by simpa using lastEq, ?_, before, inner, textEq, startEq, balanced⟩
      rw [textEq, List.length_append, List.length_cons]
      omega
    · have shape : text ++ [character] =
          (before ++ '[' :: (inner ++ ']' :: shorter)) ++ [last] := by
        simp [split]
      obtain ⟨textEq, -⟩ := List.append_inj' shape rfl
      exact Or.inl ⟨before, inner, shorter, textEq, startEq, stopEq, balanced⟩
  · rintro (⟨before, inner, after, rfl, startEq, stopEq, balanced⟩ |
      ⟨rfl, stopEq, before, inner, rfl, startEq, balanced⟩)
    · exact ⟨before, inner, after ++ [character], by simp, startEq, stopEq, balanced⟩
    · refine ⟨before, inner, [], by simp, startEq, ?_, balanced⟩
      rw [List.length_append, List.length_cons] at stopEq
      omega

/-! ## Opens that are not closed -/

/-- A balanced text has no open that is not closed. -/
theorem Balanced.not_innermost
    {text : List Char}
    (balanced : Balanced text)
    (start : Nat) :
    ¬ Innermost text start := by
  rintro ⟨before, inner, rfl, -, innerBalanced⟩
  have bound := balanced.level_nonneg
  have total := balanced.level_eq_zero
  rw [level_append, level_cons, weight_open, innerBalanced.level_eq_zero] at total
  omega

/-- Two texts that are balanced behind an open cannot overlap. -/
theorem Innermost.unique
    {text : List Char}
    {first second : Nat}
    (firstInnermost : Innermost text first)
    (secondInnermost : Innermost text second) :
    first = second := by
  -- if one open came earlier, the text behind it would not have closed the other
  have notBefore : ∀ {early late : Nat},
      Innermost text early → Innermost text late → ¬ early < late := by
    rintro early late ⟨before, inner, rfl, rfl, innerBalanced⟩
      ⟨beforeLate, innerLate, split, rfl, lateBalanced⟩ shorter
    rcases List.append_eq_append_iff.mp split with ⟨middle, beforeEq, innerEq⟩ |
      ⟨middle, beforeEq, -⟩
    · cases middle with
      | nil =>
          rw [beforeEq] at shorter
          simp at shorter
      | cons head middle =>
          rw [List.cons_append] at innerEq
          obtain ⟨-, rfl⟩ := List.cons.inj innerEq
          exact innerBalanced.not_innermost _ ⟨middle, innerLate, rfl, rfl, lateBalanced⟩
    · rw [beforeEq, List.length_append] at shorter
      omega
  have := notBefore firstInnermost secondInnermost
  have := notBefore secondInnermost firstInnermost
  omega

namespace Unclosed

/-- The first of the unclosed opens is the innermost. -/
theorem innermost
    {text : List Char}
    {start : Nat}
    {outer : List Nat}
    (unclosed : Unclosed text (start :: outer)) :
    Innermost text start := by
  obtain ⟨before, inner, split, startEq, balanced, -⟩ := unclosed
  exact ⟨before, inner, split, startEq, balanced⟩

/-- The level of a text is the number of its unclosed opens. -/
theorem level_eq_length
    {text : List Char}
    {opens : List Nat}
    (unclosed : Unclosed text opens) :
    level text = opens.length := by
  induction opens generalizing text with
  | nil => exact Balanced.level_eq_zero unclosed
  | cons start outer inductionHypothesis =>
      obtain ⟨before, inner, rfl, -, balanced, outerUnclosed⟩ := unclosed
      rw [level_append, level_cons, weight_open, balanced.level_eq_zero,
        inductionHypothesis outerUnclosed, List.length_cons]
      push_cast
      ring

/-- A balanced text leaves the unclosed opens before it as they are. -/
theorem append
    {text more : List Char}
    {opens : List Nat}
    (unclosed : Unclosed text opens)
    (balanced : Balanced more) :
    Unclosed (text ++ more) opens := by
  cases opens with
  | nil => exact Balanced.append unclosed balanced
  | cons start outer =>
      obtain ⟨before, inner, rfl, startEq, innerBalanced, outerUnclosed⟩ := unclosed
      exact ⟨before, inner ++ more, by simp, startEq, innerBalanced.append balanced,
        outerUnclosed⟩

/-- An open joins the unclosed ones. -/
theorem push
    {text : List Char}
    {opens : List Nat}
    (unclosed : Unclosed text opens) :
    Unclosed (text ++ ['[']) (text.length :: opens) :=
  ⟨text, [], rfl, rfl, Balanced.nil, unclosed⟩

/-- A close removes the innermost of the unclosed opens. -/
theorem pop
    {text : List Char}
    {start : Nat}
    {outer : List Nat}
    (unclosed : Unclosed text (start :: outer)) :
    Unclosed (text ++ [']']) outer := by
  obtain ⟨before, inner, rfl, -, balanced, outerUnclosed⟩ := unclosed
  have shape : before ++ '[' :: inner ++ [']'] = before ++ '[' :: (inner ++ [']']) := by simp
  rw [shape]
  exact outerUnclosed.append balanced.enclose

/-- An unclosed open is an open, and no close that the text has belongs to it. -/
theorem not_partners
    {text : List Char}
    {start : Nat}
    {outer : List Nat}
    (unclosed : Unclosed text (start :: outer))
    (partner : Int) :
    ¬ Partners text start partner := by
  obtain ⟨before, inner, rfl, rfl, balanced, -⟩ := unclosed
  rintro ⟨first, last, encloses, ends⟩
  rcases ends with ⟨firstEq, -⟩ | ⟨lastEq, -⟩
  · obtain ⟨outside, enclosed, after, split, firstLength, -, enclosedBalanced⟩ := encloses
    have sameLength : before.length = outside.length := by omega
    obtain ⟨-, tailEq⟩ := List.append_inj split sameLength
    obtain ⟨-, rfl⟩ := List.cons.inj tailEq
    -- the text behind the open would already have closed it
    exact enclosedBalanced.not_append_close after balanced
  · obtain ⟨-, -, closed, -⟩ := encloses_iff.mp encloses
    obtain rfl : before.length = last := by omega
    simp at closed

end Unclosed

end Brackets

namespace LoopTable

/-- The positions of a table are listed once each, and they are those that have a partner. -/
def Listed (table : LoopTable) : Prop :=
  table.order.toList.Nodup ∧
    ∀ position, position ∈ table.order.toList ↔ (table.partner? position).isSome

theorem Listed.empty : Listed LoopTable.empty := by
  constructor
  · simp [LoopTable.empty]
  · intro position
    simp [LoopTable.empty, partner?]

/-- A position that has no partner yet is listed last. -/
theorem order_insert_of_fresh
    {table : LoopTable}
    {position : Int}
    (fresh : table.partner? position = none)
    (partner : Int) :
    (table.insert position partner).order = table.order.push position := by
  have absent : position ∉ table.partners := by
    simpa [partner?] using fresh
  simp [insert, absent]

/-- Entering a fresh position keeps the list right. -/
theorem Listed.insert
    {table : LoopTable}
    {position : Int}
    (listed : table.Listed)
    (fresh : table.partner? position = none)
    (partner : Int) :
    (table.insert position partner).Listed := by
  obtain ⟨nodup, present⟩ := listed
  have unlisted : position ∉ table.order.toList := by
    rw [present, fresh]
    simp
  constructor
  · rw [order_insert_of_fresh fresh, Array.toList_push]
    exact List.nodup_append.mpr ⟨nodup, by simp, by
      intro listedPosition member other isOther
      rw [List.mem_singleton] at isOther
      rintro rfl
      exact unlisted (isOther ▸ member)⟩
  · intro other
    rw [order_insert_of_fresh fresh, Array.toList_push, List.mem_append, List.mem_singleton,
      present, partner?_insert]
    by_cases same : position = other
    · simp [same]
    · simp [same, Ne.symm same]

end LoopTable

namespace Brackets

/-! ## The scan -/

/-- What the scan has established about the part of a program that it has read. -/
structure Scanned (text : List Char) (opens : List Nat) (table : LoopTable) : Prop where
  /-- The stack holds the opens that are not closed. -/
  unclosed : Unclosed text opens
  /-- The table holds the pairs of which one encloses the other. -/
  partners : ∀ position partner,
    table.partner? position = some partner ↔ Partners text position partner
  /-- Every bracket is on the stack or in the table. -/
  covered : ∀ position : Nat, IsBracket text position →
    position ∈ opens ∨ ∃ partner, Partners text position partner
  /-- The table lists its positions. -/
  listed : table.Listed
  /-- Every close has added two entries. -/
  size : table.size = 2 * text.count ']'

theorem Scanned.start : Scanned [] [] .empty where
  unclosed := Balanced.nil
  partners := by
    intro position partner
    rw [LoopTable.partner?_empty]
    constructor
    · intro found
      cases found
    · rintro ⟨start, stop, ⟨before, inner, after, split, -⟩, -⟩
      simp at split
  covered := by
    intro position isBracket
    simp [IsBracket] at isBracket
  listed := LoopTable.Listed.empty
  size := rfl

theorem isBracket_append_singleton
    {text : List Char}
    {character : Char}
    {position : Nat}
    (isBracket : IsBracket (text ++ [character]) position) :
    IsBracket text position ∨
      (position = text.length ∧ (character = '[' ∨ character = ']')) := by
  unfold IsBracket at isBracket ⊢
  rcases Nat.lt_trichotomy position text.length with before | here | behind
  · rw [List.getElem?_append_left before] at isBracket
    exact Or.inl isBracket
  · subst here
    rw [List.getElem?_concat_length, Option.some.injEq, Option.some.injEq] at isBracket
    exact Or.inr ⟨rfl, isBracket⟩
  · rw [List.getElem?_eq_none (by simp; omega)] at isBracket
    simp at isBracket

/-- Partners stay partners when the text goes on. -/
theorem Partners.append_singleton
    {text : List Char}
    {position partner : Int}
    (partners : Partners text position partner)
    (character : Char) :
    Partners (text ++ [character]) position partner := by
  obtain ⟨start, stop, encloses, ends⟩ := partners
  exact ⟨start, stop, encloses_append_singleton.mpr (Or.inl encloses), ends⟩

/-- A character other than a close makes no new partners. -/
theorem partners_append_of_ne_close
    {text : List Char}
    {character : Char}
    (notClose : character ≠ ']')
    (position partner : Int) :
    Partners (text ++ [character]) position partner ↔ Partners text position partner := by
  constructor
  · rintro ⟨start, stop, encloses, ends⟩
    rcases encloses_append_singleton.mp encloses with inText | ⟨isClose, -⟩
    · exact ⟨start, stop, inText, ends⟩
    · exact absurd isClose notClose
  · intro partners
    exact partners.append_singleton character

/-- A close and the innermost open become partners; all other partners stay. -/
theorem partners_append_close
    {text : List Char}
    {innermost : Nat}
    (isInnermost : Innermost text innermost)
    (position partner : Int) :
    Partners (text ++ [']']) position partner ↔
      (position = innermost ∧ partner = text.length) ∨
        (position = text.length ∧ partner = innermost) ∨ Partners text position partner := by
  constructor
  · rintro ⟨start, stop, encloses, ends⟩
    rcases encloses_append_singleton.mp encloses with inText | ⟨-, stopEq, startInnermost⟩
    · exact Or.inr (Or.inr ⟨start, stop, inText, ends⟩)
    · subst stopEq
      obtain rfl := startInnermost.unique isInnermost
      rcases ends with pair | pair
      · exact Or.inl pair
      · exact Or.inr (Or.inl pair)
  · have newPair : Encloses (text ++ [']']) innermost text.length :=
      encloses_append_singleton.mpr (Or.inr ⟨rfl, rfl, isInnermost⟩)
    rintro (pair | pair | old)
    · exact ⟨innermost, text.length, newPair, Or.inl pair⟩
    · exact ⟨innermost, text.length, newPair, Or.inr pair⟩
    · exact old.append_singleton ']'

namespace Scanned

/-- Reading an open puts its position on the stack. -/
theorem read_open
    {text : List Char}
    {opens : List Nat}
    {table : LoopTable}
    (scanned : Scanned text opens table) :
    Scanned (text ++ ['[']) (text.length :: opens) table where
  unclosed := scanned.unclosed.push
  partners := by
    intro position partner
    rw [scanned.partners, partners_append_of_ne_close (by decide)]
  covered := by
    intro position isBracket
    rcases isBracket_append_singleton isBracket with old | ⟨isNew, -⟩
    · rcases scanned.covered position old with waiting | ⟨partner, partners⟩
      · exact Or.inl (List.mem_cons_of_mem _ waiting)
      · exact Or.inr ⟨partner, partners.append_singleton '['⟩
    · exact Or.inl (by simp [isNew])
  listed := scanned.listed
  size := by
    rw [scanned.size]
    simp

theorem read_comment
    {text : List Char}
    {opens : List Nat}
    {table : LoopTable}
    {character : Char}
    (scanned : Scanned text opens table)
    (notOpen : character ≠ '[')
    (notClose : character ≠ ']') :
    Scanned (text ++ [character]) opens table where
  unclosed := scanned.unclosed.append (Balanced.singleton notOpen notClose)
  partners := by
    intro position partner
    rw [scanned.partners, partners_append_of_ne_close notClose]
  covered := by
    intro position isBracket
    rcases isBracket_append_singleton isBracket with old | ⟨-, isOpen | isClose⟩
    · rcases scanned.covered position old with waiting | ⟨partner, partners⟩
      · exact Or.inl waiting
      · exact Or.inr ⟨partner, partners.append_singleton character⟩
    · exact absurd isOpen notOpen
    · exact absurd isClose notClose
  listed := scanned.listed
  size := by
    rw [scanned.size]
    simp [notClose]

/-- Neither end of the loop that a close completes is in the table yet. -/
theorem fresh
    {text : List Char}
    {start : Nat}
    {outer : List Nat}
    {table : LoopTable}
    (scanned : Scanned text (start :: outer) table) :
    table.partner? start = none ∧ table.partner? text.length = none := by
  constructor
  · rw [Option.eq_none_iff_forall_ne_some]
    intro partner found
    exact scanned.unclosed.not_partners partner ((scanned.partners _ _).mp found)
  · rw [Option.eq_none_iff_forall_ne_some]
    intro partner found
    obtain ⟨index, indexEq, isBracket⟩ := ((scanned.partners _ _).mp found).isBracket
    obtain rfl : text.length = index := by omega
    simp [IsBracket] at isBracket

/-- Reading a close takes the innermost open from the stack and enters the loop. -/
theorem read_close
    {text : List Char}
    {start : Nat}
    {outer : List Nat}
    {table : LoopTable}
    (scanned : Scanned text (start :: outer) table) :
    Scanned (text ++ [']']) outer (table.insertLoop start text.length) := by
  obtain ⟨startFresh, stopFresh⟩ := scanned.fresh
  have innermost := scanned.unclosed.innermost
  have startInside : start < text.length := by
    obtain ⟨before, inner, split, startEq, -⟩ := innermost
    rw [split, List.length_append, List.length_cons]
    omega
  have stillFresh : (table.insert start text.length).partner? text.length = none := by
    rw [LoopTable.partner?_insert, if_neg (by omega), stopFresh]
  refine ⟨scanned.unclosed.pop, ?_, ?_, ?_, ?_⟩
  · intro position partner
    rw [partners_append_close innermost, ← scanned.partners, LoopTable.insertLoop,
      LoopTable.partner?_insert, LoopTable.partner?_insert]
    by_cases isStop : (text.length : Int) = position
    · subst isStop
      have notStart : (text.length : Int) ≠ start := by omega
      simp [notStart, stopFresh, eq_comm]
    · by_cases isStart : (start : Int) = position
      · subst isStart
        simp [isStop, startFresh, Ne.symm isStop, eq_comm]
      · simp [isStop, isStart, Ne.symm isStop, Ne.symm isStart]
  · intro position isBracket
    have newPair := fun first second =>
      (partners_append_close innermost first second).mpr
    rcases isBracket_append_singleton isBracket with old | ⟨isNew, -⟩
    · rcases scanned.covered position old with waiting | ⟨partner, partners⟩
      · rcases List.mem_cons.mp waiting with isStart | isOuter
        · exact Or.inr ⟨text.length, newPair _ _ (Or.inl ⟨by rw [isStart], rfl⟩)⟩
        · exact Or.inl isOuter
      · exact Or.inr ⟨partner, partners.append_singleton ']'⟩
    · exact Or.inr ⟨start, newPair _ _ (Or.inr (Or.inl ⟨by rw [isNew], rfl⟩))⟩
  · exact (scanned.listed.insert startFresh _).insert stillFresh _
  · have closes : (text ++ [']']).count ']' = text.count ']' + 1 := by simp
    have before := scanned.size
    rw [LoopTable.size] at before
    rw [LoopTable.size, LoopTable.insertLoop, LoopTable.order_insert_of_fresh stillFresh,
      LoopTable.order_insert_of_fresh startFresh, Array.size_push, Array.size_push, closes]
    omega

end Scanned

/-- What the result of a scan says about the whole program. -/
def Verdict (code : List Char) : Except LoneBracket LoopTable → Prop
  | .ok table => Scanned code [] table
  | .error ⟨position, .unmatchedClose⟩ =>
      ∃ before after, code = before ++ ']' :: after ∧ before.length = position ∧
        Balanced before
  | .error ⟨position, .unclosedOpen⟩ => ∃ outer, Unclosed code (position :: outer)

/-- A scan that goes on from what has been read gives a verdict on the whole program. -/
theorem Scanned.verdict
    (rest : List Char)
    {text : List Char}
    {opens : List Nat}
    {table : LoopTable}
    (scanned : Scanned text opens table) :
    Verdict (text ++ rest) (scanLoops rest text.length opens table) := by
  induction rest generalizing text opens table with
  | nil =>
      rw [List.append_nil]
      cases opens with
      | nil => exact scanned
      | cons innermost outer => exact ⟨outer, scanned.unclosed⟩
  | cons character rest inductionHypothesis =>
      have nextPosition (next : Char) : (text ++ [next]).length = text.length + 1 := by simp
      have shape (next : Char) : text ++ next :: rest = (text ++ [next]) ++ rest := by simp
      unfold scanLoops
      split_ifs with isOpen isClose
      · subst isOpen
        rw [shape, ← nextPosition '[']
        exact inductionHypothesis scanned.read_open
      · subst isClose
        cases opens with
        | nil => exact ⟨text, rest, rfl, rfl, scanned.unclosed⟩
        | cons start outer =>
            rw [shape, ← nextPosition ']']
            exact inductionHypothesis scanned.read_close
      · rw [shape, ← nextPosition character]
        exact inductionHypothesis (scanned.read_comment isOpen isClose)

/-- The verdict of the scan of a program from its start. -/
theorem verdict_scanLoops (code : List Char) :
    Verdict code (scanLoops code 0 [] .empty) :=
  Scanned.start.verdict code

theorem not_balanced_of_error
    {code : List Char}
    {bracket : LoneBracket}
    (verdict : Verdict code (.error bracket)) :
    ¬ Balanced code := by
  intro balanced
  obtain ⟨position, cause⟩ := bracket
  cases cause with
  | unmatchedClose =>
      obtain ⟨before, after, rfl, -, beforeBalanced⟩ := verdict
      exact beforeBalanced.not_append_close after balanced
  | unclosedOpen =>
      obtain ⟨outer, unclosed⟩ := verdict
      exact balanced.not_innermost position unclosed.innermost

/-- What an accepted program's table is. -/
theorem scanned_of_matchLoops
    {code : List Char}
    {table : LoopTable}
    (accepted : matchLoops code = .ok table) :
    Scanned code [] table := by
  have verdict := verdict_scanLoops code
  unfold matchLoops at accepted
  split at accepted
  · rename_i found scan
    rw [scan] at verdict
    cases accepted
    exact verdict
  · cases accepted

/-- A program is accepted exactly when it is balanced. -/
theorem exists_matchLoops_iff (code : List Char) :
    (∃ table, matchLoops code = .ok table) ↔ Balanced code := by
  constructor
  · rintro ⟨table, accepted⟩
    exact (scanned_of_matchLoops accepted).unclosed
  · intro balanced
    have verdict := verdict_scanLoops code
    unfold matchLoops
    cases scan : scanLoops code 0 [] .empty with
    | ok table => exact ⟨table, rfl⟩
    | error bracket =>
        rw [scan] at verdict
        exact absurd balanced (not_balanced_of_error verdict)

namespace Scanned

/-- The positions of a complete table are the positions of the brackets. -/
theorem isSome_partner?_iff
    {code : List Char}
    {table : LoopTable}
    (scanned : Scanned code [] table)
    (position : Int) :
    (table.partner? position).isSome ↔ ∃ index : Nat, position = index ∧ IsBracket code index := by
  rw [Option.isSome_iff_exists]
  constructor
  · rintro ⟨partner, found⟩
    exact ((scanned.partners _ _).mp found).isBracket
  · rintro ⟨index, rfl, isBracket⟩
    rcases scanned.covered index isBracket with waiting | ⟨partner, partners⟩
    · simp at waiting
    · exact ⟨partner, (scanned.partners _ _).mpr partners⟩

theorem loopCount_eq_count
    {code : List Char}
    {table : LoopTable}
    (scanned : Scanned code [] table) :
    table.loopCount = code.count '[' := by
  have levelZero := scanned.unclosed.level_eq_length
  rw [level, List.length_nil] at levelZero
  rw [LoopTable.loopCount, scanned.size]
  omega

end Scanned

/--
The matcher accepts exactly the balanced programs.  The table of an accepted program has the
brackets of the program as its positions, each listed once; it is an involution; it has as many
loops as the program has opens; and it sends an earlier position to a later one exactly when an
open stands at the first, a close at the second, and a balanced text between them.
-/
theorem matchLoops_matches_brackets (code : List Char) :
    ((∃ table, matchLoops code = .ok table) ↔ Balanced code) ∧
      ∀ table, matchLoops code = .ok table →
        (table.order.toList.Nodup ∧
          ∀ position : Int, position ∈ table.order.toList ↔
            ∃ index : Nat, position = index ∧
              (code[index]? = some '[' ∨ code[index]? = some ']')) ∧
        (∀ position : Int, (table.partner? position).isSome ↔
          position ∈ table.order.toList) ∧
        (∀ position partner : Int, table.partner? position = some partner →
          table.partner? partner = some position) ∧
        table.loopCount = code.count '[' ∧
        ∀ start stop : Nat, start < stop →
          (table.partner? start = some (stop : Int) ↔
            code[start]? = some '[' ∧ code[stop]? = some ']' ∧
              Balanced ((code.take stop).drop (start + 1))) := by
  refine ⟨exists_matchLoops_iff code, ?_⟩
  intro table accepted
  have scanned := scanned_of_matchLoops accepted
  obtain ⟨nodup, listed⟩ := scanned.listed
  refine ⟨⟨nodup, ?_⟩, ?_, ?_, scanned.loopCount_eq_count, ?_⟩
  · intro position
    rw [listed, scanned.isSome_partner?_iff]
    rfl
  · intro position
    rw [listed]
  · intro position partner found
    rw [scanned.partners] at found ⊢
    exact found.symm
  · intro start stop ordered
    rw [scanned.partners, partners_iff_encloses ordered, encloses_iff]
    simp [ordered]

/-- Two nested loops and one after them, with comments: the outer pair of three is found. -/
theorem matchLoops_matches_nested_loops :
    ∃ table, matchLoops "a[b[c]]d[]".toList = .ok table ∧ table.loopCount = 3 ∧
      table.partner? (1 : Nat) = some ((6 : Nat) : Int) ∧
      table.partner? (6 : Nat) = some ((1 : Nat) : Int) := by
  have accepted : matchLoops "a[b[c]]d[]".toList =
      .ok (((LoopTable.empty.insertLoop 3 5).insertLoop 1 6).insertLoop 8 9) := rfl
  obtain ⟨-, -, involution, loops, pairs⟩ :=
    (matchLoops_matches_brackets "a[b[c]]d[]".toList).2 _ accepted
  have inside : Balanced (("a[b[c]]d[]".toList.take 6).drop (1 + 1)) :=
    ⟨(0 : DyckWord).nest, rfl⟩
  have found := (pairs 1 6 (by decide)).mpr ⟨rfl, rfl, inside⟩
  exact ⟨_, accepted, loops, found, involution _ _ found⟩

end Brackets
end TapeMachine

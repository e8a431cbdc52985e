import Mathlib.Data.List.Forall2
import Mathlib.Tactic.Common
import TapeMachine.Loops

/-!
# Brackets among comments

Leaving out the comments of a text leaves its sequence of commands.  Two texts with the same
sequence differ only in where the commands stand: the command with a given number stands at some
position of either text.

The matcher does not see the difference.  Scanning a text takes the same course as scanning its
commands alone, with positions in the place of numbers.  So texts with the same sequence are
rejected for the same command and the same cause, or both accepted with tables that pair the same
commands.
-/

namespace TapeMachine
namespace Command

/-- The commands of a text, without its comments. -/
def sequence (text : List Char) : List Command :=
  text.filterMap ofChar?

@[simp] theorem sequence_nil : sequence [] = [] := rfl

@[simp] theorem sequence_append (left right : List Char) :
    sequence (left ++ right) = sequence left ++ sequence right :=
  List.filterMap_append

@[simp] theorem sequence_symbol (command : Command) (text : List Char) :
    sequence (command.symbol :: text) = command :: sequence text :=
  List.filterMap_cons_some (ofChar?_symbol command)

theorem sequence_comment
    {character : Char}
    (isComment : ofChar? character = none)
    (text : List Char) :
    sequence (character :: text) = sequence text :=
  List.filterMap_cons_none isComment

/-! ## Places of commands -/

/-- The command with a number, counted from zero, stands at a position of a text. -/
def StandsAt (text : List Char) (number position : Nat) : Prop :=
  ∃ (before : List Char) (command : Command) (after : List Char),
    text = before ++ command.symbol :: after ∧ before.length = position ∧
      (sequence before).length = number

/-- The same command of two texts stands at a position of one and at a position of the other. -/
def SamePlace (left right : List Char) (position other : Nat) : Prop :=
  ∃ number, StandsAt left number position ∧ StandsAt right number other

namespace StandsAt

variable {text : List Char} {number position other : Nat}

/-- A text has the command that stands in it, under its number and at its position. -/
theorem getElem?_eq
    (stands : StandsAt text number position) :
    ∃ command, (sequence text)[number]? = some command ∧
      text[position]? = some command.symbol := by
  obtain ⟨before, command, after, rfl, rfl, rfl⟩ := stands
  refine ⟨command, ?_, by simp⟩
  rw [sequence_append, sequence_symbol]
  simp

theorem lt_of_lt
    {first second : Nat}
    (firstStands : StandsAt text first position)
    (secondStands : StandsAt text second other)
    (earlier : position < other) :
    first < second := by
  obtain ⟨before, command, after, rfl, rfl, rfl⟩ := firstStands
  obtain ⟨longer, last, rest, split, rfl, rfl⟩ := secondStands
  rcases List.append_eq_append_iff.mp split with ⟨middle, longerEq, middleEq⟩ |
    ⟨middle, beforeEq, -⟩
  · cases middle with
    | nil =>
        rw [longerEq] at earlier
        simp at earlier
    | cons head middle =>
        -- the first command is among what comes before the second one
        obtain ⟨rfl, -⟩ := List.cons.inj middleEq
        rw [longerEq, sequence_append, sequence_symbol, List.length_append, List.length_cons]
        omega
  · rw [beforeEq, List.length_append] at earlier
    omega

theorem position_unique
    (stands : StandsAt text number position)
    (standsToo : StandsAt text number other) :
    position = other := by
  rcases Nat.lt_trichotomy position other with earlier | same | later
  · exact absurd (stands.lt_of_lt standsToo earlier) (Nat.lt_irrefl number)
  · exact same
  · exact absurd (standsToo.lt_of_lt stands later) (Nat.lt_irrefl number)

theorem number_unique
    {first second : Nat}
    (firstStands : StandsAt text first position)
    (secondStands : StandsAt text second position) :
    first = second := by
  obtain ⟨before, _, _, rfl, rfl, rfl⟩ := firstStands
  obtain ⟨longer, _, _, split, sameLength, rfl⟩ := secondStands
  obtain ⟨rfl, -⟩ := List.append_inj split sameLength.symm
  rfl

end StandsAt
end Command

/-! ## Tables by number and by position -/

namespace LoopTable

open Command (StandsAt)

/-- A table pairs the numbers of the commands whose positions another table pairs. -/
def Mirrors (text : List Char) (plain table : LoopTable) : Prop :=
  ∀ number position : Nat, StandsAt text number position →
    (plain.partner? number = none ∧ table.partner? position = none) ∨
      ∃ otherNumber otherPosition : Nat, plain.partner? number = some (otherNumber : Int) ∧
        table.partner? position = some (otherPosition : Int) ∧
        StandsAt text otherNumber otherPosition

namespace Mirrors

variable {text : List Char} {plain table : LoopTable}

theorem empty (text : List Char) : Mirrors text .empty .empty := by
  intro number position _
  exact Or.inl ⟨partner?_empty _, partner?_empty _⟩

/-- Entering a pair of commands in both tables keeps them alike. -/
theorem insert
    {number position otherNumber otherPosition : Nat}
    (mirrors : Mirrors text plain table)
    (stands : StandsAt text number position)
    (standsToo : StandsAt text otherNumber otherPosition) :
    Mirrors text (plain.insert number otherNumber) (table.insert position otherPosition) := by
  intro asked askedPosition askedStands
  rw [partner?_insert, partner?_insert]
  by_cases same : number = asked
  · subst same
    obtain rfl := stands.position_unique askedStands
    rw [if_pos rfl, if_pos rfl]
    exact Or.inr ⟨otherNumber, otherPosition, rfl, rfl, standsToo⟩
  · have differs : position ≠ askedPosition := by
      rintro rfl
      exact same (stands.number_unique askedStands)
    rw [if_neg (by omega), if_neg (by omega)]
    exact mirrors asked askedPosition askedStands

theorem insertLoop
    {number position otherNumber otherPosition : Nat}
    (mirrors : Mirrors text plain table)
    (stands : StandsAt text number position)
    (standsToo : StandsAt text otherNumber otherPosition) :
    Mirrors text (plain.insertLoop number otherNumber)
      (table.insertLoop position otherPosition) :=
  (mirrors.insert stands standsToo).insert standsToo stands

end Mirrors
end LoopTable

/-! ## The scan -/

namespace Brackets

open Command (StandsAt SamePlace sequence)

/-- A scan of commands alone comes to the same as a scan of a text. -/
inductive SameVerdict (text : List Char) :
    Except LoneBracket LoopTable → Except LoneBracket LoopTable → Prop
  /-- Both accept, with tables that pair the same commands. -/
  | accepted
      {plain table : LoopTable}
      (mirrors : plain.Mirrors text table) :
      SameVerdict text (.ok plain) (.ok table)
  /-- Both reject, for the same command. -/
  | rejected
      {number position : Nat}
      {cause : RejectionCause}
      (stands : StandsAt text number position) :
      SameVerdict text (.error ⟨number, cause⟩) (.error ⟨position, cause⟩)

theorem scanLoops_open
    (rest : List Char)
    (position : Nat)
    (opens : List Nat)
    (table : LoopTable) :
    scanLoops ('[' :: rest) position opens table =
      scanLoops rest (position + 1) (position :: opens) table := by
  cases opens with
  | nil => rfl
  | cons start outer => rfl

theorem scanLoops_of_ne
    {character : Char}
    (notOpen : character ≠ '[')
    (notClose : character ≠ ']')
    (rest : List Char)
    (position : Nat)
    (opens : List Nat)
    (table : LoopTable) :
    scanLoops (character :: rest) position opens table =
      scanLoops rest (position + 1) opens table := by
  cases opens with
  | nil => rw [scanLoops, if_neg notOpen, if_neg notClose]
  | cons start outer => rw [scanLoops, if_neg notOpen, if_neg notClose]

/-- Scanning the rest of a text takes the same course as scanning the rest of its commands. -/
theorem sameVerdict_scanLoops
    (rest : List Char)
    {text done : List Char}
    {numbers positions : List Nat}
    {plain table : LoopTable}
    (split : text = done ++ rest)
    (opens : List.Forall₂ (StandsAt text) numbers positions)
    (mirrors : plain.Mirrors text table) :
    SameVerdict text
      (scanLoops ((sequence rest).map Command.symbol) (sequence done).length numbers plain)
      (scanLoops rest done.length positions table) := by
  induction rest generalizing done numbers positions plain table with
  | nil =>
      cases opens with
      | nil => exact .accepted mirrors
      | cons stands _ => exact .rejected stands
  | cons character rest inductionHypothesis =>
      have further : text = (done ++ [character]) ++ rest := by simp [split]
      have nextPosition : (done ++ [character]).length = done.length + 1 := by simp
      have onward {numbers positions : List Nat} {plain table : LoopTable}
          (opens : List.Forall₂ (StandsAt text) numbers positions)
          (mirrors : plain.Mirrors text table) :=
        inductionHypothesis further opens mirrors
      rw [nextPosition] at onward
      cases meaning : Command.ofChar? character with
      | none =>
          have sameNumber : (sequence (done ++ [character])).length = (sequence done).length := by
            rw [Command.sequence_append, Command.sequence_comment meaning]
            simp
          have notOpen : character ≠ '[' := by
            rintro rfl
            cases meaning
          have notClose : character ≠ ']' := by
            rintro rfl
            cases meaning
          rw [sameNumber] at onward
          rw [Command.sequence_comment meaning, scanLoops_of_ne notOpen notClose]
          exact onward opens mirrors
      | some command =>
          obtain rfl := Command.ofChar?_eq_some_iff.mp meaning
          have here : StandsAt text (sequence done).length done.length :=
            ⟨done, command, rest, split, rfl, rfl⟩
          have nextNumber :
              (sequence (done ++ [command.symbol])).length = (sequence done).length + 1 := by
            simp
          rw [nextNumber] at onward
          rw [Command.sequence_symbol, List.map_cons]
          cases command with
          | loopOpen =>
              change SameVerdict text (scanLoops ('[' :: _) _ _ _) (scanLoops ('[' :: _) _ _ _)
              rw [scanLoops_open, scanLoops_open]
              exact onward (.cons here opens) mirrors
          | loopClose =>
              cases opens with
              | nil => exact .rejected here
              | cons stands outer => exact onward outer (mirrors.insertLoop stands here)
          | increment | decrement | moveLeft | moveRight | output | input =>
              rw [scanLoops_of_ne (by decide) (by decide), scanLoops_of_ne (by decide) (by decide)]
              exact onward opens mirrors

theorem sameVerdict_sequence (text : List Char) :
    SameVerdict text (scanLoops ((sequence text).map Command.symbol) 0 [] .empty)
      (scanLoops text 0 [] .empty) :=
  sameVerdict_scanLoops text (List.nil_append text).symm .nil (.empty text)

/-- Texts with the same commands are accepted with alike tables, or rejected at the same command. -/
theorem matchLoops_cases_of_sequence_eq
    {left right : List Char}
    (same : sequence left = sequence right) :
    (∃ plain table other : LoopTable, matchLoops left = .ok table ∧
      matchLoops right = .ok other ∧ plain.Mirrors left table ∧ plain.Mirrors right other) ∨
    ∃ (position other : Nat) (cause : RejectionCause),
      matchLoops left = .error ⟨.ofOffset left position, cause⟩ ∧
      matchLoops right = .error ⟨.ofOffset right other, cause⟩ ∧
      SamePlace left right position other := by
  have leftVerdict := sameVerdict_sequence left
  have rightVerdict := sameVerdict_sequence right
  rw [same] at leftVerdict
  unfold matchLoops
  -- both texts are compared with the scan of the commands that they share
  generalize scanLoops ((sequence right).map Command.symbol) 0 [] .empty = plainScan
    at leftVerdict rightVerdict
  generalize scanLoops left 0 [] .empty = leftScan at leftVerdict ⊢
  generalize scanLoops right 0 [] .empty = rightScan at rightVerdict ⊢
  cases leftVerdict with
  | accepted leftMirrors =>
      cases rightVerdict with
      | accepted rightMirrors => exact Or.inl ⟨_, _, _, rfl, rfl, leftMirrors, rightMirrors⟩
  | rejected leftStands =>
      cases rightVerdict with
      | rejected rightStands =>
          exact Or.inr ⟨_, _, _, rfl, rfl, _, leftStands, rightStands⟩

end Brackets
end TapeMachine

import Mathlib.Combinatorics.Enumerative.DyckWord

/-!
# Balanced texts

The brackets of a text, read as steps up and down, form a word.  A text is balanced when that
word is a Dyck word.  Characters that are no brackets play no part in this.

The proofs work with the level of a text, the number of brackets that it opens less the number
that it closes: a text is balanced exactly when its level is zero and no beginning of it has a
negative level.
-/

namespace TapeMachine
namespace Brackets

/-- The step that a bracket takes; other characters take none. -/
def step? (character : Char) : Option DyckStep :=
  if character = '[' then some .U else if character = ']' then some .D else none

/-- The brackets of a text. -/
def word (text : List Char) : List DyckStep :=
  text.filterMap step?

/-- The brackets of a text form a Dyck word. -/
def Balanced (text : List Char) : Prop :=
  ∃ dyck : DyckWord, dyck.toList = word text

/-- The number of brackets that a text opens, less the number that it closes. -/
def level (text : List Char) : Int :=
  (text.count '[' : Int) - text.count ']'

/-- What a character adds to the level. -/
def weight (character : Char) : Int :=
  if character = '[' then 1 else if character = ']' then -1 else 0

@[simp] theorem weight_open : weight '[' = 1 := rfl

@[simp] theorem weight_close : weight ']' = -1 := rfl

theorem weight_of_ne
    {character : Char}
    (notOpen : character ≠ '[')
    (notClose : character ≠ ']') :
    weight character = 0 := by
  rw [weight, if_neg notOpen, if_neg notClose]

@[simp] theorem level_nil : level [] = 0 := rfl

@[simp] theorem level_cons (character : Char) (rest : List Char) :
    level (character :: rest) = weight character + level rest := by
  unfold level
  by_cases isOpen : character = '['
  · subst isOpen
    rw [List.count_cons_self, List.count_cons_of_ne (by decide), weight_open]
    push_cast
    ring
  · by_cases isClose : character = ']'
    · subst isClose
      rw [List.count_cons_self, List.count_cons_of_ne (by decide), weight_close]
      push_cast
      ring
    · rw [weight_of_ne isOpen isClose, List.count_cons_of_ne isOpen,
        List.count_cons_of_ne isClose, zero_add]

@[simp] theorem level_append (left right : List Char) :
    level (left ++ right) = level left + level right := by
  unfold level
  rw [List.count_append, List.count_append]
  push_cast
  ring

@[simp] theorem word_open (rest : List Char) : word ('[' :: rest) = .U :: word rest := rfl

@[simp] theorem word_close (rest : List Char) : word (']' :: rest) = .D :: word rest := rfl

theorem word_of_ne
    {character : Char}
    (notOpen : character ≠ '[')
    (notClose : character ≠ ']')
    (rest : List Char) :
    word (character :: rest) = word rest := by
  simp [word, step?, notOpen, notClose]

/-- The level counts the steps of the word. -/
theorem level_eq_count_word (text : List Char) :
    level text = ((word text).count .U : Int) - (word text).count .D := by
  induction text with
  | nil => simp [word]
  | cons character rest inductionHypothesis =>
      rw [level_cons, inductionHypothesis]
      by_cases isOpen : character = '['
      · subst isOpen
        rw [word_open, List.count_cons_self, List.count_cons_of_ne (by decide), weight_open]
        push_cast
        ring
      · by_cases isClose : character = ']'
        · subst isClose
          rw [word_close, List.count_cons_self, List.count_cons_of_ne (by decide), weight_close]
          push_cast
          ring
        · rw [word_of_ne isOpen isClose, weight_of_ne isOpen isClose, zero_add]

/-- A text is balanced when its level is zero and no beginning of it has a negative level. -/
theorem balanced_iff {text : List Char} :
    Balanced text ↔
      level text = 0 ∧ ∀ before after, text = before ++ after → 0 ≤ level before := by
  constructor
  · rintro ⟨dyck, spelled⟩
    constructor
    · rw [level_eq_count_word, ← spelled, dyck.count_U_eq_count_D]
      ring
    · intro before after split
      have beginning : word before = dyck.toList.take (word before).length := by
        rw [spelled, split]
        simp [word]
      have bound := dyck.count_D_le_count_U (word before).length
      rw [← beginning] at bound
      rw [level_eq_count_word]
      omega
  · rintro ⟨levelZero, nonnegative⟩
    refine ⟨⟨word text, ?_, ?_⟩, rfl⟩
    · rw [level_eq_count_word] at levelZero
      omega
    · intro size
      -- a beginning of the word is the word of a beginning of the text
      have split : word text = (word text).take size ++ (word text).drop size :=
        (List.take_append_drop size (word text)).symm
      obtain ⟨before, after, textSplit, wordBefore, -⟩ := List.filterMap_eq_append_iff.mp split
      have bound := nonnegative before after textSplit
      rw [level_eq_count_word, word, wordBefore] at bound
      omega

namespace Balanced

/-- A balanced text closes as many brackets as it opens. -/
theorem level_eq_zero
    {text : List Char}
    (balanced : Balanced text) :
    level text = 0 :=
  (balanced_iff.mp balanced).1

/-- No beginning of a balanced text closes more brackets than it opens. -/
theorem level_nonneg
    {before after : List Char}
    (balanced : Balanced (before ++ after)) :
    0 ≤ level before :=
  (balanced_iff.mp balanced).2 before after rfl

theorem nil : Balanced [] :=
  ⟨0, rfl⟩

theorem singleton
    {character : Char}
    (notOpen : character ≠ '[')
    (notClose : character ≠ ']') :
    Balanced [character] := by
  refine ⟨0, ?_⟩
  rw [word_of_ne notOpen notClose]
  rfl

theorem append
    {left right : List Char}
    (leftBalanced : Balanced left)
    (rightBalanced : Balanced right) :
    Balanced (left ++ right) := by
  obtain ⟨leftWord, leftSpelled⟩ := leftBalanced
  obtain ⟨rightWord, rightSpelled⟩ := rightBalanced
  refine ⟨leftWord + rightWord, ?_⟩
  change leftWord.toList ++ rightWord.toList = word (left ++ right)
  rw [leftSpelled, rightSpelled]
  simp [word]

/-- A balanced text may stand inside a pair of brackets. -/
theorem enclose
    {inner : List Char}
    (balanced : Balanced inner) :
    Balanced ('[' :: (inner ++ [']'])) := by
  obtain ⟨dyck, spelled⟩ := balanced
  refine ⟨dyck.nest, ?_⟩
  change [DyckStep.U] ++ dyck.toList ++ [DyckStep.D] = word ('[' :: (inner ++ [']']))
  rw [spelled]
  simp [word, step?]

/-- What follows a balanced beginning of a balanced text is balanced. -/
theorem of_append
    {left right : List Char}
    (balanced : Balanced (left ++ right))
    (levelZero : level left = 0) :
    Balanced right := by
  rw [balanced_iff]
  constructor
  · have total := balanced.level_eq_zero
    rw [level_append, levelZero] at total
    omega
  · intro before after split
    rw [split, ← List.append_assoc] at balanced
    have bound := balanced.level_nonneg
    rw [level_append, levelZero] at bound
    omega

end Balanced

/--
A text that brings a level below zero does so at a close; up to there it returns the level to
zero without falling below it.
-/
theorem exists_descent
    (text : List Char)
    (start : Int)
    (startNonneg : 0 ≤ start)
    (descends : start + level text < 0) :
    ∃ inner after, text = inner ++ ']' :: after ∧ start + level inner = 0 ∧
      ∀ before rest, inner = before ++ rest → 0 ≤ start + level before := by
  induction text generalizing start with
  | nil =>
      rw [level_nil] at descends
      omega
  | cons character rest inductionHypothesis =>
      rw [level_cons] at descends
      by_cases stays : 0 ≤ start + weight character
      · obtain ⟨inner, after, split, returns, nonnegative⟩ :=
          inductionHypothesis (start + weight character) stays (by omega)
        refine ⟨character :: inner, after, by rw [split]; rfl, ?_, ?_⟩
        · rw [level_cons]
          omega
        · intro before remainder beforeSplit
          cases before with
          | nil => simpa using startNonneg
          | cons head tail =>
              obtain ⟨rfl, tailSplit⟩ := List.cons.inj beforeSplit
              have bound := nonnegative tail remainder tailSplit
              rw [level_cons]
              omega
      · have isClose : character = ']' := by
          by_contra notClose
          have : 0 ≤ weight character := by
            unfold weight
            split_ifs <;> omega
          omega
        subst isClose
        rw [weight_close] at stays
        refine ⟨[], rest, rfl, ?_, ?_⟩
        · rw [level_nil]
          omega
        · intro before remainder beforeSplit
          obtain ⟨rfl, -⟩ := List.append_eq_nil_iff.mp beforeSplit.symm
          simpa using startNonneg

/-- A balanced text that opens a bracket closes it again, with balanced texts inside and after. -/
theorem Balanced.exists_close
    {rest : List Char}
    (balanced : Balanced ('[' :: rest)) :
    ∃ inner after, rest = inner ++ ']' :: after ∧ Balanced inner ∧ Balanced after := by
  have total := balanced.level_eq_zero
  rw [level_cons, weight_open] at total
  obtain ⟨inner, after, split, returns, nonnegative⟩ :=
    exists_descent rest 0 le_rfl (by omega)
  have innerBalanced : Balanced inner := by
    rw [balanced_iff]
    exact ⟨by omega, fun before remainder beforeSplit => by
      have := nonnegative before remainder beforeSplit
      omega⟩
  refine ⟨inner, after, split, innerBalanced, ?_⟩
  have shape : '[' :: rest = ('[' :: (inner ++ [']'])) ++ after := by
    simp [split]
  rw [shape] at balanced
  exact balanced.of_append innerBalanced.enclose.level_eq_zero

/-- A close behind a balanced text has no partner there, so the whole is not balanced. -/
theorem Balanced.not_append_close
    {before : List Char}
    (balanced : Balanced before)
    (after : List Char) :
    ¬ Balanced (before ++ ']' :: after) := by
  intro whole
  have shape : before ++ ']' :: after = (before ++ [']']) ++ after := by simp
  rw [shape] at whole
  have bound := whole.level_nonneg
  rw [level_append, balanced.level_eq_zero, level_cons, weight_close, level_nil] at bound
  omega

theorem Balanced.head_ne_close
    {character : Char}
    {rest : List Char}
    (balanced : Balanced (character :: rest)) :
    character ≠ ']' := by
  rintro rfl
  exact Balanced.nil.not_append_close rest balanced

end Brackets
end TapeMachine

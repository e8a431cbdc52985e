import Mathlib.Data.List.TakeWhile
import Mathlib.Tactic.Common
import TapeMachine.Text.Blank
import TapeMachine.Text.Integer
import TapeMachine.Text.Letter

/-!
# Spellings of names and numbers

A name may be spelled with blanks around it and in any mix of upper and lower case; taking the
blanks off and putting the rest in lower case gives the name back.  A number is spelled by its
decimal, and reading the decimal gives the number back unless it has too many digits.
-/

namespace TapeMachine
namespace Text

/-! ## Names -/

/-- Nothing is dropped from a row of characters none of which may be dropped. -/
theorem dropWhile_of_forall_not
    {drops : Char → Bool}
    {characters : List Char}
    (keeps : ∀ character ∈ characters, ¬ drops character) :
    characters.dropWhile drops = characters := by
  cases characters with
  | nil => rfl
  | cons first rest => exact List.dropWhile_cons_of_neg (keeps first List.mem_cons_self)

/-- Trimming takes off what may be dropped on both sides of a word that has to be kept. -/
theorem trimBoth_append
    {drops : Char → Bool}
    {before word after : List Char}
    (dropsBefore : ∀ character ∈ before, drops character)
    (keeps : ∀ character ∈ word, ¬ drops character)
    (dropsAfter : ∀ character ∈ after, drops character) :
    trimBoth drops (before ++ word ++ after) = word := by
  have dropsReverse : ∀ character ∈ after.reverse, drops character :=
    fun character member => dropsAfter character (List.mem_reverse.mp member)
  have keepsReverse : ∀ character ∈ word.reverse, ¬ drops character :=
    fun character member => keeps character (List.mem_reverse.mp member)
  rw [trimBoth, List.append_assoc, List.dropWhile_append_of_pos dropsBefore]
  cases word with
  | nil =>
      have nothing : after.dropWhile drops = [] := List.dropWhile_eq_nil_iff.mpr dropsAfter
      rw [List.nil_append, nothing]
      rfl
  | cons first rest =>
      rw [List.cons_append, List.dropWhile_cons_of_neg (keeps first List.mem_cons_self),
        ← List.cons_append, List.reverse_append, List.dropWhile_append_of_pos dropsReverse,
        dropWhile_of_forall_not keepsReverse, List.reverse_reverse]

/-- A character that is blank is so in lower case. -/
theorem toLower_of_isBlank
    {character : Char}
    (blank : isBlank character) :
    character.toLower = character := by
  unfold Char.toLower
  split_ifs with upper
  · exfalso
    have low : 65 ≤ character.toNat := UInt32.le_iff_toNat_le.mp upper.1
    have high : character.toNat ≤ 90 := UInt32.le_iff_toNat_le.mp upper.2
    simp only [isBlank, blankRanges, List.any_cons, List.any_nil, Bool.or_false, Bool.or_eq_true,
      Bool.and_eq_true, decide_eq_true_eq] at blank
    omega
  · rfl

/-- A text spells a name if it is the name in any mix of cases with any blanks around it. -/
def Spells (text name : String) : Prop :=
  ∃ before word after : List Char,
    text.toList = before ++ word ++ after ∧
      (∀ character ∈ before, isBlank character) ∧
      (∀ character ∈ after, isBlank character) ∧
      word.map Char.toLower = name.toList

/-- A name has no blanks and is in lower case. -/
def IsPlain (name : String) : Prop :=
  ∀ character ∈ name.toList, ¬ isBlank character ∧ character.toLower = character

instance (name : String) : Decidable (IsPlain name) :=
  List.decidableBAll _ name.toList

/-- A plain name spells itself. -/
theorem spells_self
    {name : String}
    (plain : IsPlain name) :
    Spells name name := by
  have lower : name.toList.map Char.toLower = name.toList :=
    calc
      name.toList.map Char.toLower = name.toList.map id :=
        List.map_congr_left fun character member => (plain character member).2
      _ = name.toList := List.map_id _
  refine ⟨[], name.toList, [], ?_, ?_, ?_, lower⟩
  · rw [List.nil_append, List.append_nil]
  · exact fun character member => absurd member List.not_mem_nil
  · exact fun character member => absurd member List.not_mem_nil

/--
The name that a text spells is what is left of it in lower case when its blanks are taken off.
-/
theorem Spells.lowerCase_strip
    {text name : String}
    (spells : Spells text name)
    (plain : IsPlain name) :
    lowerCase (strip text) = name := by
  obtain ⟨before, word, after, parts, blankBefore, blankAfter, sameName⟩ := spells
  have keeps : ∀ character ∈ word, ¬ isBlank character := by
    intro character member blank
    have lower : character.toLower ∈ name.toList := by
      rw [← sameName]
      exact List.mem_map_of_mem member
    rw [toLower_of_isBlank blank] at lower
    exact (plain character lower).1 blank
  rw [strip, parts, trimBoth_append blankBefore keeps blankAfter, lowerCase, String.toList_ofList,
    sameName, String.ofList_toList]

/-! ## Numbers -/

theorem toNat_of_isDigit
    {character : Char}
    (isDigit : character.isDigit) :
    48 ≤ character.toNat ∧ character.toNat ≤ 57 := by
  simp only [Char.isDigit, Bool.and_eq_true, decide_eq_true_eq] at isDigit
  exact ⟨UInt32.le_iff_toNat_le.mp isDigit.1, UInt32.le_iff_toNat_le.mp isDigit.2⟩

/-- The value of a digit of a decimal. -/
theorem digitValue?_of_isDigit
    {character : Char}
    (isDigit : character.isDigit) :
    digitValue? character = some (character.toNat - '0'.toNat) := by
  obtain ⟨low, high⟩ := toNat_of_isDigit isDigit
  have inFirst :
      (decide (0x30 ≤ character.toNat) && decide (character.toNat < 0x30 + 10)) = true := by
    simp only [Bool.and_eq_true, decide_eq_true_eq]
    omega
  have found : (digitZeros.find? fun start =>
      start ≤ character.toNat && character.toNat < start + 10) = some 0x30 := by
    rw [digitZeros]
    exact List.find?_cons_of_pos inFirst
  rw [digitValue?, found]
  rfl

/-- A row of digits is read digit by digit. -/
theorem digitRow_of_forall_isDigit
    {characters : List Char}
    (nonempty : characters ≠ [])
    (digits : ∀ character ∈ characters, character.isDigit) :
    digitRow characters =
      some (characters.map fun character => character.toNat - '0'.toNat) := by
  induction characters with
  | nil => exact absurd rfl nonempty
  | cons first rest inductionHypothesis =>
      obtain ⟨isDigit, areDigits⟩ := List.forall_mem_cons.mp digits
      rw [digitRow, digitValue?_of_isDigit isDigit]
      cases rest with
      | nil => rfl
      | cons second others =>
          have notUnderscore : second ≠ '_' := by
            rintro rfl
            exact absurd (areDigits '_' List.mem_cons_self) (by decide)
          have remaining := inductionHypothesis (List.cons_ne_nil second others) areDigits
          simp only
          split
          · rename_i same
            cases same
          · rename_i same
            cases same
            exact absurd rfl notUnderscore
          · rw [remaining]
            rfl

/-- The digits of a decimal stand for its number. -/
theorem ofDigits_toDigits (number : Nat) :
    ofDigits 10 ((Nat.toDigits 10 number).map fun character => character.toNat - '0'.toNat) =
      number := by
  rw [ofDigits, List.foldl_map]
  simp only [Nat.mul_comm _ 10]
  rw [← Nat.ofDigitChars_eq_foldl, Nat.ofDigitChars_ten_toDigits]

/-- A row that begins with a digit has no sign. -/
theorem splitSign_of_isDigit
    {first : Char}
    {rest : List Char}
    (isDigit : first.isDigit) :
    splitSign (first :: rest) = (false, first :: rest) := by
  unfold splitSign
  split
  · rename_i same
    cases same
    exact absurd isDigit (by decide)
  · rename_i same
    cases same
    exact absurd isDigit (by decide)
  · rfl

theorem not_isNumberSpace_of_isDigit
    {character : Char}
    (isDigit : character.isDigit) :
    ¬ isNumberSpace character := by
  obtain ⟨low, high⟩ := toNat_of_isDigit isDigit
  simp only [isNumberSpace, isBlank, blankRanges, List.any_cons, List.any_nil, Bool.or_false,
    Bool.or_eq_true, Bool.and_eq_true, decide_eq_true_eq]
  omega

/-- Reading the decimal of a number gives the number if it has no more digits than allowed. -/
theorem readInteger_toString
    {number : Nat}
    (short : (toString number).length ≤ digitLimit) :
    readInteger (toString number) = .ok (number : Int) := by
  have characters : (toString number).toList = Nat.toDigits 10 number := by
    rw [Nat.toString_eq_repr, Nat.toList_repr]
  have digits : ∀ character ∈ Nat.toDigits 10 number, character.isDigit :=
    fun character member => Nat.isDigit_of_mem_toDigits (by decide) (by decide) member
  have solid : ∀ character ∈ Nat.toDigits 10 number, ¬ isNumberSpace character :=
    fun character member => not_isNumberSpace_of_isDigit (digits character member)
  have trimmed : trimBoth isNumberSpace (Nat.toDigits 10 number) = Nat.toDigits 10 number := by
    have nothing : ∀ character ∈ ([] : List Char), isNumberSpace character :=
      fun character member => absurd member List.not_mem_nil
    have whole := trimBoth_append nothing solid nothing
    rwa [List.nil_append, List.append_nil] at whole
  have unsigned : splitSign (Nat.toDigits 10 number) = (false, Nat.toDigits 10 number) := by
    obtain ⟨first, rest, row⟩ := List.exists_cons_of_ne_nil (@Nat.toDigits_ne_nil number 10)
    rw [row] at digits ⊢
    exact splitSign_of_isDigit (digits first List.mem_cons_self)
  have within : ¬ digitLimit < (Nat.toDigits 10 number).length := by
    rw [← characters, String.length_toList]
    exact Nat.not_lt.mpr short
  simp only [readInteger, characters, trimmed, unsigned,
    digitRow_of_forall_isDigit Nat.toDigits_ne_nil digits, List.length_map, if_neg within,
    ofDigits_toDigits, Bool.false_eq_true, if_false]

end Text
end TapeMachine

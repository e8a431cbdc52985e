import Mathlib.Algebra.Ring.Nat
import Mathlib.Tactic.Common
import TapeMachine.Text.Pad

/-!
# Rows of a table

A row of a table is a heading and then pieces with a separator between them.  Pieces of one width
stand below each other, so that a piece is found by counting characters.  Pieces of any width are
found by counting words, if there are blanks between them and none inside.
-/

namespace TapeMachine
namespace Text

/--
The field of a row with a number, behind a heading and the fields before it, which have one width.
-/
def field (heading width : Nat) (row : List Char) (number : Nat) : List Char :=
  (row.drop (heading + (width + 1) * number)).take width

/-- The words of a text, which are what stands between its blanks. -/
def words (text : List Char) : List (List Char) :=
  (text.splitOn ' ').filter fun word => !word.isEmpty

/-! ## Fields -/

section Fields

variable {pieces : List (List Char)} {width : Nat} {separator : Char}

/--
Where a piece of a row begins: behind the pieces before it and a separator after each of them.
-/
def offset (pieces : List (List Char)) (number : Nat) : Nat :=
  ((pieces.take number).map fun piece => piece.length + 1).sum

theorem offset_cons_succ (first : List Char) (others : List (List Char)) (number : Nat) :
    offset (first :: others) (number + 1) = first.length + 1 + offset others number := by
  rw [offset, List.take_succ_cons, List.map_cons, List.sum_cons, offset]

/-- Pieces of one width begin at equal distances. -/
theorem offset_eq_mul
    {number : Nat}
    (even : ∀ piece ∈ pieces, piece.length = width)
    (inside : number ≤ pieces.length) :
    offset pieces number = (width + 1) * number := by
  induction pieces generalizing number with
  | nil =>
      obtain rfl : number = 0 := Nat.le_zero.mp inside
      rfl
  | cons first others inductionHypothesis =>
      cases number with
      | zero => rfl
      | succ number =>
          have rest := inductionHypothesis
            (fun piece member => even piece (List.mem_cons_of_mem first member))
            (Nat.le_of_succ_le_succ inside)
          rw [offset_cons_succ, rest, even first List.mem_cons_self, Nat.mul_succ, Nat.add_comm]

/-- A piece of any width stands where it begins. -/
theorem take_drop_intercalate
    {number : Nat}
    {piece : List Char}
    (found : pieces[number]? = some piece)
    (rest : List Char) :
    (([separator].intercalate pieces ++ rest).drop (offset pieces number)).take piece.length =
      piece := by
  induction pieces generalizing number with
  | nil => cases found
  | cons first others inductionHypothesis =>
      cases number with
      | zero =>
          obtain rfl : first = piece := Option.some.inj found
          rw [show offset (first :: others) 0 = 0 from rfl, List.drop_zero]
          cases others with
          | nil => rw [List.intercalate_singleton, List.take_left]
          | cons second more =>
              rw [List.intercalate_cons_cons, List.append_assoc, List.append_assoc,
                List.take_left]
      | succ number =>
          cases others with
          | nil => cases found
          | cons second more =>
              have skipped : (first ++ [separator]).length = first.length + 1 := by
                rw [List.length_append, List.length_singleton]
              rw [List.intercalate_cons_cons, List.append_assoc, offset_cons_succ,
                ← List.drop_drop, List.drop_left' skipped]
              exact inductionHypothesis found

/-- The fields of a row are its pieces, whatever its heading is and whatever follows them. -/
theorem field_intercalate
    {number headingWidth : Nat}
    {piece heading : List Char}
    (headed : heading.length = headingWidth)
    (even : ∀ piece ∈ pieces, piece.length = width)
    (found : pieces[number]? = some piece)
    (rest : List Char) :
    field headingWidth width (heading ++ ([separator].intercalate pieces ++ rest)) number =
      piece := by
  have inside : number < pieces.length := (List.getElem?_eq_some_iff.mp found).1
  have stands := @take_drop_intercalate _ separator _ _ found rest
  rw [offset_eq_mul even (Nat.le_of_lt inside),
    even piece (List.mem_of_getElem? found)] at stands
  rw [field, ← List.drop_drop, List.drop_left' headed]
  exact stands

theorem length_intercalate_add_one
    (even : ∀ piece ∈ pieces, piece.length = width)
    (nonempty : pieces ≠ []) :
    ([separator].intercalate pieces).length + 1 = (width + 1) * pieces.length := by
  induction pieces with
  | nil => exact absurd rfl nonempty
  | cons first others inductionHypothesis =>
      have firstWidth : first.length = width := even first List.mem_cons_self
      cases others with
      | nil => rw [List.intercalate_singleton, firstWidth, List.length_singleton, Nat.mul_one]
      | cons second more =>
          have rest := inductionHypothesis
            (fun piece member => even piece (List.mem_cons_of_mem first member))
            (List.cons_ne_nil second more)
          rw [List.intercalate_cons_cons, List.length_append, List.length_append, firstWidth,
            List.length_singleton, List.length_cons, Nat.mul_succ, ← rest]
          omega

/-- The separators of a row make no difference to how often some other character stands in it. -/
theorem count_intercalate
    {character : Char}
    (different : separator ≠ character) :
    ([separator].intercalate pieces).count character =
      (pieces.map (List.count character)).sum := by
  induction pieces with
  | nil => rfl
  | cons first others inductionHypothesis =>
      cases others with
      | nil => simp
      | cons second more =>
          have notSeparator : [separator].count character = 0 :=
            List.count_eq_zero.mpr (by simpa using Ne.symm different)
          rw [List.intercalate_cons_cons, List.count_append, List.count_append, notSeparator,
            Nat.add_zero, inductionHypothesis, ← List.sum_cons, ← List.map_cons]

end Fields

/-! ## Words -/

/-- A blank separates the words before it from those behind it. -/
theorem words_append_blank (before behind : List Char) :
    words (before ++ ' ' :: behind) = words before ++ words behind := by
  have isBlank : (' ' == ' ') = true := rfl
  have split : (before ++ ' ' :: behind).splitOn ' ' = before.splitOn ' ' ++ behind.splitOn ' ' :=
    List.splitOnP_append_cons before behind isBlank
  rw [words, split, List.filter_append, words, words]

theorem words_nil : words [] = [] := by
  rw [words, List.splitOn_nil]
  rfl

/-- A text without blanks is a word. -/
theorem words_of_notMem
    {word : List Char}
    (noBlank : ' ' ∉ word)
    (nonempty : word ≠ []) :
    words word = [word] := by
  have split : word.splitOn ' ' = [word] := by
    have single := List.splitOn_intercalate ' ' (List.forall_mem_singleton.mpr noBlank)
      (List.cons_ne_nil word [])
    rwa [List.intercalate_singleton] at single
  rw [words, split]
  simp [nonempty]

/-- Blanks before a text belong to no word. -/
theorem words_replicate_append (blanks : Nat) (text : List Char) :
    words (List.replicate blanks ' ' ++ text) = words text := by
  induction blanks with
  | zero => rfl
  | succ blanks inductionHypothesis =>
      have skipped := words_append_blank [] (List.replicate blanks ' ' ++ text)
      rwa [List.nil_append, words_nil, List.nil_append, inductionHypothesis] at skipped

/-- The words of a row are the words of its pieces. -/
theorem words_intercalate (pieces : List (List Char)) :
    words ([' '].intercalate pieces) = pieces.flatMap words := by
  induction pieces with
  | nil => exact words_nil
  | cons first others inductionHypothesis =>
      cases others with
      | nil => simp
      | cons second more =>
          rw [List.intercalate_cons_cons, List.append_assoc, List.singleton_append,
            words_append_blank, inductionHypothesis, ← List.flatMap_cons]

/-! ## Padding -/

theorem toList_padLeft (width : Nat) (text : String) :
    (padLeft width text).toList =
      List.replicate (width - text.length) ' ' ++ text.toList := by
  simp [padLeft]

/-- A text fills its column, and goes beyond it if it is wider. -/
theorem length_padLeft (width : Nat) (text : String) :
    (padLeft width text).toList.length = max width text.length := by
  rw [toList_padLeft, List.length_append, List.length_replicate, String.length_toList]
  omega

/-- Padding does not change a word. -/
theorem words_padLeft
    {text : String}
    (noBlank : ' ' ∉ text.toList)
    (nonempty : text.toList ≠ [])
    (width : Nat) :
    words (padLeft width text).toList = [text.toList] := by
  rw [toList_padLeft, words_replicate_append, words_of_notMem noBlank nonempty]

/-! ## Decimals -/

theorem notMem_toDigits
    {character : Char}
    (noDigit : character.isDigit = false)
    (number : Nat) :
    character ∉ Nat.toDigits 10 number := by
  intro member
  have isDigit := Nat.isDigit_of_mem_toDigits (by decide) (by decide) member
  rw [noDigit] at isDigit
  cases isDigit

/-- There is nothing in a decimal but digits and a sign. -/
theorem notMem_repr
    {character : Char}
    (noDigit : character.isDigit = false)
    (noSign : character ≠ '-')
    (number : Int) :
    character ∉ number.repr.toList := by
  cases number with
  | ofNat magnitude =>
      rw [Int.repr, Nat.toList_repr]
      exact notMem_toDigits noDigit magnitude
  | negSucc magnitude =>
      rw [Int.repr, String.toList_append, List.mem_append, not_or, Nat.toList_repr]
      exact ⟨by simpa using noSign, notMem_toDigits noDigit _⟩

theorem toList_repr_ne_nil (number : Int) : number.repr.toList ≠ [] := by
  cases number with
  | ofNat magnitude =>
      rw [Int.repr, Nat.toList_repr]
      exact Nat.toDigits_ne_nil
  | negSucc magnitude =>
      rw [Int.repr, String.toList_append]
      exact List.append_ne_nil_of_left_ne_nil (by decide) _

/-- A padded decimal is a word. -/
theorem words_padLeft_toString (width : Nat) (number : Int) :
    words (padLeft width (toString number)).toList = [(toString number).toList] := by
  rw [Int.toString_eq_repr]
  apply words_padLeft
  · exact notMem_repr (by decide) (by decide) number
  · exact toList_repr_ne_nil number

/-- A byte takes no more than three digits. -/
theorem length_padLeft_byte (byte : UInt8) :
    (padLeft 3 (toString byte.toNat)).toList.length = 3 := by
  have small := byte.toNat_lt
  rw [length_padLeft, Nat.toString_eq_repr, ← String.length_toList, Nat.toList_repr,
    Nat.max_eq_left]
  rw [Nat.length_toDigits_le_iff (by decide) (by decide)]
  omega

end Text
end TapeMachine

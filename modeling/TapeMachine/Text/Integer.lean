import TapeMachine.Text.Blank
import TapeMachine.Text.Digit
import TapeMachine.Text.Quoted

/-!
# Decimal integers in text

An integer is written as an optional sign and decimal digits of any script, with single
underscores allowed between digits and white space allowed around the whole.
-/

namespace TapeMachine
namespace Text

/-- White space around a number: the blanks without the four information separators. -/
def isNumberSpace (character : Char) : Bool :=
  isBlank character && !(0x1C ≤ character.toNat && character.toNat ≤ 0x1F)

/-- The digit values of a row of digits in which single underscores may separate digits. -/
def digitRow : List Char → Option (List Nat)
  | [] => none
  | character :: rest =>
    match digitValue? character with
    | none => none
    | some digit =>
      match rest with
      | [] => some [digit]
      | '_' :: more => (digitRow more).map (digit :: ·)
      | more => (digitRow more).map (digit :: ·)

/-- The most digits that a decimal integer may have. -/
def digitLimit : Nat := 4300

/-- Why a text is no integer. -/
inductive IntegerFault
  /-- The text is not of the form of an integer. -/
  | malformed (text : String)
  /-- The text has too many digits. -/
  | tooLong (digits : Nat)
  deriving DecidableEq, Repr

namespace IntegerFault

/-- The wording of a fault. -/
def message : IntegerFault → String
  | malformed text => "invalid literal for int() with base 10: " ++ quote text
  | tooLong digits =>
    "Exceeds the limit (" ++ toString digitLimit ++
      " digits) for integer string conversion: value has " ++ toString digits ++
      " digits; use sys.set_int_max_str_digits() to increase the limit"

end IntegerFault

/-- Splits an optional sign off a row of characters; the flag tells a minus. -/
def splitSign : List Char → Bool × List Char
  | '+' :: rest => (false, rest)
  | '-' :: rest => (true, rest)
  | rest => (false, rest)

/-- Reads a decimal integer. -/
def readInteger (text : String) : Except IntegerFault Int :=
  let (negative, characters) := splitSign (trimBoth isNumberSpace text.toList)
  match digitRow characters with
  | none => .error (.malformed text)
  | some digits =>
    if digitLimit < digits.length then .error (.tooLong digits.length)
    else
      let magnitude : Int := ofDigits 10 digits
      .ok (if negative then -magnitude else magnitude)

end Text
end TapeMachine

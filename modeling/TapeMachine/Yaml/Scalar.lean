import TapeMachine.Json
import TapeMachine.Text.Digit
import TapeMachine.Yaml.Basic

/-!
# Plain scalars

A plain scalar of a YAML 1.1 document is a null, a truth value, an integer, a floating-point
number or a text, depending on its form.
-/

namespace TapeMachine
namespace Yaml

/-- The spellings of null. -/
def nullSpellings : List String := ["", "~", "null", "Null", "NULL"]

/-- The spellings of truth. -/
def trueSpellings : List String :=
  ["yes", "Yes", "YES", "true", "True", "TRUE", "on", "On", "ON"]

/-- The spellings of falsehood. -/
def falseSpellings : List String :=
  ["no", "No", "NO", "false", "False", "FALSE", "off", "Off", "OFF"]

/-- The endings that spell infinity after a point. -/
def infinitySpellings : List String := [".inf", ".Inf", ".INF"]

/-- The spellings of the result that is no number. -/
def nanSpellings : List String := [".nan", ".NaN", ".NAN"]

/-- Digits below a base, among which underscores may stand. -/
def isDigitRow (base : Nat) (characters : List Char) : Bool :=
  characters.all fun character =>
    character = '_' || (Text.hexValue? character).any (· < base)

/-- The number that a row of digits and underscores stands for. -/
def rowValue (base : Nat) (characters : List Char) : Nat :=
  Text.ofDigits base (characters.filterMap Text.hexValue?)

/-- The pieces of a row of characters between its colons. -/
def colonPieces : List Char → List (List Char)
  | [] => [[]]
  | character :: rest =>
    if character = ':' then [] :: colonPieces rest
    else
      match colonPieces rest with
      | [] => [[character]]
      | piece :: more => (character :: piece) :: more

/-- A place of a number in base sixty: at most two digits, and less than sixty. -/
def isSixtieth : List Char → Bool
  | [unit] => unit.isDigit
  | [ten, unit] => '0' ≤ ten && ten ≤ '5' && unit.isDigit
  | _ => false

/-- Digits and underscores that start with a digit. -/
def isStartedRow : List Char → Bool
  | first :: rest => first.isDigit && isDigitRow 10 rest
  | [] => false

/-- A decimal number within the limit of digits. -/
def decimalWithin (characters : List Char) : Except Fault Nat :=
  let digits := characters.filterMap Text.hexValue?
  if Text.digitLimit < digits.length then .error (.integer (.tooLong digits.length))
  else .ok (Text.ofDigits 10 digits)

/-- The magnitude of an integer without its sign, if the characters have the form of one. -/
def magnitude? : List Char → Option (Except Fault Nat)
  | '0' :: 'b' :: digits =>
    if digits.isEmpty || !isDigitRow 2 digits then none
    else if digits.all (· = '_') then some (.error (.noDigits 2))
    else some (.ok (rowValue 2 digits))
  | '0' :: 'x' :: digits =>
    if digits.isEmpty || !isDigitRow 16 digits then none
    else if digits.all (· = '_') then some (.error (.noDigits 16))
    else some (.ok (rowValue 16 digits))
  | '0' :: digits => if isDigitRow 8 digits then some (.ok (rowValue 8 digits)) else none
  | characters =>
    match colonPieces characters with
    | [only] => if isStartedRow only then some (decimalWithin only) else none
    | first :: places =>
      if isStartedRow first && places.all isSixtieth then
        some ((decimalWithin first).map fun value =>
          places.foldl (fun total place => total * 60 + rowValue 10 place) value)
      else none
    | [] => none

/-- The sign, the whole digits, the digits of the fraction and the exponent of a number. -/
def pointForm? (characters : List Char) : Option (List Char × List Char × Int) :=
  let whole := characters.takeWhile (· != '.')
  match characters.drop whole.length with
  | '.' :: rest =>
    let fraction := rest.takeWhile fun character => character.isDigit || character = '_'
    match rest.drop fraction.length with
    | [] => some (whole, fraction, 0)
    | mark :: sign :: digits =>
      if (mark = 'e' || mark = 'E') && (sign = '+' || sign = '-') && !digits.isEmpty &&
          digits.all Char.isDigit then
        let power : Int := Json.decimalValue digits
        some (whole, fraction, if sign = '-' then -power else power)
      else none
    | _ => none
  | _ => none

/-- The number that digits before and after a point stand for. -/
def pointValue (negative : Bool) (whole fraction : List Char) (exponent : Int) : Binary64 :=
  let digits := (whole ++ fraction).filter Char.isDigit
  let places : Int := (fraction.filter Char.isDigit).length
  .ofDecimal negative (Json.decimalValue digits) (exponent - places)

/-- The sum of the places of a number in base sixty, the last place first. -/
def sixtySum (places : List Binary64) : Binary64 :=
  (places.foldl
    (fun (state : Binary64 × Nat) place =>
      (state.1.addRounded (place.scaleRounded state.2), state.2 * 60))
    (Binary64.zero false, 1)).1

/-- A floating-point number, if the characters have the form of one. -/
def float? (characters : List Char) : Option Binary64 :=
  let (negative, body) := Text.splitSign characters
  let signed := body.length ≠ characters.length
  if infinitySpellings.contains (String.ofList body) then some (.infinite negative)
  else if nanSpellings.contains (String.ofList characters) then some .nan
  else
    match pointForm? body with
    | none => none
    | some (whole, fraction, exponent) =>
      if whole.isEmpty then
        if !signed && (fraction.head?.any Char.isDigit) then
          some (pointValue false whole fraction exponent)
        else none
      else
        match colonPieces whole with
        | [only] =>
          if isStartedRow only then some (pointValue negative only fraction exponent) else none
        | first :: places =>
          if isStartedRow first && places.all isSixtieth && !body.contains 'e' &&
              !body.contains 'E' then
            match (first :: places).reverse with
            | last :: earlier =>
              let sum := sixtySum
                (pointValue false last fraction 0 ::
                  earlier.map fun place => pointValue false place [] 0)
              some (match sum with
                | .finite _ mantissa exponent => .finite negative mantissa exponent
                | other => other)
            | [] => none
          else none
        | [] => none

/-- The scalar that a plain text stands for. -/
def resolve (text : String) : Except Fault Scalar :=
  if nullSpellings.contains text then .ok .null
  else if trueSpellings.contains text then .ok (.bool true)
  else if falseSpellings.contains text then .ok (.bool false)
  else if text = "<<" ∨ text = "=" then .error .malformed
  else
    let characters := text.toList
    match float? characters with
    | some number => .ok (.float number)
    | none =>
      let (negative, body) := Text.splitSign characters
      match magnitude? body with
      | some (.ok magnitude) => .ok (.int (if negative then -(magnitude : Int) else magnitude))
      | some (.error fault) => .error fault
      | none => .ok (.text text)

end Yaml
end TapeMachine

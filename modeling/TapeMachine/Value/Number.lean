import TapeMachine.Text.Integer
import TapeMachine.Value.Basic

/-!
# Integers from values

A setting that is a number may be given as an integer, a truth value, a floating-point number,
whose fraction is dropped, or a text that holds an integer.
-/

namespace TapeMachine

/-- Why a value is no integer. -/
inductive NumberFault
  /-- The value is a text that holds no integer. -/
  | text (fault : Text.IntegerFault)
  /-- The value is an infinity. -/
  | infinite
  /-- The value is a floating-point result that is no number. -/
  | notANumber
  /-- The value is of a kind that holds no number. -/
  | kind (name : String)
  deriving DecidableEq, Repr

namespace NumberFault

/-- The wording of a fault. -/
def message : NumberFault → String
  | text fault => fault.message
  | infinite => "cannot convert float infinity to integer"
  | notANumber => "cannot convert float NaN to integer"
  | kind name =>
    "int() argument must be a string, a bytes-like object or a real number, not '" ++ name ++ "'"

end NumberFault

namespace Value

/-- The integer that a value holds. -/
def toInt : Value → Except NumberFault Int
  | int number => .ok number
  | bool truth => .ok (if truth then 1 else 0)
  | float number =>
    match number with
    | .finite negative mantissa exponent =>
      match Binary64.truncate? (.finite negative mantissa exponent) with
      | some integer => .ok integer
      | none => .error .notANumber
    | .infinite _ => .error .infinite
    | .nan => .error .notANumber
  | text content =>
    match Text.readInteger content with
    | .ok number => .ok number
    | .error fault => .error (.text fault)
  | other => .error (.kind other.kindName)

/-- The integer that a value holds, if it is given: null and the empty text give none. -/
def toOptionalInt (value : Value) : Except NumberFault (Option Int) :=
  match value with
  | null => .ok none
  | text "" => .ok none
  | other => other.toInt.map some

end Value
end TapeMachine

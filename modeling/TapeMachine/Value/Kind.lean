import TapeMachine.Value.Basic

/-!
# Values of the wrong kind

Settings are given by name.  Where a caller or a document gives them in a shape that has no
names, or under keys that are no names, the fault is one of kind.
-/

namespace TapeMachine
namespace Scalar

/-- Whether a scalar is a text. -/
def isText : Scalar → Bool
  | text _ => true
  | _ => false

/-- Whether a scalar is a number or a truth value. -/
def isNumber : Scalar → Bool
  | bool _ => true
  | int _ => true
  | float _ => true
  | _ => false

/-- Whether two scalars can be put in order: two texts can, and two numbers. -/
def isComparable (left right : Scalar) : Bool :=
  (left.isText && right.isText) || (left.isNumber && right.isNumber)

/-- The quotient that a finite number is. -/
def ratio? : Scalar → Option (Int × Nat)
  | float number => number.toRatio?
  | other => other.whole?.map fun whole => (whole, 1)

/-- Whether a number is below another. -/
def isBelow (left right : Scalar) : Bool :=
  match left.ratio?, right.ratio? with
  | some (a, b), some (c, d) => decide (a * d < c * b)
  | some _, none => right = .float (.infinite false)
  | none, some _ => left = .float (.infinite true)
  | none, none => left = .float (.infinite true) && right = .float (.infinite false)

end Scalar

/-- What is wrong with the kind of a value. -/
inductive KindFault
  /-- Names are taken from a value that has no items. -/
  | notIterable (kind : String)
  /-- A name is of a kind that cannot be a key. -/
  | unhashable (kind : String)
  /-- Two names are of kinds that cannot be put in order. -/
  | unordered (left right : String)
  /-- A name is no text. -/
  | noText (kind : String)
  /-- A keyword of a call is no text. -/
  | keyword
  /-- A keyword of a call names a value that the call has been given already. -/
  | reserved (function name : String)
  deriving DecidableEq, Repr

namespace KindFault

/-- The wording of a fault. -/
def message : KindFault → String
  | notIterable kind => "'" ++ kind ++ "' object is not iterable"
  | unhashable kind => "unhashable type: '" ++ kind ++ "'"
  | unordered left right =>
    "'<' not supported between instances of '" ++ left ++ "' and '" ++ right ++ "'"
  | noText kind => "sequence item 0: expected str instance, " ++ kind ++ " found"
  | keyword => "keywords must be strings"
  | reserved function name =>
    function ++ "() got multiple values for argument '" ++ name ++ "'"

/-- The first two neighbours among names that cannot be put in order. -/
def clash? : List Scalar → Option (Scalar × Scalar)
  | left :: right :: rest =>
    if left.isComparable right then clash? (right :: rest) else some (left, right)
  | _ => none

/--
What is wrong with names that are not all texts: they are put in order and then joined.  In
which order they are compared is not determined; here it is the one in which they are given.
-/
def ofNames (names : List Scalar) : KindFault :=
  let distinct := names.eraseDupsBy Scalar.sameKey
  match clash? distinct with
  | some (left, right) => .unordered right.kindName left.kindName
  | none =>
    let lower (least name : Scalar) : Scalar := if name.isBelow least then name else least
    .noText (distinct.foldl lower (distinct.headD .null)).kindName

end KindFault
end TapeMachine

import TapeMachine.Decimal.Notation
import TapeMachine.Policy
import TapeMachine.Text.Quoted

/-!
# Values

Settings and suites are read from documents whose values have no fixed shape.  A value is a
scalar, a list, or a map from scalars to values that keeps the order in which its keys were
first entered.  A caller may give a policy as well, which no document can.  A value has two
texts: a literal, in which texts are quoted, and a display, which differs from the literal for
texts and policies only.
-/

namespace TapeMachine

/-- A value without parts. -/
inductive Scalar
  /-- The absent value. -/
  | null
  /-- A truth value. -/
  | bool (truth : Bool)
  /-- An integer. -/
  | int (number : Int)
  /-- A floating-point number. -/
  | float (number : Binary64)
  /-- A text. -/
  | text (content : String)
  /-- A policy. -/
  | member (policy : Member)
  deriving DecidableEq, Repr

namespace Scalar

/-- The literal of a scalar. -/
def literal : Scalar → String
  | null => "None"
  | bool truth => if truth then "True" else "False"
  | int number => toString number
  | float number => number.text
  | text content => Text.quote content
  | member policy => "<" ++ policy.display ++ ": " ++ Text.quote policy.name ++ ">"

/-- The display of a scalar. -/
def display : Scalar → String
  | text content => content
  | member policy => policy.display
  | other => other.literal

/-- The name of the kind of a scalar. -/
def kindName : Scalar → String
  | null => "NoneType"
  | bool _ => "bool"
  | int _ => "int"
  | float _ => "float"
  | text _ => "str"
  | member policy => policy.kindName

/-- The integer that a truth value or an integer stands for. -/
def whole? : Scalar → Option Int
  | bool truth => some (if truth then 1 else 0)
  | int number => some number
  | _ => none

/-- Whether two scalars are the same key.  Numbers and truth values compare by their value. -/
def sameKey (left right : Scalar) : Bool :=
  match left.whole?, right.whole? with
  | some a, some b => a == b
  | some a, none =>
    match right with
    | float number => number.equalsInt a
    | _ => false
  | none, some b =>
    match left with
    | float number => number.equalsInt b
    | _ => false
  | none, none =>
    match left, right with
    | float a, float b => a.same b
    | text a, text b => a == b
    | member a, member b => a == b
    | null, null => true
    | _, _ => false

end Scalar

/-- A value read from a document. -/
inductive Value
  /-- A value without parts. -/
  | scalar (content : Scalar)
  /-- A list of values. -/
  | list (items : List Value)
  /-- A map, as its entries in the order of their keys' first arrival. -/
  | map (entries : List (Scalar × Value))
  deriving Repr

namespace Value

/-- The absent value. -/
@[match_pattern]
abbrev null : Value := scalar .null

/-- A truth value. -/
@[match_pattern]
abbrev bool (truth : Bool) : Value := scalar (.bool truth)

/-- An integer. -/
@[match_pattern]
abbrev int (number : Int) : Value := scalar (.int number)

/-- A floating-point number. -/
@[match_pattern]
abbrev float (number : Binary64) : Value := scalar (.float number)

/-- A text. -/
@[match_pattern]
abbrev text (content : String) : Value := scalar (.text content)

/-- A policy. -/
@[match_pattern]
abbrev member (policy : Member) : Value := scalar (.member policy)

mutual

/-- The literal of a value. -/
def literal : Value → String
  | scalar content => content.literal
  | list items => "[" ++ ", ".intercalate (itemLiterals items) ++ "]"
  | map entries => "\x7b" ++ ", ".intercalate (entryLiterals entries) ++ "\x7d"

/-- The literals of the items of a list. -/
def itemLiterals : List Value → List String
  | [] => []
  | item :: rest => item.literal :: itemLiterals rest

/-- The literals of the entries of a map. -/
def entryLiterals : List (Scalar × Value) → List String
  | [] => []
  | (key, value) :: rest => (key.literal ++ ": " ++ value.literal) :: entryLiterals rest

end

/-- The display of a value. -/
def display : Value → String
  | scalar content => content.display
  | other => other.literal

/-- The name of the kind of a value. -/
def kindName : Value → String
  | scalar content => content.kindName
  | list _ => "list"
  | map _ => "dict"

/-- The scalar that a value is. -/
def scalar? : Value → Option Scalar
  | scalar content => some content
  | _ => none

/-- Whether a value is null. -/
def isNull : Value → Bool
  | null => true
  | _ => false

/-- Whether a value counts as nothing: null, false, zero, or empty. -/
def isVoid : Value → Bool
  | scalar content =>
    match content with
    | .null => true
    | .bool truth => !truth
    | .int number => number == 0
    | .float number => number.equalsInt 0
    | .text content => content.isEmpty
    | .member _ => false
  | list items => items.isEmpty
  | map entries => entries.isEmpty

end Value

/-- The entries of a map. -/
abbrev Entries := List (Scalar × Value)

namespace Entries

/-- Enters a value under a key.  A key that is present keeps its place. -/
def put : Entries → Scalar → Value → Entries
  | [], key, value => [(key, value)]
  | (present, held) :: rest, key, value =>
    if present.sameKey key then (present, value) :: rest
    else (present, held) :: put rest key value

/-- The map that results from entering values in turn. -/
def ofList (pairs : List (Scalar × Value)) : Entries :=
  pairs.foldl (fun entries pair => put entries pair.1 pair.2) []

/-- The value under a name. -/
def find? (entries : Entries) (name : String) : Option Value :=
  (List.find? (fun entry => entry.1 = .text name) entries).map (·.2)

/-- The value under a name; what is not there is null. -/
def findOrNull (entries : Entries) (name : String) : Value :=
  (entries.find? name).getD .null

/-- Whether there is a value under a name. -/
def has (entries : Entries) (name : String) : Bool :=
  (entries.find? name).isSome

end Entries
end TapeMachine

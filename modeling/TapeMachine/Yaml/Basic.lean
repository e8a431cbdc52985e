import TapeMachine.Text.Integer
import TapeMachine.Value.Basic

/-!
# Readers of documents

What is settled from a document depends on its value and not on how the value was read, so that
the reader is left open.
-/

namespace TapeMachine
namespace Yaml

/-- Why a document has no value. -/
inductive Fault
  /-- The document is malformed. -/
  | malformed
  /-- An integer has a base mark and no digits. -/
  | noDigits (base : Nat)
  /-- An integer has too many digits. -/
  | integer (fault : Text.IntegerFault)
  deriving DecidableEq, Repr

/-- The wording of a fault. -/
def Fault.message : Fault → String
  | malformed => "the document is malformed"
  | noDigits base => "invalid literal for int() with base " ++ toString base ++ ": ''"
  | integer fault => fault.message

/-- A way to read the value of a document. -/
abbrev DocumentReader := List Char → Except Fault Value

end Yaml
end TapeMachine

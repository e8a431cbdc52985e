import TapeMachine.Tape.Basic
import TapeMachine.Text.Latin
import TapeMachine.Value.Number

/-!
# Cases

A case of a suite is a program with its input, what the run is expected to come to, and
overrides of the settings.  In a document a case is a text, which is a program alone, or a map.
-/

namespace TapeMachine

/-- A program with what its run is expected to come to. -/
structure Case where
  /-- The name of the case. -/
  name : String
  /-- The text of the program. -/
  program : String
  /-- The input. -/
  input : List UInt8 := []
  /-- The output that is expected, if one is. -/
  expected : Option (List UInt8) := none
  /-- The cause of the diagnostic that is expected; null if none is. -/
  error : Value := .null
  /-- Overrides of the settings. -/
  overrides : Entries := []
  deriving Repr

/-- Why a value is no case. -/
inductive CaseFault
  /-- The case has no program. -/
  | noProgram (name : String)
  /-- Bytes are given in a shape that holds none. -/
  | noBytes
  /-- Bytes are given as a text that no bytes stand for. -/
  | text (fault : Text.LatinFault)
  /-- Bytes are given as a list with an item that is no number. -/
  | number (fault : NumberFault)
  deriving DecidableEq, Repr

namespace CaseFault

/-- The wording of a fault. -/
def message : CaseFault → String
  | noProgram name => "case " ++ Text.quote name ++ " needs a 'program' entry"
  | noBytes => "input/expected must be a string or a list of byte values"
  | text fault => fault.message
  | number fault => fault.message

end CaseFault

namespace Case

/-- The bytes that a value stands for: those of a text, the items of a list modulo 256, or none. -/
def bytes : Value → Except CaseFault (List UInt8)
  | .null => .ok []
  | .text content => (Text.latinBytes content).mapError .text
  | .list items =>
    items.mapM fun item => (item.toInt.map byteOfInt).mapError .number
  | _ => .error .noBytes

/-- The names of the entries of a case that are not overrides. -/
def ownNames : List String := ["program", "input", "expected", "error", "name"]

/-- Whether a key is the name of an entry that is not an override. -/
def isOwn : Scalar → Bool
  | .text name => ownNames.contains name
  | _ => false

/-- The case that the entries of a map make. -/
def ofEntries (name : String) (entries : Entries) : Except CaseFault Case :=
  match entries.find? "program" with
  | none => .error (.noProgram name)
  | some program => do
    let input ← bytes (entries.findOrNull "input")
    let expected ←
      match entries.findOrNull "expected" with
      | .null => .ok none
      | value => (bytes value).map some
    .ok
      { name := name
        program := program.display
        input := input
        expected := expected
        error := entries.findOrNull "error"
        overrides := entries.filter fun entry => !isOwn entry.1 }

/-- The case that a value makes. -/
def ofValue (name : String) : Value → Except CaseFault Case
  | .text program => .ok { name, program }
  | .map entries => ofEntries name entries
  | _ => .error (.noProgram name)

end Case
end TapeMachine

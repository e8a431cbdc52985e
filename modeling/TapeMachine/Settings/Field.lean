import TapeMachine.Settings.Basic
import TapeMachine.Value.Basic

/-!
# The fields of settings

Every field of the settings has a name, under which documents and overrides give it, and a
variable of the environment.
-/

namespace TapeMachine

/-- A field of the settings. -/
inductive Field
  /-- How cell indices behave at the edges of the tape. -/
  | addressing
  /-- The number of cells of a bounded tape. -/
  | tapeSize
  /-- The modulus of a sparse tape. -/
  | modulus
  /-- What reading does once the input is exhausted. -/
  | eof
  /-- How many steps a run may take. -/
  | maxSteps
  deriving DecidableEq, Repr

namespace Field

/-- The name of a field. -/
def name : Field → String
  | addressing => "addressing"
  | tapeSize => "tape_size"
  | modulus => "modulus"
  | eof => "eof"
  | maxSteps => "max_steps"

/-- The variable of the environment that gives a field. -/
def variableName : Field → String
  | addressing => "BF_ADDRESSING"
  | tapeSize => "BF_TAPE_SIZE"
  | modulus => "BF_TAPE_MODULUS"
  | eof => "BF_EOF"
  | maxSteps => "BF_STEP_LIMIT"

/-- All fields. -/
def all : List Field := [addressing, tapeSize, modulus, eof, maxSteps]

/-- The field with a name. -/
def ofName? (name : String) : Option Field :=
  all.find? fun field => field.name == name

@[simp]
theorem ofName?_name (field : Field) : ofName? field.name = some field := by
  cases field <;> decide

end Field

namespace Settings

/-- The value of a field as it is written to a document. -/
def get (settings : Settings) : Field → Value
  | .addressing => .text settings.addressing.name
  | .tapeSize => .int settings.tapeSize.val
  | .modulus => settings.modulus.elim .null fun modulus => .int modulus.val
  | .eof => .text settings.eof.name
  | .maxSteps => settings.maxSteps.elim .null fun limit => .int limit

/-- The settings as the entries of a document. -/
def toEntries (settings : Settings) : Entries :=
  Field.all.map fun field => (.text field.name, settings.get field)

end Settings
end TapeMachine

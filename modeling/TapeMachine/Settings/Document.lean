import TapeMachine.Settings.Draft
import TapeMachine.Yaml.Basic

/-!
# Settings from a document

A settings file is a YAML document that holds a map of fields, either itself or under the name
`interpreter`.  How the value of a document is read is left open.
-/

namespace TapeMachine

/-- Why a document gives no settings. -/
inductive DocumentFault
  /-- The document has no value. -/
  | yaml (fault : Yaml.Fault)
  /-- The document in a file holds no map. -/
  | noMap (path : String)
  /-- The fields are bad. -/
  | settings (fault : SettingsFault)
  deriving Repr

namespace DocumentFault

/-- The wording of a fault. -/
def message : DocumentFault → String
  | yaml fault => fault.message
  | noMap path => path ++ ": expected a mapping at top level"
  | settings fault => fault.message

end DocumentFault

namespace Settings

/-- The name under which a document may hold the fields. -/
def sectionName : String := "interpreter"

/-- The settings that the value of a document describes.  A void value describes the defaults. -/
def ofDocumentValue (path : String) (value : Value) : Except DocumentFault Settings :=
  if value.isVoid then (ofEntries []).mapError .settings
  else
    match value with
    | .map content =>
      let entries : Entries := content
      (ofValue ((entries.find? sectionName).getD value)).mapError .settings
    | _ => .error (.noMap path)

/-- The settings that a document describes for a reader. -/
def ofDocument (reader : Yaml.DocumentReader) (path : String) (document : List Char) :
    Except DocumentFault Settings :=
  match reader document with
  | .error fault => .error (.yaml fault)
  | .ok value => ofDocumentValue path value

end Settings
end TapeMachine

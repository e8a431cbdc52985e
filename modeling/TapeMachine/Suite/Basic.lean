import TapeMachine.Json
import TapeMachine.Settings.Draft
import TapeMachine.Settings.Journal
import TapeMachine.Suite.Case
import TapeMachine.Text.Pad
import TapeMachine.Yaml.Basic

/-!
# Suites

A suite is a list of cases.  Its file is a JSON or a YAML document that holds the cases as a
list or as a map by name, possibly under the name `cases`.  How the value of a YAML document is
read is left open.
-/

namespace TapeMachine

/-- Why a document is no suite. -/
inductive SuiteFault
  /-- The document is no JSON text. -/
  | json (document : List Char) (fault : Json.Fault)
  /-- The document is no YAML document. -/
  | yaml (fault : Yaml.Fault)
  /-- The document in a file holds neither a list nor a map. -/
  | noCases (path : String)
  /-- A case is bad. -/
  | case (fault : CaseFault)
  deriving DecidableEq, Repr

namespace SuiteFault

/-- The wording of a fault. -/
def message : SuiteFault → String
  | json document fault => fault.message document
  | yaml fault => fault.message
  | noCases path => path ++ ": expected a list or mapping of cases"
  | case fault => fault.message

end SuiteFault

namespace Suite

/--
The extension of a path: what follows the last point of its last part, the point included.
Points with which the last part starts make no extension.
-/
def extension (path : String) : String :=
  let name := (path.toList.reverse.takeWhile (· != '/')).reverse.dropWhile (· == '.')
  match name.reverse.span (· != '.') with
  | (_, []) => ""
  | (ending, _) => String.ofList ('.' :: ending.reverse)

/-- Whether a file holds a JSON text. -/
def isJson (path : String) : Bool :=
  Text.lowerCase (extension path) == ".json"

/-- The name of a case that has none, by its place in the list. -/
def placeName (place : Nat) : String :=
  "case_" ++ toString place

/-- The name of a case in a list. -/
def listedName (place : Nat) : Value → String
  | .map content =>
    let entries : Entries := content
    ((entries.find? "name").map Value.display).getD (placeName place)
  | _ => placeName place

/-- What a document holds under the name `cases`, or else the document itself. -/
def content (value : Value) : Value :=
  match value with
  | .map held =>
    let entries : Entries := held
    (entries.find? "cases").getD value
  | other => other

/-- The cases of a value. -/
def ofValue (path : String) (value : Value) : Except SuiteFault (List Case) :=
  match content value with
  | .map entries =>
    (entries.mapM fun entry => Case.ofValue entry.1.display entry.2).mapError .case
  | .list items =>
    (items.zipIdx.mapM fun item => Case.ofValue (listedName item.2 item.1) item.1).mapError .case
  | _ => .error (.noCases path)

/-- The value of a document for a reader; the extension of its path tells the format. -/
def document (reader : Yaml.DocumentReader) (path : String) (text : List Char) :
    Except SuiteFault Value :=
  if isJson path then (Json.read text).mapError (.json text)
  else (reader text).mapError .yaml

/-- The cases of a document for a reader. -/
def load (reader : Yaml.DocumentReader) (path : String) (text : List Char) :
    Except SuiteFault (List Case) := do
  let value ← document reader path text
  ofValue path value

end Suite

/-- A case and what its run has come to. -/
structure CaseResult where
  /-- The case. -/
  case : Case
  /-- What the run has come to. -/
  outcome : Outcome
  deriving Repr

namespace CaseResult

/-- What has happened, in one line. -/
def observed (result : CaseResult) : String :=
  match result.outcome.diagnostic with
  | some diagnostic => diagnostic.causeName
  | none => if result.outcome.hitLimit then "step limit" else Text.quote result.outcome.text

/-- Whether an expected cause is the one of a diagnostic. -/
def isCause (expected : Value) (diagnostic : Option Diagnostic) : Bool :=
  match expected, diagnostic with
  | .text name, some found => name == found.causeName
  | _, _ => false

/--
Whether the case has passed.  A case that expects a cause passes if its diagnostic has that
cause; any other has to finish, with the output that it expects if it expects one.
-/
def passed (result : CaseResult) : Bool :=
  if !result.case.error.isNull then isCause result.case.error result.outcome.diagnostic
  else result.outcome.ok &&
    result.case.expected.all fun expected => result.outcome.output.toList == expected

end CaseResult

namespace Case

/-- The settings of a case under the settings of its suite. -/
def settings (case : Case) (base : Settings) : Except SettingsFault Settings :=
  base.override case.overrides

/-- Runs a case. -/
def run? (case : Case) (fuel : Nat) (settings : Settings) : Option CaseResult :=
  (settings.run? fuel none case.program (.whole case.input) .absent).map fun report =>
    ⟨case, report.outcome⟩

end Case

namespace Suite

/--
Runs the cases of a suite in turn.  Bad overrides of a case end the suite.  There is no answer
when the fuel does not suffice for one of the runs.
-/
def run? (fuel : Nat) (base : Settings) :
    List Case → Option (Except SettingsFault (List CaseResult))
  | [] => some (.ok [])
  | case :: rest =>
    match case.settings base with
    | .error fault => some (.error fault)
    | .ok settings =>
      match case.run? fuel settings with
      | none => none
      | some result => (run? fuel base rest).map fun later => later.map (result :: ·)

/-- The journal of the runs of a suite. -/
def journal (fuel : Nat) (base : Settings) : List Case → List Event
  | [] => []
  | case :: rest =>
    match case.settings base with
    | .error _ => []
    | .ok settings =>
      settings.journal fuel none case.program (.whole case.input) ++ journal fuel base rest

/-- The width of the column of names in the table of a suite. -/
def nameWidth (results : List CaseResult) : Nat :=
  if results.isEmpty then 4
  else results.foldl (fun width result => max width result.case.name.length) 0

/-- The row of a case in the table of a suite. -/
def row (width : Nat) (result : CaseResult) : String :=
  (if result.passed then "✅" else "❌") ++ " " ++ Text.padRight width result.case.name ++ "  " ++
    result.observed

/-- The number of cases that have passed. -/
def passedCount (results : List CaseResult) : Nat :=
  results.countP CaseResult.passed

/-- The lines of the table of a suite: a row for each case and the numbers of cases. -/
def table (results : List CaseResult) : List String :=
  results.map (row (nameWidth results)) ++
    ["", toString (passedCount results) ++ "/" ++ toString results.length ++ " passed"]

end Suite
end TapeMachine

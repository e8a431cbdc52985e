import TapeMachine.CommandLine.Invocation
import TapeMachine.Settings.Document
import TapeMachine.Suite.Basic
import TapeMachine.Text.Utf8

/-!
# What a command finds

A command reads files, the environment and the standard input.  Reading a file can fail, and so
can making sense of it.  How a document is read belongs to what a command finds.
-/

namespace TapeMachine
namespace CommandLine

/-- Why a file cannot be read. -/
inductive FileReason
  /-- There is no such file. -/
  | missing
  /-- A part of the path that should be a directory is none. -/
  | noDirectory
  /-- The path is the one of a directory. -/
  | directory
  /-- A part of the path is too long. -/
  | tooLong
  deriving DecidableEq, Repr

/-- A file that cannot be read. -/
structure FileFault where
  /-- The path of the file. -/
  path : String
  /-- Why the file cannot be read. -/
  reason : FileReason
  deriving DecidableEq, Repr

namespace FileFault

/-- The number and the wording of a reason. -/
def wording : FileReason → String
  | .missing => "[Errno 2] No such file or directory"
  | .noDirectory => "[Errno 20] Not a directory"
  | .directory => "[Errno 21] Is a directory"
  | .tooLong => "[Errno 36] File name too long"

/-- The wording of a fault. -/
def message (fault : FileFault) : String :=
  wording fault.reason ++ ": " ++ Text.quote fault.path

end FileFault

/-- What a command finds. -/
structure World where
  /-- The content of the file with a path. -/
  file : String → Except FileReason (List UInt8)
  /-- The variables of the environment. -/
  environment : String → Option String
  /-- The standard input. -/
  stdin : List UInt8
  /-- How a document is read. -/
  readDocument : Yaml.DocumentReader

/-- Why a command cannot do its work. -/
inductive Problem
  /-- No program is given. -/
  | noProgram
  /-- A path holds a character that no path can hold. -/
  | badPath
  /-- A file cannot be read. -/
  | file (fault : FileFault)
  /-- A file holds no text. -/
  | encoding (fault : Text.Utf8Fault)
  /-- A file holds no settings. -/
  | document (fault : DocumentFault)
  /-- The settings are bad. -/
  | settings (fault : SettingsFault)
  /-- The input is a text that no bytes stand for. -/
  | input (fault : Text.LatinFault)
  /-- A file holds no suite. -/
  | suite (fault : SuiteFault)
  /-- The number of cells to be shown is no number. -/
  | window (given : Value)
  deriving Repr

/-- How a problem becomes known. -/
inductive Severity
  /-- The problem is reported, and the command ends in good order. -/
  | reported
  /-- A value is of the wrong kind, which breaks the command off. -/
  | wrongKind
  /-- A number is too large to be an integer, which breaks the command off. -/
  | overflow
  /-- A document is malformed, which breaks the command off. -/
  | malformed
  deriving DecidableEq, Repr

namespace Severity

/-- How a value that is no number becomes known. -/
def ofNumber : NumberFault → Severity
  | .kind _ => wrongKind
  | .infinite => overflow
  | _ => reported

/-- How bad settings become known. -/
def ofSettings : SettingsFault → Severity
  | .kind _ => wrongKind
  | .number fault => ofNumber fault
  | _ => reported

/-- How a document without a value becomes known. -/
def ofYaml : Yaml.Fault → Severity
  | .malformed => malformed
  | _ => reported

end Severity

namespace Problem

/-- The wording of a problem. -/
def message : Problem → String
  | noProgram => "give a program FILE or -e CODE"
  | badPath => "embedded null byte"
  | file fault => fault.message
  | encoding fault => fault.message
  | document fault => fault.message
  | settings fault => fault.message
  | input fault => fault.message
  | suite fault => fault.message
  | window given =>
    "unsupported operand type(s) for //: '" ++ given.kindName ++ "' and 'int'"

/-- How a problem becomes known. -/
def severity : Problem → Severity
  | document (.yaml fault) => .ofYaml fault
  | document (.settings fault) => .ofSettings fault
  | settings fault => .ofSettings fault
  | suite (.yaml fault) => .ofYaml fault
  | suite (.case (.number fault)) => .ofNumber fault
  | window _ => .wrongKind
  | _ => .reported

end Problem

namespace World

/-- The bytes of a file. -/
def bytes (world : World) (path : String) : Except Problem (List UInt8) :=
  if path.toList.contains '\x00' then .error .badPath
  else (world.file path).mapError fun reason => .file ⟨path, reason⟩

/-- The text of a file. -/
def text (world : World) (path : String) : Except Problem (List Char) := do
  let bytes ← world.bytes path
  let characters ← (Text.decodeUtf8 bytes).mapError Problem.encoding
  .ok (Text.universalNewlines characters)

/-- The text of a file that is decoded piece by piece. -/
def streamedText (world : World) (path : String) : Except Problem (List Char) := do
  let bytes ← world.bytes path
  let characters ← (Text.decodeUtf8 bytes).mapError fun fault => Problem.encoding fault.streamed
  .ok (Text.universalNewlines characters)

/-- The settings that the environment describes. -/
def settings (world : World) : Except Problem Settings :=
  (Settings.ofEnvironment world.environment).mapError .settings

end World

namespace ProgramChoice

/-- The text of the program. -/
def load (choice : ProgramChoice) (world : World) : Except Problem String :=
  match choice.code, choice.file with
  | .text code, _ => .ok code
  | .null, none => .error .noProgram
  | .null, some path => (world.text path).map String.ofList
  | _, _ => .ok ""

/-- The program as it is shown.  A program that is no text is shown by its literal. -/
def shown (choice : ProgramChoice) (code : String) : String :=
  match choice.code with
  | .null => code
  | given => given.display

end ProgramChoice

namespace SettingsChoice

/-- The settings before the overrides: those of the file, or else those of the environment. -/
def base (choice : SettingsChoice) (world : World) : Except Problem Settings :=
  match choice.config with
  | .text path =>
    if path.isEmpty then world.settings
    else do
      let document ← world.streamedText path
      (Settings.ofDocument world.readDocument path document).mapError .document
  | _ => world.settings

/-- The overrides as entries. -/
def entries (choice : SettingsChoice) : Entries :=
  Field.all.map fun field => (.text field.name, choice.overrides field)

/-- The settings. -/
def load (choice : SettingsChoice) (world : World) : Except Problem Settings := do
  let base ← choice.base world
  (base.replace choice.entries).mapError .settings

end SettingsChoice

/-- The paths of the files that a request may read. -/
def Request.paths : Request → List String
  | .run program settings _ _ => program.file.toList ++ configPaths settings
  | .check program => program.file.toList
  | .debug program settings _ _ => program.file.toList ++ configPaths settings
  | .suite path => [path]
where
  /-- The path of the file that holds settings. -/
  configPaths (settings : SettingsChoice) : List String :=
    match settings.config with
    | .text path => [path]
    | _ => []

end CommandLine
end TapeMachine

import TapeMachine.CommandLine.Basic
import TapeMachine.Yaml.Reader

/-!
# The command line program

Looks up what the command line asks for, carries it out, writes what has come of it, and leaves
with a status.
-/

namespace TapeMachine
namespace CommandLine

/-- Reads a file, or tells why it cannot be read. -/
def readFile (path : String) : IO (Except FileReason (List UInt8)) := do
  try
    let content ← IO.FS.readBinFile path
    return .ok content.toList
  catch problem =>
    match problem with
    | .inappropriateType .. => return .error .directory
    | .invalidArgument .. => return .error .tooLong
    | _ => return .error .missing

/-- Whether a request reads the standard input. -/
def readsStdin : Request → Bool
  | .run _ _ _ stdin => stdin
  | _ => false

/-- Looks up what a request may need. -/
def findWorld (request : Request) : IO World := do
  let files ← request.paths.mapM fun path => do
    let content ← readFile path
    return (path, content)
  let environment ← Field.all.mapM fun field => do
    let content ← IO.getEnv field.variableName
    return (field.variableName, content)
  let stdin ←
    if readsStdin request then do
      let stream ← IO.getStdin
      stream.readBinToEnd
    else pure ByteArray.empty
  return {
    file := fun path => (files.lookup path).getD (.error .missing)
    environment := fun name => (environment.lookup name).join
    stdin := stdin.toList
    readDocument := Yaml.read }

/-- Carries out an invocation with more and more fuel. -/
partial def performAnyway (fuel : Nat) (world : World) (invocation : Invocation) :
    IO Completion :=
  match perform fuel world invocation with
  | some completion => return completion
  | none => performAnyway (2 * fuel) world invocation

/-- The fuel of a first attempt. -/
def firstFuel : Nat := Nat.pow 2 62

/-- Writes what a command has written, and answers its status. -/
def finish (completion : Completion) : IO UInt32 := do
  let stdout ← IO.getStdout
  stdout.write (ByteArray.mk completion.stdout.toArray)
  stdout.flush
  let stderr ← IO.getStderr
  stderr.putStr completion.stderr
  match completion.ending with
  | .exit status => return status.toUInt32
  | .help => return statusOk.toUInt32
  | .refused => return statusUsage.toUInt32
  | .aborted _ => return statusDiagnostic.toUInt32

end CommandLine
end TapeMachine

/-- Carries out the command line. -/
def main (arguments : List String) : IO UInt32 := do
  match TapeMachine.CommandLine.readInvocation arguments with
  | .error interruption =>
    TapeMachine.CommandLine.finish (TapeMachine.CommandLine.interrupted interruption)
  | .ok invocation =>
    let world ← TapeMachine.CommandLine.findWorld invocation.request
    let completion ←
      TapeMachine.CommandLine.performAnyway TapeMachine.CommandLine.firstFuel world invocation
    TapeMachine.CommandLine.finish completion

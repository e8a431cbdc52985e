import TapeMachine.Location
import TapeMachine.Text.Line
import TapeMachine.Text.Pad

/-!
# Diagnostics

Two things can be wrong with a program.  It is rejected when its brackets do not match, and
then it never starts.  It fails when its cursor leaves the tape, and then it stops at the
offending command.  Both are plain values with a location, a wording and an excerpt of the
program.
-/

namespace TapeMachine

/-- Why a program is rejected. -/
inductive RejectionCause
  /-- A loop is opened and never closed. -/
  | unclosedOpen
  /-- A loop is closed that was never opened. -/
  | unmatchedClose
  deriving DecidableEq, Repr

namespace RejectionCause

/-- The name under which a cause is reported. -/
def name : RejectionCause → String
  | unclosedOpen => "UnclosedLoopOpen"
  | unmatchedClose => "UnmatchedLoopClose"

/-- The wording of a cause. -/
def message : RejectionCause → String
  | unclosedOpen => "'[' is never closed"
  | unmatchedClose => "unmatched ']' with no open loop"

end RejectionCause

/-- Why a run fails. -/
inductive FailureCause
  /-- The cursor moved below the start of the tape. -/
  | underflow
  /-- The cursor moved past the end of the tape. -/
  | overflow
  deriving DecidableEq, Repr

namespace FailureCause

/-- The name under which a cause is reported. -/
def name : FailureCause → String
  | underflow => "CellIndexUnderflow"
  | overflow => "CellIndexOverflow"

/-- The wording of a cause. -/
def message : FailureCause → String
  | underflow => "cell index moved below the start of the tape"
  | overflow => "cell index moved past the end of the tape"

end FailureCause

/-- The refusal of a program whose brackets do not match. -/
structure Rejection where
  /-- The place of the offending bracket. -/
  location : Location
  /-- What is wrong with it. -/
  cause : RejectionCause
  deriving DecidableEq, Repr

/-- The failure of a run. -/
structure Failure where
  /-- The place of the offending command. -/
  location : Location
  /-- The position at which the run stopped. -/
  position : Int
  /-- How many commands were completed before. -/
  cycles : Int
  /-- What went wrong. -/
  cause : FailureCause
  deriving DecidableEq, Repr

/-- What is wrong with a program or with its run. -/
inductive Diagnostic
  /-- The program was rejected. -/
  | rejected (rejection : Rejection)
  /-- The run failed. -/
  | failed (failure : Failure)
  deriving DecidableEq, Repr

/-- As what a diagnostic is raised. -/
inductive RaisedKind
  /-- As the failure to accept a program. -/
  | parseFailure
  /-- As the failure of a run. -/
  | executionFailure
  deriving DecidableEq, Repr

/-- The name under which a diagnostic is raised. -/
def RaisedKind.name : RaisedKind → String
  | parseFailure => "ParseFailure"
  | executionFailure => "ExecutionFailure"

/-- A diagnostic that is raised for a caller who does not look at diagnostics. -/
structure Raised where
  /-- As what it is raised. -/
  kind : RaisedKind
  /-- The diagnostic. -/
  diagnostic : Diagnostic
  deriving DecidableEq, Repr

namespace Rejection

/-- A rejection in one line. -/
def summary (rejection : Rejection) : String :=
  "parse error at " ++ rejection.location.text ++
    " (offset " ++ toString rejection.location.offset ++ "): " ++ rejection.cause.message

end Rejection

namespace Failure

/-- A failure in one line. -/
def summary (failure : Failure) : String :=
  "execution error at " ++ failure.location.text ++
    " (offset " ++ toString failure.location.offset ++
    ", cycle " ++ toString failure.cycles ++ "): " ++ failure.cause.message

end Failure

namespace Diagnostic

/-- The place that a diagnostic points at. -/
def location : Diagnostic → Location
  | rejected rejection => rejection.location
  | failed failure => failure.location

/-- The name of the cause. -/
def causeName : Diagnostic → String
  | rejected rejection => rejection.cause.name
  | failed failure => failure.cause.name

/-- The wording of the cause. -/
def message : Diagnostic → String
  | rejected rejection => rejection.cause.message
  | failed failure => failure.cause.message

/-- A diagnostic in one line. -/
def summary : Diagnostic → String
  | rejected rejection => rejection.summary
  | failed failure => failure.summary

/-- Raises a diagnostic. -/
def raise (diagnostic : Diagnostic) : Raised :=
  match diagnostic with
  | rejected _ => ⟨.parseFailure, diagnostic⟩
  | failed _ => ⟨.executionFailure, diagnostic⟩

/-- The two lines above the excerpt. -/
def heading (diagnostic : Diagnostic) : List String :=
  let kind :=
    match diagnostic with
    | rejected _ => "error"
    | failed _ => "runtime error"
  [kind ++ "[" ++ diagnostic.causeName ++ "]: " ++ diagnostic.message,
    "  --> " ++ diagnostic.location.text]

/-- The line numbers of an excerpt: some lines of context and the line of the location. -/
def excerptNumbers (line context : Int) : List Nat :=
  let first := max 1 (line - context)
  (List.range (line + 1 - first).toNat).map fun step => first.toNat + step

/-- A row of an excerpt: a number, or blanks, before a bar and a text. -/
def row (width : Nat) (margin text : String) : String :=
  Text.padLeft width margin ++ " | " ++ text

/-- The numbered source lines of an excerpt; there is none for a line that does not exist. -/
def excerpt? (program : List Char) (width : Nat) (numbers : List Nat) : Option (List String) :=
  let source := Text.lines program
  numbers.mapM fun number =>
    (source[number - 1]?).map fun line => row width (toString number) (String.ofList line)

/-- The row that puts a caret under a column. -/
def caretRow (width : Nat) (column : Int) : String :=
  row width "" (String.ofList (List.replicate (column - 1).toNat ' ') ++ "^")

/-- The row that tells where a run stopped. -/
def closing (width : Nat) : Diagnostic → List String
  | rejected _ => []
  | failed failure =>
    [Text.padLeft width "" ++ " = instruction pointer " ++ toString failure.position ++
      ", after " ++ toString failure.cycles ++ " cycles"]

/--
The lines of a diagnostic with an excerpt of the program: the offending line after some lines
of context, and a caret under the offending character.
-/
def rows? (diagnostic : Diagnostic) (program : List Char) (context : Int) :
    Option (List String) :=
  let location := diagnostic.location
  let width := (toString location.line).length
  (excerpt? program width (excerptNumbers location.line context)).map fun excerpt =>
    diagnostic.heading ++ excerpt ++ [caretRow width location.column] ++
      diagnostic.closing width

/-- The rendering of a diagnostic; there is none when its line is not in the program. -/
def render? (diagnostic : Diagnostic) (program : List Char) (context : Int) : Option String :=
  (diagnostic.rows? program context).map ("\n".intercalate ·)

/-- The rendering of a diagnostic of this program, with one line of context. -/
def render (diagnostic : Diagnostic) (program : List Char) : String :=
  (diagnostic.render? program 1).getD diagnostic.summary

end Diagnostic

/-- The wording of a diagnostic that is raised. -/
def Raised.message (raised : Raised) : String :=
  raised.diagnostic.summary

end TapeMachine

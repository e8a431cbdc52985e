import TapeMachine.Machine.Journal
import TapeMachine.Settings.Run

/-!
# The journal of a program text

The journal of a run under settings begins with the verdict on the brackets of the program.
-/

namespace TapeMachine
namespace Settings

/-- The journal of a run.  A run without a budget is followed for as long as the fuel lasts. -/
def journal (settings : Settings) (fuel : Nat) (given : Option Int)
    (code : String) (source : Source) : List Event :=
  match Program.parse code with
  | .error rejection => [.rejected rejection]
  | .ok program =>
    let steps := (settings.budget given).elim fuel Int.toNat
    program.matchedEvent :: (settings.launch program source .absent).journal steps

/-- The journal of a trace, which does not tell that the run reached the end of the program. -/
def traceJournal (settings : Settings) (budget : Int)
    (code : String) (data : List UInt8) : List Event :=
  match Program.parse code with
  | .error rejection => [.rejected rejection]
  | .ok program =>
    program.matchedEvent ::
      (settings.launch program (.whole data) .absent).events budget.toNat

end Settings
end TapeMachine

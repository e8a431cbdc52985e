import TapeMachine.Policy
import TapeMachine.Tape.Basic

/-!
# Settings

The settings of a run: how its tape is addressed, how large the tape is, what reading does at
the end of the input, and how many steps the run may take.
-/

namespace TapeMachine

/-- A number that is at least one. -/
abbrev Positive := { number : Nat // 0 < number }

namespace Positive

/-- The positive number that an integer is. -/
def ofInt? (integer : Int) : Option Positive :=
  if positive : 0 < integer then some ⟨integer.toNat, by omega⟩ else none

@[simp]
theorem ofInt?_val (number : Positive) : ofInt? (number.val : Int) = some number := by
  have positive : 0 < (number.val : Int) := by
    have := number.property
    omega
  simp [ofInt?, number.property]

end Positive

/-- The settings of a run. -/
structure Settings where
  /-- How cell indices behave at the edges of the tape. -/
  addressing : Addressing := .bounded
  /-- The number of cells of a bounded tape. -/
  tapeSize : Positive := ⟨defaultTapeSize, by decide⟩
  /-- The modulus of a sparse tape. -/
  modulus : Option Positive := none
  /-- What reading does once the input is exhausted. -/
  eof : EofPolicy := .unchanged
  /-- How many steps a run may take; there is no limit if it is not given. -/
  maxSteps : Option Nat := none
  deriving DecidableEq, Repr

namespace Settings

/-- The extent of the tape of a run.  A growable tape starts with one cell. -/
def extent (settings : Settings) : Extent :=
  match settings.addressing with
  | .bounded => .bounded settings.tapeSize.val
  | .growable => .growable 1
  | .sparse => .sparse (settings.modulus.map (·.val))

/-- The blank tape with which a run starts. -/
def newTape (settings : Settings) : Tape :=
  .ofExtent settings.extent

/-- No tape that the settings ask for is refused. -/
theorem ofPolicy?_eq_newTape (settings : Settings) :
    Tape.ofPolicy? settings.addressing settings.tapeSize.val
        (settings.modulus.map fun modulus => (modulus.val : Int)) =
      .ok settings.newTape := by
  obtain ⟨addressing, ⟨size, sizePositive⟩, modulus, eof, maxSteps⟩ := settings
  cases addressing with
  | bounded =>
    have notSmall : ¬ ((size : Int) < 1) := by omega
    simp [Tape.ofPolicy?, Extent.ofPolicy?, Extent.bounded?, newTape, extent, notSmall, Except.map]
  | growable => rfl
  | sparse =>
    cases modulus with
    | none => rfl
    | some modulus =>
      have notSmall : ¬ ((modulus.val : Int) < 1) := by
        have := modulus.property
        omega
      simp [Tape.ofPolicy?, Extent.ofPolicy?, Extent.sparse?, newTape, extent, notSmall, Except.map]

end Settings
end TapeMachine

/-!
# Policies

A run is governed by two choices: how the tape is addressed, and what reading does when the
input is exhausted.  A caller may give a policy by its name or as a member of its enumeration.
-/

namespace TapeMachine

/-- How cell indices behave at the edges of the tape. -/
inductive Addressing
  /-- A fixed range of cells; leaving it is a failure. -/
  | bounded
  /-- Cells from zero on, as many as needed; going below zero is a failure. -/
  | growable
  /-- A cell for every integer, or for every residue of a modulus. -/
  | sparse
  deriving DecidableEq, Repr

namespace Addressing

/-- The name of a policy. -/
def name : Addressing → String
  | bounded => "bounded"
  | growable => "growable"
  | sparse => "sparse"

/-- All policies, in the order in which they are listed. -/
def all : List Addressing := [bounded, growable, sparse]

/-- The policy with a name. -/
def ofName? (name : String) : Option Addressing :=
  all.find? fun policy => policy.name == name

@[simp]
theorem ofName?_name (policy : Addressing) : ofName? policy.name = some policy := by
  cases policy <;> decide

end Addressing

/-- What reading does to the current cell once the input is exhausted. -/
inductive EofPolicy
  /-- The cell keeps its value. -/
  | unchanged
  /-- The cell becomes zero. -/
  | zero
  deriving DecidableEq, Repr

namespace EofPolicy

/-- The name of a policy. -/
def name : EofPolicy → String
  | unchanged => "unchanged"
  | zero => "zero"

/-- All policies, in the order in which they are listed. -/
def all : List EofPolicy := [unchanged, zero]

/-- The policy with a name. -/
def ofName? (name : String) : Option EofPolicy :=
  all.find? fun policy => policy.name == name

@[simp]
theorem ofName?_name (policy : EofPolicy) : ofName? policy.name = some policy := by
  cases policy <;> decide

end EofPolicy

/-- A policy that is given as a member of its enumeration, and not by its name. -/
inductive Member
  /-- A member of the ways to address a tape. -/
  | addressing (policy : Addressing)
  /-- A member of the ways to read at the end of the input. -/
  | eof (policy : EofPolicy)
  deriving DecidableEq, Repr

namespace Member

/-- The name of the enumeration of a member. -/
def kindName : Member → String
  | addressing _ => "AddressingPolicy"
  | eof _ => "EofPolicy"

/-- The name of a policy. -/
def name : Member → String
  | addressing policy => policy.name
  | eof policy => policy.name

/-- The label of a member in its enumeration. -/
def label : Member → String
  | addressing .bounded => "BOUNDED"
  | addressing .growable => "GROWABLE"
  | addressing .sparse => "SPARSE"
  | eof .unchanged => "UNCHANGED"
  | eof .zero => "ZERO"

/-- A member as it is displayed. -/
def display (member : Member) : String :=
  member.kindName ++ "." ++ member.label

end Member
end TapeMachine

import TapeMachine.Command
import TapeMachine.Diagnostic
import Std.Data.ExtTreeMap

/-!
# Loops

The brackets of a program have to match.  A loop table sends the position of every bracket to
the position of its partner, and remembers the order in which the positions were entered.
-/

namespace TapeMachine

/-- A table that sends positions of brackets to the positions of their partners. -/
structure LoopTable where
  /-- The positions in the order in which they were first entered. -/
  order : Array Int
  /-- The partner of each position. -/
  partners : Std.ExtTreeMap Int Int

namespace LoopTable

/-- The table without entries. -/
def empty : LoopTable := ⟨#[], ∅⟩

/-- Enters a pair.  A position that is already present keeps its place and gets a new partner. -/
def insert (table : LoopTable) (position partner : Int) : LoopTable :=
  { order :=
      if position ∈ table.partners then table.order else table.order.push position
    partners := table.partners.insert position partner }

/-- The partner of a position. -/
def partner? (table : LoopTable) (position : Int) : Option Int :=
  table.partners[position]?

/-- The pairs in the order in which their positions were first entered. -/
def pairs (table : LoopTable) : List (Int × Int) :=
  table.order.toList.filterMap fun position =>
    (table.partner? position).map fun partner => (position, partner)

/-- The number of entries. -/
def size (table : LoopTable) : Nat :=
  table.order.size

/-- The number of loops, each of which has two entries. -/
def loopCount (table : LoopTable) : Nat :=
  table.size / 2

/-- The table that results from entering pairs in turn. -/
def ofPairs (pairs : List (Int × Int)) : LoopTable :=
  pairs.foldl (fun table pair => table.insert pair.1 pair.2) empty

/-- A table as it is shown. -/
def text (table : LoopTable) : String :=
  let entries := table.pairs.map fun pair => toString pair.1 ++ ": " ++ toString pair.2
  "LoopTable(\x7b" ++ ", ".intercalate entries ++ "\x7d)"

@[simp]
theorem partner?_empty (position : Int) : empty.partner? position = none := by
  simp [partner?, empty]

/-- Entering a pair changes the partner of its position and of no other. -/
theorem partner?_insert
    (table : LoopTable)
    (position partner other : Int) :
    (table.insert position partner).partner? other =
      if position = other then some partner else table.partner? other := by
  simp only [partner?, insert, Std.ExtTreeMap.getElem?_insert, Std.LawfulEqCmp.compare_eq_iff_eq]

/-- The two entries of a loop. -/
def insertLoop (table : LoopTable) (start stop : Nat) : LoopTable :=
  (table.insert start stop).insert stop start

end LoopTable

/-- A bracket without a partner. -/
structure LoneBracket where
  /-- The position of the bracket. -/
  position : Nat
  /-- What is wrong with it. -/
  cause : RejectionCause
  deriving DecidableEq, Repr

/--
Matches the brackets of the rest of a program, which starts at a position.  The positions of
the loops that are still open come innermost first.  The first close without a partner ends the
scan; when opens are left over, the innermost is the lone bracket.
-/
def scanLoops :
    List Char → Nat → List Nat → LoopTable → Except LoneBracket LoopTable
  | [], _, [], table => .ok table
  | [], _, innermost :: _, _ => .error ⟨innermost, .unclosedOpen⟩
  | character :: rest, position, opens, table =>
    if character = '[' then scanLoops rest (position + 1) (position :: opens) table
    else if character = ']' then
      match opens with
      | [] => .error ⟨position, .unmatchedClose⟩
      | start :: outer =>
        scanLoops rest (position + 1) outer (table.insertLoop start position)
    else scanLoops rest (position + 1) opens table

/-- The loop table of a program, or its rejection when the brackets do not match. -/
def matchLoops (code : List Char) : Except Rejection LoopTable :=
  match scanLoops code 0 [] .empty with
  | .ok table => .ok table
  | .error bracket => .error ⟨.ofOffset code bracket.position, bracket.cause⟩

/-- A program whose brackets match, together with its loop table. -/
structure Program where
  /-- The text of the program. -/
  code : Array Char
  /-- The partners of its brackets. -/
  loops : LoopTable
  /-- The table is the one of the text. -/
  matched : matchLoops code.toList = .ok loops

namespace Program

/-- Accepts a text whose brackets match. -/
def parse (code : String) : Except Rejection Program :=
  let characters := code.toList.toArray
  match matched : matchLoops characters.toList with
  | .ok table => .ok ⟨characters, table, matched⟩
  | .error rejection => .error rejection

/-- The number of characters. -/
def length (program : Program) : Nat :=
  program.code.size

/-- The command at a position. -/
def command? (program : Program) (position : Nat) : Option Command :=
  (program.code[position]?).bind Command.ofChar?

/-- The position of the first command at or after a position, or the end of the program. -/
def nextCommand (program : Program) (position : Nat) : Nat :=
  if inside : position < program.code.size then
    if (Command.ofChar? program.code[position]).isNone then
      program.nextCommand (position + 1)
    else position
  else position
  termination_by program.code.size - position

/-- The position of the partner of a bracket. -/
def partner? (program : Program) (position : Nat) : Option Nat :=
  (program.loops.partner? position).map Int.toNat

/-- The location of a position. -/
def locate (program : Program) (position : Nat) : Location :=
  .ofOffset program.code.toList position

end Program
end TapeMachine

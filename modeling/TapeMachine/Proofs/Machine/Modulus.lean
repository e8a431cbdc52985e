import TapeMachine.Proofs.Machine.Lockstep
import TapeMachine.Proofs.Tape.Folding

/-!
# Runs on a folded tape

A machine on a sparse tape with a modulus runs in lockstep with the same machine on a sparse tape
without one as long as the cursor of the latter stays in a window that is no wider than the modulus.
The tape with the modulus is then a folded copy of the other one, and its cursor is the residue of
the other cursor.

The window need not begin at zero: residues of negative indices are taken from the top.
-/

namespace TapeMachine
namespace Machine

/-- The same machine on a copy of its tape, at the residue of its cursor. -/
def onCopy (machine : Machine) (modulus : Nat) (copy : Tape) : Machine :=
  { machine with cursor := machine.cursor % modulus, tape := copy }

theorem receive_onCopy (machine : Machine) (modulus : Nat) (copy : Tape) :
    (machine.onCopy modulus copy).receive =
      machine.receive.onCopy modulus
        (machine.received?.elim copy (copy.set (machine.cursor % modulus))) := by
  obtain ⟨sameFeed, sameQueue, sameExhausted⟩ :=
    fill_congr (machine.onCopy modulus copy) machine rfl rfl rfl
  rw [receive_eq, receive_eq machine, sameFeed, sameQueue, sameExhausted,
    received?_congr (machine.onCopy modulus copy) machine rfl rfl rfl rfl]
  rfl

/-- A machine is like another one, which runs on a folded copy of its tape. -/
structure Folded (low : Int) (modulus : Nat) (machine other : Machine) : Prop where
  /-- The machines differ in the tape and the cursor. -/
  copied : other = machine.onCopy modulus other.tape
  /-- The tape of the other machine is a folded copy. -/
  folds : machine.tape.Folds low modulus other.tape

namespace Folded

variable {low : Int} {modulus : Nat} {machine other : Machine}

theorem cursor_eq (folded : Folded low modulus machine other) :
    other.cursor = machine.cursor % modulus := by
  rw [folded.copied]
  rfl

theorem cell_eq
    (folded : Folded low modulus machine other)
    (inside : Window low modulus machine.cursor) :
    other.cell = machine.cell := by
  rw [cell, folded.cursor_eq]
  exact folded.folds.get_eq machine.cursor inside

theorem store
    (folded : Folded low modulus machine other)
    (inside : Window low modulus machine.cursor)
    (byte : UInt8) :
    Folded low modulus (machine.store byte) (other.store byte) := by
  refine ⟨?_, ?_⟩
  · rw [folded.copied]
    rfl
  · rw [Machine.store, Machine.store, folded.cursor_eq]
    exact folded.folds.set inside byte

theorem emit
    (folded : Folded low modulus machine other)
    (inside : Window low modulus machine.cursor) :
    Folded low modulus machine.emit other.emit := by
  refine ⟨?_, folded.folds⟩
  rw [Machine.emit, Machine.emit, folded.cell_eq inside, folded.copied]
  rfl

theorem receive
    (folded : Folded low modulus machine other)
    (inside : Window low modulus machine.cursor) :
    Folded low modulus machine.receive other.receive := by
  rw [folded.copied, receive_onCopy]
  refine ⟨rfl, ?_⟩
  -- both machines have received the same, and it goes where the cursor is
  rw [receive_eq]
  cases machine.received? with
  | none => exact folded.folds
  | some byte => exact folded.folds.set inside byte

/-- The cursor moves on both tapes, and neither tape changes. -/
theorem shift
    (folded : Folded low modulus machine other)
    (distance : Int) :
    ∃ changed otherChanged, machine.shift distance = .ok changed ∧
      other.shift distance = .ok otherChanged ∧ Folded low modulus changed otherChanged := by
  obtain ⟨moved, otherMoved⟩ := folded.folds.move machine.cursor distance
  rw [← folded.cursor_eq] at otherMoved
  refine ⟨_, _, shift_of_ok moved, shift_of_ok otherMoved, ?_, folded.folds⟩
  rw [folded.copied]
  rfl

/-- Inside the window no command fails, and its effects are alike. -/
theorem effect
    (folded : Folded low modulus machine other)
    (inside : Window low modulus machine.cursor)
    (command : Command) :
    ∃ changed otherChanged, machine.effect command = .ok changed ∧
      other.effect command = .ok otherChanged ∧ Folded low modulus changed otherChanged := by
  have sameCell := folded.cell_eq inside
  cases command with
  | increment =>
      refine ⟨_, _, rfl, rfl, ?_⟩
      rw [sameCell]
      exact folded.store inside _
  | decrement =>
      refine ⟨_, _, rfl, rfl, ?_⟩
      rw [sameCell]
      exact folded.store inside _
  | moveLeft => exact folded.shift (-1)
  | moveRight => exact folded.shift 1
  | output => exact ⟨_, _, rfl, rfl, folded.emit inside⟩
  | input => exact ⟨_, _, rfl, rfl, folded.receive inside⟩
  | loopOpen | loopClose => exact ⟨_, _, rfl, rfl, folded⟩

end Folded

/-- Machines run in lockstep on a tape and a folded copy of it while the cursor is in the window. -/
theorem lockstep_folded (low : Int) (modulus : Nat) :
    Lockstep (fun machine => Window low modulus machine.cursor) (Folded low modulus) where
  abreast folded := by
    rw [folded.copied]
    exact ⟨rfl, rfl, rfl, rfl, rfl⟩
  steer folded position cycles status failure? := by
    refine ⟨?_, folded.folds⟩
    rw [folded.copied]
    rfl
  cell folded inside := folded.cell_eq inside
  effect folded inside _ := Or.inr (folded.effect inside _)

end Machine

namespace Settings

/-- The settings with a sparse tape, with a modulus or without one. -/
def sparse (settings : Settings) (modulus : Option Positive) : Settings :=
  { settings with addressing := .sparse, modulus := modulus }

theorem folded_launch
    (settings : Settings)
    (low : Int)
    (modulus : Positive)
    (program : Program)
    (source : Source)
    (sink : Sink) :
    Machine.Folded low modulus.val ((settings.sparse none).launch program source sink)
      ((settings.sparse (some modulus)).launch program source sink) where
  copied := by
    have residue : (0 : Int) % (modulus.val : Int) = 0 := Int.zero_emod _
    rw [Machine.onCopy]
    simp only [launch, residue, sparse]
  folds := Tape.Folds.blank low modulus.val

/--
A modulus cannot be observed by a run that is narrower than it.  If the cursor of the run on a
sparse tape without a modulus stays in a window that is no wider than the modulus, the run with the
modulus has the same report.  After every step its cursor is the residue of the other cursor and its
stored cells are the other stored cells with their indices reduced.
-/
theorem modulus_is_unobservable_within_window
    (settings : Settings)
    (modulus : Positive)
    (low : Int)
    (code : String)
    (source : Source)
    (sink : Sink)
    (fuel : Nat)
    (given : Option Int)
    (narrow : ∀ program, Program.parse code = .ok program →
      ∀ taken ≤ (Call.run (settings.budget given)).allowance fuel,
        Window low modulus.val
          (((settings.sparse none).launch program source sink).run taken).cursor) :
    (settings.sparse (some modulus)).run? fuel given code source sink =
        (settings.sparse none).run? fuel given code source sink ∧
      ∀ program, Program.parse code = .ok program →
        ∀ taken ≤ (Call.run (settings.budget given)).allowance fuel,
          let unbounded := ((settings.sparse none).launch program source sink).run taken
          let folded := ((settings.sparse (some modulus)).launch program source sink).run taken
          folded.report = unbounded.report ∧
            folded.cursor = unbounded.cursor % modulus.val ∧
            folded.tape.touched.Perm
              (unbounded.tape.touched.map fun entry =>
                (entry.1 % (modulus.val : Int), entry.2)) := by
  have lockstep := Machine.lockstep_folded low modulus.val
  have sameReport {machine other : Machine}
      (folded : Machine.Folded low modulus.val machine other) : other.report = machine.report := by
    rw [folded.copied]
    rfl
  constructor
  · unfold run?
    cases parsed : Program.parse code with
    | error rejection => rfl
    | ok program =>
        apply lockstep.map_runWithin? (settings.folded_launch low modulus program source sink)
        · exact fun taken fewer => narrow program parsed taken (Nat.le_of_lt fewer)
        · exact sameReport
  · intro program parsed taken within unbounded folded
    have still : Machine.Folded low modulus.val unbounded folded := by
      apply lockstep.run (settings.folded_launch low modulus program source sink)
      exact fun fewer small =>
        narrow program parsed fewer (Nat.le_trans (Nat.le_of_lt small) within)
    refine ⟨sameReport still, ?_, ?_⟩
    · rw [still.copied]
      rfl
    · apply still.folds.touched_perm
      · exact (((settings.sparse none).launch_sound program source sink).run taken).neat
      · exact (((settings.sparse (some modulus)).launch_sound program source sink).run taken).neat

/-- A walk over two cells, the second of them left of the first, with a modulus of two. -/
theorem modulus_is_unobservable_left_of_start :
    let settings : Settings := {}
    let two : Positive := ⟨2, by decide⟩
    let program : Program := ⟨#['+', '<', '+', '.'], .empty, rfl⟩
    let unbounded := ((settings.sparse none).launch program .closed .absent).run 3
    let folded := ((settings.sparse (some two)).launch program .closed .absent).run 3
    Program.parse "+<+." = .ok program ∧
      (settings.sparse (some two)).run? 0 (some 4) "+<+." .closed .absent =
        (settings.sparse none).run? 0 (some 4) "+<+." .closed .absent ∧
      unbounded.cursor = -1 ∧ folded.cursor = 1 ∧
      unbounded.tape.touched = [(-1, 1), (0, 1)] ∧
      folded.tape.touched.Perm [(1, 1), (0, 1)] := by
  intro settings two program unbounded folded
  have narrow : ∀ taken ≤ 4, Window (-1) 2
      (((settings.sparse none).launch program .closed .absent).run taken).cursor := by
    decide +kernel
  obtain ⟨sameRun, states⟩ := modulus_is_unobservable_within_window settings two (-1) "+<+."
    .closed .absent 0 (some 4) (by
      intro found parsed
      cases parsed
      exact narrow)
  obtain ⟨-, cursor, cells⟩ := states program rfl 3 (by decide)
  have atLeft : unbounded.cursor = -1 := by decide +kernel
  have stored : unbounded.tape.touched = [(-1, 1), (0, 1)] := by decide +kernel
  refine ⟨rfl, sameRun, atLeft, ?_, stored, ?_⟩
  · rw [cursor, atLeft]
    rfl
  · rw [stored] at cells
    exact cells

end Settings
end TapeMachine

import TapeMachine.Proofs.Machine.Guarded
import TapeMachine.Proofs.Machine.History
import TapeMachine.Proofs.Tape.Storage

/-!
# Accesses of a machine

A machine uses its tape only where its cursor stands: it reads and writes there, and it moves from
there by one cell.  So the tape of a machine in any state of a run is the blank tape after the
accesses that the commands so far have made, and the storage after the same accesses represents it.
-/

namespace TapeMachine
namespace Machine

/-- The accesses that a command makes to the tape. -/
def accesses (machine : Machine) : Command → List Access
  | .increment => [.read machine.cursor, .write machine.cursor (machine.cell.toNat + 1)]
  | .decrement => [.read machine.cursor, .write machine.cursor (machine.cell.toNat - 1)]
  | .moveLeft => [.move machine.cursor (-1)]
  | .moveRight => [.move machine.cursor 1]
  | .output => [.read machine.cursor]
  | .input => (machine.received?.map fun byte => .write machine.cursor byte.toNat).toList
  | .loopOpen => [.read machine.cursor]
  | .loopClose => [.read machine.cursor]

variable {machine : Machine}

/-- Writing a byte where the cursor stands puts it there. -/
theorem after_write_cursor
    (contained : machine.tape.extent.Contains machine.cursor)
    {value : Int}
    {byte : UInt8}
    (same : byteOfInt value = byte) :
    machine.tape.after (.write machine.cursor value) = machine.tape.set machine.cursor byte := by
  simp only [Tape.after, Tape.write_of_contains contained, same]

/-- A move of the cursor, successful or failing, is a move on the tape. -/
theorem tape_moveCursor (machine : Machine) (distance : Int) :
    (machine.moveCursor distance).tape = machine.tape.after (.move machine.cursor distance) := by
  simp only [moveCursor, Tape.after]
  cases machine.tape.move machine.cursor distance with
  | ok reached => rfl
  | error fault => rfl

/-- A command leaves the tape as its accesses do. -/
theorem tape_perform
    (contained : machine.tape.extent.Contains machine.cursor)
    (command : Command) :
    (machine.perform command).tape = machine.tape.afterAll (machine.accesses command) := by
  cases command with
  | increment => exact (after_write_cursor contained (byteOfInt_toNat_add_one machine.cell)).symm
  | decrement => exact (after_write_cursor contained (byteOfInt_toNat_sub_one machine.cell)).symm
  | moveLeft => exact machine.tape_moveCursor (-1)
  | moveRight => exact machine.tape_moveCursor 1
  | output => rfl
  | input =>
      have received : (machine.perform .input).tape = machine.receive.tape := rfl
      rw [received, receive_eq, accesses]
      cases machine.received? with
      | none => rfl
      | some byte => exact (after_write_cursor contained (byteOfInt_toNat byte)).symm
  | loopOpen | loopClose =>
      rw [perform_eq]
      rfl

end Machine

/-- The accesses that a turn makes to the tape. -/
def Turn.accesses (turn : Turn) : List Access :=
  turn.before.accesses turn.command

namespace Machine

theorem tape_run_zero (machine : Machine) : (machine.run 0).tape = machine.tape := by
  obtain ⟨position, status, settled⟩ := machine.exists_run_zero_eq
  rw [settled]

/-- A run leaves the tape as the accesses of its turns do. -/
theorem tape_run
    {program : Program}
    {start : Extent}
    {machine : Machine}
    (sound : machine.Sound program start)
    (budget : Nat) :
    (machine.run budget).tape =
      machine.tape.afterAll ((machine.turns budget).flatMap Turn.accesses) := by
  induction budget with
  | zero => exact machine.tape_run_zero
  | succ budget inductionHypothesis =>
      rw [turns_succ, List.flatMap_append, Tape.afterAll_append, ← inductionHypothesis,
        run_succ_right]
      by_cases runs : (machine.run budget).running
      · obtain ⟨command, found⟩ := machine.settled_run budget runs
        have led : ((machine.run budget).run 1).tape =
            ((machine.run budget).perform command).tape :=
          (congrArg Machine.tape (run_of_command? runs found 0)).trans (tape_run_zero _)
        rw [turn?_of_command? runs found, led, tape_perform (sound.run budget).cursor_contained,
          Option.toList_some, List.flatMap_singleton]
        rfl
      · rw [turn?_of_not_running runs, run_of_not_running runs]
        rfl

end Machine

namespace Settings

/--
In every state that calls can reach, the cells of the tape are laid out as by the accesses of the
commands so far: reading where the cursor stands gives the current cell, a move from there ends or
fails alike, every window shows the same, and so do the list of the cells and the size.
-/
theorem storage_of_reached_machine
    (settings : Settings)
    (program : Program)
    (source : Source)
    (sink : Sink)
    (fuel : Nat)
    (calls : List Call)
    (machine : Machine) :
    let start := settings.launch program source sink
    let storage := (Storage.blank settings.extent).afterAll
      ((start.turnsAlong fuel calls).flatMap Turn.accesses)
    start.answerAll? fuel calls = some machine →
      storage.read machine.cursor = .ok machine.cell ∧
        (∀ distance, (storage.move machine.cursor distance).1 =
          (machine.tape.move machine.cursor distance).map Prod.fst) ∧
        (∀ first last, storage.snapshot first last = .ok (machine.tape.snapshot first last)) ∧
        storage.touched = machine.tape.touched ∧
        storage.extent = machine.tape.extent := by
  intro start storage reached
  have sound := settings.launch_sound program source sink
  obtain ⟨steps, position, status, sameTurns, ran⟩ := exists_run_of_answerAll? reached
  have laidOut : machine.tape = (Tape.ofExtent settings.extent).afterAll
      ((start.turnsAlong fuel calls).flatMap Turn.accesses) := by
    have led := Machine.tape_run sound steps
    rw [ran, ← sameTurns] at led
    exact led
  have represents : storage.Represents machine.tape := by
    rw [laidOut]
    exact (Storage.Represents.blank settings.extent).afterAll _
  have contained : machine.tape.extent.Contains machine.cursor := by
    have inside := (sound.run steps).cursor_contained
    rw [ran] at inside
    exact inside
  refine ⟨?_, fun distance => (represents.move _ distance).1, represents.snapshot_eq,
    represents.touched_eq, represents.extent_eq⟩
  rw [represents.read_eq, Tape.read_of_contains contained]
  rfl

end Settings
end TapeMachine

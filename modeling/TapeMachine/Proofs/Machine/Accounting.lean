import Mathlib.Data.List.DropRight
import TapeMachine.Proofs.Input.Polling

/-!
# Accounts

The cursor and the cells of a machine can be told from the commands that it has executed.  The
cursor stands where the moves to the right less the moves to the left have brought it, reduced by
the modulus if the tape has one.  A cell holds the byte that was last read into it, or zero, plus
the increments less the decrements at this cell since then, modulo 256.

The executed commands are the turns of a machine without a last one that has failed.  One more of
them changes the account in the same way as it changes the machine; a run only adds turns.
-/

namespace TapeMachine
namespace Extent

/-- The index at a distance from the first cell. -/
def wrap : Extent → Int → Int
  | sparse (some modulus), distance => distance % modulus
  | _, distance => distance

theorem wrap_zero (extent : Extent) : extent.wrap 0 = 0 := by
  rcases extent with size | size | _ | modulus
  · rfl
  · rfl
  · rfl
  · exact Int.zero_emod _

/-- A step that goes on from an index may go on from the distance of the index instead. -/
theorem wrap_wrap_add (extent : Extent) (distance step : Int) :
    extent.wrap (extent.wrap distance + step) = extent.wrap (distance + step) := by
  rcases extent with size | size | _ | modulus
  · rfl
  · rfl
  · rfl
  · exact Int.emod_add_emod _ _ _

theorem Grows.wrap_eq
    {before after : Extent}
    (grows : before.Grows after) :
    after.wrap = before.wrap := by
  rcases grows.eq_or_growable with rfl | ⟨size, larger, rfl, rfl, -⟩
  · rfl
  · rfl

end Extent

namespace Tape

/-- A move that succeeds ends at the index at its distance, whatever room has been made for it. -/
theorem move_eq_wrap
    {tape moved : Tape}
    {index distance target : Int}
    (reached : tape.move index distance = .ok (target, moved)) :
    target = tape.extent.wrap (index + distance) ∧ moved.extent.wrap = tape.extent.wrap ∧
      moved.cells = tape.cells := by
  obtain ⟨extent, cells⟩ := tape
  cases extent with
  | bounded size =>
      simp only [move] at reached
      split_ifs at reached
      cases reached
      exact ⟨rfl, rfl, rfl⟩
  | growable size =>
      simp only [move] at reached
      split_ifs at reached
      cases reached
      exact ⟨rfl, rfl, rfl⟩
  | sparse modulus =>
      cases modulus with
      | none =>
          cases reached
          exact ⟨rfl, rfl, rfl⟩
      | some modulus =>
          cases reached
          exact ⟨rfl, rfl, rfl⟩

end Tape

namespace Turn

/-- Whether the command of a turn has been executed; one at which the machine fails has not. -/
def executed (turn : Turn) : Bool :=
  turn.after.failure?.isNone

/-- The byte that a turn has stored by reading, if it has stored one. -/
def stored? (turn : Turn) : Option UInt8 :=
  match turn.command with
  | .input => turn.before.received?
  | _ => none

end Turn

namespace Machine

/-! ## Accounts of turns -/

/-- The turns whose commands have been executed. -/
def executed (turns : List Turn) : List Turn :=
  turns.filter Turn.executed

/-- The turns that were taken with the cursor at an index. -/
def takenAt (index : Int) (turns : List Turn) : List Turn :=
  turns.filter fun turn => turn.before.cursor = index

/-- How many of some turns have a command. -/
def tally (command : Command) (turns : List Turn) : Int :=
  turns.countP fun turn => turn.command = command

/-- The byte that some turns have stored last by reading, or zero if they have stored none. -/
def lastStored (turns : List Turn) : UInt8 :=
  (turns.filterMap Turn.stored?).getLastD 0

/-- The turns after the last one that has stored a byte by reading, or all if none has. -/
def sinceStored (turns : List Turn) : List Turn :=
  turns.rtakeWhile fun turn => turn.stored?.isNone

/-- What some turns at one cell amount to. -/
def balance (turns : List Turn) : Int :=
  (lastStored turns).toNat + tally .increment (sinceStored turns) -
    tally .decrement (sinceStored turns)

theorem tally_concat (command : Command) (turns : List Turn) (turn : Turn) :
    tally command (turns ++ [turn]) =
      tally command turns + if turn.command = command then 1 else 0 := by
  rw [tally, List.countP_append, List.countP_singleton, Nat.cast_add, tally]
  by_cases same : turn.command = command
  · simp [same]
  · simp [same]

theorem takenAt_concat (index : Int) (turns : List Turn) (turn : Turn) :
    takenAt index (turns ++ [turn]) =
      if turn.before.cursor = index then takenAt index turns ++ [turn]
      else takenAt index turns := by
  rw [takenAt, List.filter_append, takenAt]
  by_cases here : turn.before.cursor = index
  · simp [here]
  · simp [here]

/-- A byte that is stored settles the account. -/
theorem balance_concat_of_some
    {turn : Turn}
    {byte : UInt8}
    (turns : List Turn)
    (stored : turn.stored? = some byte) :
    balance (turns ++ [turn]) = byte.toNat := by
  have last : lastStored (turns ++ [turn]) = byte := by
    rw [lastStored, List.filterMap_append]
    simp [stored]
  have since : sinceStored (turns ++ [turn]) = [] :=
    List.rtakeWhile_concat_neg _ _ _ (by simp [stored])
  rw [balance, last, since]
  simp [tally]

/-- A turn that stores no byte by reading adds to the account what its command says. -/
theorem balance_concat_of_none
    {turn : Turn}
    (turns : List Turn)
    (stored : turn.stored? = none) :
    balance (turns ++ [turn]) =
      balance turns + (if turn.command = .increment then 1 else 0) -
        if turn.command = .decrement then 1 else 0 := by
  have last : lastStored (turns ++ [turn]) = lastStored turns := by
    rw [lastStored, List.filterMap_append, lastStored]
    simp [stored]
  have since : sinceStored (turns ++ [turn]) = sinceStored turns ++ [turn] :=
    List.rtakeWhile_concat_pos _ _ _ (by simp [stored])
  rw [balance, last, since, tally_concat, tally_concat, balance]
  omega

/-! ## Accounts of one command -/

/-- The byte that a command leaves in the current cell. -/
def written (machine : Machine) : Command → UInt8
  | .increment => machine.cell + 1
  | .decrement => machine.cell - 1
  | .input => machine.received?.getD machine.cell
  | _ => machine.cell

theorem get_store (machine : Machine) (byte : UInt8) (index : Int) :
    (machine.store byte).tape.get index =
      if machine.cursor = index then byte else machine.tape.get index :=
  Cells.get_set _ _ _ _

/-- A move of the cursor ends at the index at its distance and changes no cell. -/
theorem shift_eq_wrap
    {machine changed : Machine}
    {distance : Int}
    (shifted : machine.shift distance = .ok changed) :
    changed.cursor = machine.tape.extent.wrap (machine.cursor + distance) ∧
      changed.tape.extent.wrap = machine.tape.extent.wrap ∧
      changed.tape.cells = machine.tape.cells := by
  cases moved : machine.tape.move machine.cursor distance with
  | error fault =>
      rw [shift_of_error moved] at shifted
      cases shifted
  | ok reached =>
      obtain ⟨cursor, tape⟩ := reached
      rw [shift_of_ok moved] at shifted
      cases shifted
      exact Tape.move_eq_wrap moved

/-- A command changes no other cell than the current one. -/
theorem get_effect
    {machine changed : Machine}
    {command : Command}
    (effect : machine.effect command = .ok changed)
    (index : Int) :
    changed.tape.get index =
      if machine.cursor = index then machine.written command else machine.tape.get index := by
  -- a machine whose cells stay as they are has its own byte in the current cell
  have unchanged : machine.tape.get index =
      if machine.cursor = index then machine.cell else machine.tape.get index := by
    split_ifs with here
    · rw [cell, here]
    · rfl
  cases command with
  | increment | decrement =>
      cases effect
      exact machine.get_store _ index
  | moveLeft | moveRight =>
      obtain ⟨-, -, cells⟩ := shift_eq_wrap effect
      rw [Tape.get, cells]
      exact unchanged
  | output | loopOpen | loopClose =>
      cases effect
      exact unchanged
  | input =>
      cases effect
      rw [receive_eq, written]
      cases machine.received? with
      | none => exact unchanged
      | some byte => exact machine.get_store byte index

/-- The distance over which a command moves the cursor. -/
def stride : Command → Int
  | .moveLeft => -1
  | .moveRight => 1
  | _ => 0

/-- A command moves the cursor over its distance if the cursor is at the index of some distance. -/
theorem cursor_effect
    {machine changed : Machine}
    {command : Command}
    {distance : Int}
    (effect : machine.effect command = .ok changed)
    (cursor : machine.cursor = machine.tape.extent.wrap distance) :
    changed.cursor = changed.tape.extent.wrap (distance + stride command) := by
  cases command with
  | moveLeft | moveRight =>
      obtain ⟨target, sameWrap, -⟩ := shift_eq_wrap effect
      rw [target, sameWrap, cursor, Extent.wrap_wrap_add]
      rfl
  | input =>
      cases effect
      simp only [stride, Int.add_zero, receive_eq]
      cases machine.received? with
      | none => exact cursor
      | some byte => exact cursor
  | increment | decrement | output | loopOpen | loopClose =>
      cases effect
      simp only [stride, Int.add_zero]
      exact cursor

/-- The byte that a command leaves behind is the one that the account of the cell says. -/
theorem toNat_written
    {machine : Machine}
    {turns : List Turn}
    (cell : (machine.cell.toNat : Int) = balance turns % 256)
    (command : Command)
    (after : Machine) :
    ((machine.written command).toNat : Int) =
      balance (turns ++ [⟨command, machine, after⟩]) % 256 := by
  have one : (1 : UInt8).toNat = 1 := rfl
  cases command with
  | increment =>
      rw [balance_concat_of_none turns rfl, written, UInt8.toNat_add, one]
      simp only [reduceCtorEq, if_true, if_false]
      omega
  | decrement =>
      rw [balance_concat_of_none turns rfl, written, UInt8.toNat_sub, one]
      simp only [reduceCtorEq, if_true, if_false]
      omega
  | input =>
      cases received : machine.received? with
      | some byte =>
          have small := byte.toNat_lt
          have stored : Turn.stored? ⟨.input, machine, after⟩ = some byte := received
          rw [balance_concat_of_some turns stored, written, received, Option.getD_some]
          omega
      | none =>
          have stored : Turn.stored? ⟨.input, machine, after⟩ = none := received
          rw [balance_concat_of_none turns stored, written, received, Option.getD_none]
          simp only [reduceCtorEq, if_false]
          omega
  | moveLeft | moveRight | output | loopOpen | loopClose =>
      rw [balance_concat_of_none turns rfl]
      simp only [written, reduceCtorEq, if_false]
      omega

/-! ## Accounts of a run -/

/-- The state of a machine is what the commands that it has executed amount to. -/
structure Accounts (turns : List Turn) (machine : Machine) : Prop where
  /-- Every executed command has been counted. -/
  cycles : machine.cycles = turns.length
  /-- The moves have brought the cursor to its index. -/
  cursor : machine.cursor =
    machine.tape.extent.wrap (tally .moveRight turns - tally .moveLeft turns)
  /-- Every cell holds what the turns at it amount to. -/
  cells : ∀ index, ((machine.tape.get index).toNat : Int) = balance (takenAt index turns) % 256

namespace Accounts

variable {turns : List Turn} {machine : Machine}

/-- One more command that is executed is one more turn of the account. -/
theorem execute
    {changed : Machine}
    {command : Command}
    (accounts : Accounts turns machine)
    (effect : machine.effect command = .ok changed)
    (target : Nat)
    (after : Machine) :
    Accounts (turns ++ [⟨command, machine, after⟩]) (changed.proceed target) where
  cycles := by
    rw [List.length_append, ← accounts.cycles, ← (sameControl_effect effect).cycles]
    rfl
  cursor := by
    have moved := cursor_effect effect accounts.cursor
    have distance : tally .moveRight (turns ++ [⟨command, machine, after⟩]) -
          tally .moveLeft (turns ++ [⟨command, machine, after⟩]) =
        tally .moveRight turns - tally .moveLeft turns + stride command := by
      rw [tally_concat, tally_concat]
      cases command <;> simp [stride] <;> omega
    rw [distance]
    exact moved
  cells := by
    intro index
    change ((changed.tape.get index).toNat : Int) = _
    rw [get_effect effect, takenAt_concat]
    split_ifs with here
    · apply toNat_written
      rw [cell, here]
      exact accounts.cells index
    · exact accounts.cells index

end Accounts

/-- A command that a running machine takes up is executed exactly when it has an effect. -/
theorem executed_perform
    {machine : Machine}
    (coherent : machine.Coherent)
    (runs : machine.running)
    (command : Command) :
    Turn.executed ⟨command, machine, machine.perform command⟩ =
      (machine.effect command).isOk := by
  rw [Turn.executed, perform_eq]
  cases effect : machine.effect command with
  | error cause => rfl
  | ok changed =>
      have clean : changed.failure? = none :=
        (sameControl_effect effect).failure?.trans (coherent.failure?_of_running runs)
      simp only [advance, clean]
      rfl

/-- With one more step a machine settles where it is, or it executes one more command. -/
theorem executed_succ_cases
    {machine : Machine}
    (coherent : machine.Coherent)
    (budget : Nat) :
    (executed (machine.turns (budget + 1)) = executed (machine.turns budget) ∧
        ∃ position status failure?, machine.run (budget + 1) =
          { machine.run budget with
            position := position
            status := status
            failure? := failure? }) ∨
      ∃ standing command changed, standing = machine.run budget ∧
        standing.effect command = .ok changed ∧
        executed (machine.turns (budget + 1)) =
          executed (machine.turns budget) ++ [⟨command, standing, standing.perform command⟩] ∧
        machine.run (budget + 1) = (changed.proceed (standing.target command)).skipComments := by
  rw [turns_succ, run_succ_right, executed, List.filter_append, ← executed]
  rcases (machine.settled_run budget).run_one_cases with ⟨stopped, same⟩ |
    ⟨runs, command, changed, found, effect, advanced⟩ |
    ⟨runs, command, cause, found, effect, failed⟩
  · rw [turn?_of_not_running stopped, same]
    exact Or.inl ⟨List.append_nil _, _, _, _, rfl⟩
  · have counts := executed_perform (coherent.run budget) runs command
    rw [effect] at counts
    refine Or.inr ⟨_, command, changed, rfl, effect, ?_, advanced⟩
    rw [turn?_of_command? runs found, Option.toList_some, List.filter_cons_of_pos counts,
      List.filter_nil]
  · have ignored := executed_perform (coherent.run budget) runs command
    rw [effect] at ignored
    rw [turn?_of_command? runs found, failed, Option.toList_some,
      List.filter_cons_of_neg (by rw [ignored]; exact Bool.false_ne_true)]
    exact Or.inl ⟨List.append_nil _, _, _, _, rfl⟩

/-- The executed commands of a run account for the machine to which it has led. -/
theorem accounts_run
    {machine : Machine}
    (coherent : machine.Coherent)
    (fresh : machine.Accounts [])
    (budget : Nat) :
    (machine.run budget).Accounts (executed (machine.turns budget)) := by
  induction budget with
  | zero =>
      obtain ⟨position, status, settled⟩ := machine.exists_run_zero_eq
      rw [settled]
      exact ⟨fresh.cycles, fresh.cursor, fresh.cells⟩
  | succ budget inductionHypothesis =>
      rcases executed_succ_cases coherent budget with
        ⟨sameTurns, position, status, failure?, settled⟩ |
        ⟨_, command, changed, rfl, effect, oneMore, advanced⟩
      · rw [sameTurns, settled]
        exact ⟨inductionHypothesis.cycles, inductionHypothesis.cursor, inductionHypothesis.cells⟩
      · have next := inductionHypothesis.execute effect
          ((machine.run budget).target command) ((machine.run budget).perform command)
        rw [oneMore, advanced]
        exact ⟨next.cycles, next.cursor, next.cells⟩

/-- Reads do not fail: each of them is among the executed commands. -/
theorem reads_executed
    {machine : Machine}
    (coherent : machine.Coherent)
    (budget : Nat) :
    reads (executed (machine.turns budget)) = reads (machine.turns budget) := by
  rw [reads, executed, List.filter_filter, reads]
  apply List.filter_congr
  intro turn member
  obtain ⟨earlier, runs, taken⟩ := exists_of_mem_turns member
  by_cases isInput : turn.command = .input
  · have counts : turn.executed = true := by
      rw [taken, executed_perform (coherent.run earlier) runs, isInput]
      rfl
    rw [counts, Bool.and_true]
  · rw [decide_eq_false isInput, Bool.false_and]

end Machine

namespace Settings

theorem accounts_launch
    (settings : Settings)
    (program : Program)
    (source : Source)
    (sink : Sink) :
    (settings.launch program source sink).Accounts [] where
  cycles := rfl
  cursor := (Extent.wrap_zero _).symm
  cells := by
    intro index
    change ((Cells.blank.get index).toNat : Int) = _
    rw [Cells.get_blank]
    rfl

/--
In every state that calls can reach, the commands that have been executed account for the cursor and
for every cell.  The cursor stands at the moves to the right less the moves to the left, reduced by
the modulus if the tape has one.  A cell holds the last byte that was read into it, or zero if there
is none, plus the increments less the decrements at the cell since then, modulo 256.  What each read
has stored is the next byte of the input, or what the policy supplies when no byte is left.
-/
theorem executed_commands_account_for_state
    (settings : Settings)
    (program : Program)
    (source : Source)
    (sink : Sink)
    (fuel : Nat)
    (calls : List Call)
    (machine : Machine)
    (reached : (settings.launch program source sink).answerAll? fuel calls = some machine) :
    let executed := Machine.executed ((settings.launch program source sink).turnsAlong fuel calls)
    machine.cycles = executed.length ∧
      machine.cursor = settings.extent.wrap
        (Machine.tally .moveRight executed - Machine.tally .moveLeft executed) ∧
      (∀ index,
        let taken := Machine.takenAt index executed
        let since := Machine.sinceStored taken
        ((machine.tape.get index).toNat : Int) =
            ((Machine.lastStored taken).toNat + Machine.tally .increment since -
              Machine.tally .decrement since) % 256 ∧
          (machine.tape.extent.Contains index →
            machine.tape.read index = .ok (machine.tape.get index))) ∧
      ∀ number turn, (Machine.reads executed)[number]? = some turn →
        turn.stored? = (source.byte? number).or settings.eof.supply := by
  intro executed
  obtain ⟨steps, position, status, sameTurns, ran⟩ := exists_run_of_answerAll? reached
  have coherent := settings.launch_coherent program source sink
  have accounts :=
    Machine.accounts_run coherent (settings.accounts_launch program source sink) steps
  rw [← sameTurns, ran] at accounts
  refine ⟨accounts.cycles, ?_, ?_, ?_⟩
  · have grows := ((settings.launch_sound program source sink).answerAll? reached).grows
    rw [← grows.wrap_eq]
    exact accounts.cursor
  · intro index taken since
    exact ⟨accounts.cells index, fun contained => Tape.read_of_contains contained⟩
  · intro number turn found
    simp only [executed, sameTurns] at found
    rw [Machine.reads_executed coherent] at found
    have received := Machine.received?_of_getElem?_reads found
    obtain ⟨earlier, isRead, -⟩ := Machine.exists_of_getElem?_reads found
    rw [pending_launch] at received
    rw [isRead] at received ⊢
    exact received

/--
A byte is read and incremented past 255, a second cell is decremented below zero, and the move off
the left edge that follows is not executed.
-/
theorem executed_commands_account_for_failed_walk :
    let program : Program := ⟨#[',', '+', '>', '-', '<', '<'], .empty, rfl⟩
    let start := ({} : Settings).launch program (.whole [255]) .absent
    let executed := Machine.executed (start.turnsAlong 0 [.run (some 9)])
    start.answerAll? 0 [.run (some 9)] = some (start.run 9) ∧
      (start.run 9).failure?.isSome ∧
      executed.map Turn.command = [.input, .increment, .moveRight, .decrement, .moveLeft] ∧
      (start.run 9).cycles = 5 ∧
      (start.run 9).cursor = 0 ∧
      ((start.run 9).tape.get 0).toNat = (255 + 1 - 0 : Int) % 256 ∧
      ((start.run 9).tape.get 1).toNat = (0 + 0 - 1 : Int) % 256 := by
  intro program start executed
  have commands : executed.map Turn.command =
      [.input, .increment, .moveRight, .decrement, .moveLeft] := by decide +kernel
  obtain ⟨cycles, cursor, cells, -⟩ := executed_commands_account_for_state {} program (.whole [255])
    .absent 0 [.run (some 9)] (start.run 9) rfl
  refine ⟨rfl, by decide +kernel, commands, ?_, ?_, ?_, ?_⟩
  · rw [cycles]
    exact (List.length_map Turn.command).symm.trans (congrArg List.length commands)
  · rw [cursor]
    decide +kernel
  · rw [(cells 0).1]
    decide +kernel
  · rw [(cells 1).1]
    decide +kernel

end Settings
end TapeMachine

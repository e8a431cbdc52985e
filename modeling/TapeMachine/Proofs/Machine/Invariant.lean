import TapeMachine.Proofs.Brackets.Matching
import TapeMachine.Proofs.Machine.Calls
import TapeMachine.Proofs.Machine.Dispatch
import TapeMachine.Proofs.Tape.Extent
import TapeMachine.Settings.Run

/-!
# The states that a machine can reach

A machine that has been launched and driven by any calls is sound: its position lies inside its
program, it is finished only at the end of the program and has failed only at a move, its cursor
and its stored bytes lie inside the extent of its tape, and an exhausted source leaves no byte in
the queue.  One lemma for each thing that a command does shows that it keeps a machine sound; steps,
runs and sequences of calls follow.

That a machine at the end of its program is finished is brought about by every call rather than
kept: before the first call the empty program is at its end and still runs.
-/

namespace TapeMachine
namespace Program

/-- A command stands where its symbol stands. -/
theorem code_of_command?
    {program : Program}
    {position : Nat}
    {command : Command}
    (found : program.command? position = some command) :
    program.code[position]? = some command.symbol := by
  obtain ⟨character, lookup, isCommand⟩ := Option.bind_eq_some_iff.mp found
  rw [lookup, Command.ofChar?_eq_some_iff.mp isCommand]

/-- Every bracket has a partner. -/
theorem exists_partner?
    {program : Program}
    {position : Nat}
    (isBracket : Brackets.IsBracket program.code.toList position) :
    ∃ partner, program.partner? position = some partner := by
  have scanned := Brackets.scanned_of_matchLoops program.matched
  have present := (scanned.isSome_partner?_iff position).mpr ⟨position, rfl, isBracket⟩
  obtain ⟨partner, lookup⟩ := Option.isSome_iff_exists.mp present
  exact ⟨partner.toNat, by rw [partner?, lookup, Option.map_some]⟩

/-- Partners lie inside the program. -/
theorem partner?_lt_length
    {program : Program}
    {position partner : Nat}
    (paired : program.partner? position = some partner) :
    partner < program.length := by
  obtain ⟨found, lookup, rfl⟩ := Option.map_eq_some_iff.mp paired
  have scanned := Brackets.scanned_of_matchLoops program.matched
  obtain ⟨index, rfl, isBracket⟩ :=
    ((scanned.partners _ _).mp lookup).symm.isBracket
  rw [Int.toNat_natCast, length, ← Array.length_toList]
  rcases isBracket with opened | closed
  · exact (List.getElem?_eq_some_iff.mp opened).1
  · exact (List.getElem?_eq_some_iff.mp closed).1

end Program

namespace Machine

/-- What is true of a machine that runs a program on a tape that began with an extent. -/
structure Sound (program : Program) (start : Extent) (machine : Machine) : Prop where
  /-- The program stays the same. -/
  program_eq : machine.program = program
  /-- The tape has the extent with which it began, or has grown. -/
  grows : start.Grows machine.tape.extent
  /-- The position lies inside the program or at its end. -/
  position_le : machine.position ≤ program.length
  /-- A machine is finished only at the end of the program. -/
  finished_at_end : machine.status = .finished → machine.position = program.length
  /-- A machine holds a failure exactly if it has failed. -/
  coherent : machine.Coherent
  /-- A machine has failed only at a move. -/
  failed_at_move : machine.status = .failed →
    program.command? machine.position = some .moveLeft ∨
      program.command? machine.position = some .moveRight
  /-- The tape has the current cell. -/
  cursor_contained : machine.tape.extent.Contains machine.cursor
  /-- The tape stores what it should. -/
  neat : machine.tape.Neat
  /-- Nothing waits when the source is exhausted. -/
  queue_eq_nil : machine.exhausted → machine.queue = []

namespace Sound

variable {program : Program} {start : Extent} {machine : Machine}

/-- A change that is none of control keeps a machine sound if it keeps tape and input sound. -/
theorem changeTo
    {changed : Machine}
    (sound : machine.Sound program start)
    (same : changed.SameControl machine)
    (grows : machine.tape.extent.Grows changed.tape.extent)
    (cursorContained : changed.tape.extent.Contains changed.cursor)
    (neat : changed.tape.Neat)
    (queueEmpty : changed.exhausted → changed.queue = []) :
    changed.Sound program start where
  program_eq := same.program.trans sound.program_eq
  grows := sound.grows.trans grows
  position_le := same.position ▸ sound.position_le
  finished_at_end := by
    rw [same.status, same.position]
    exact sound.finished_at_end
  coherent := sound.coherent.changeTo same
  failed_at_move := by
    rw [same.status, same.position]
    exact sound.failed_at_move
  cursor_contained := cursorContained
  neat := neat
  queue_eq_nil := queueEmpty

/-- A machine that has failed stands at a move, where there is nothing to skip. -/
theorem skipComments_of_failed
    (sound : machine.Sound program start)
    (failed : machine.status = .failed) :
    machine.skipComments = machine := by
  have atMove := sound.failed_at_move failed
  rw [← sound.program_eq] at atMove
  rcases atMove with found | found
  · exact skipComments_of_command? found
  · exact skipComments_of_command? found

theorem skipComments (sound : machine.Sound program start) :
    machine.skipComments.Sound program start where
  program_eq := sound.program_eq
  grows := sound.grows
  position_le := by
    have bound := sound.position_le
    rw [← sound.program_eq] at bound ⊢
    exact Program.nextCommand_le_length bound
  finished_at_end := by
    intro finished
    have bound := sound.position_le
    rw [← sound.program_eq] at bound ⊢
    have nextBound := Program.nextCommand_le_length bound
    simp only [Machine.skipComments] at finished ⊢
    split_ifs at finished with atEnd
    · exact Nat.le_antisymm nextBound atEnd
    · have atLength := sound.finished_at_end finished
      rw [← sound.program_eq] at atLength
      have past := Program.le_nextCommand machine.program machine.position
      omega
  coherent := by
    by_cases failed : machine.status = .failed
    · rw [sound.skipComments_of_failed failed]
      exact sound.coherent
    · have clean : machine.skipComments.failure? = none :=
        sound.coherent.failure?_eq_none failed
      apply Coherent.of_failure?_eq_none clean
      simp only [Machine.skipComments]
      split_ifs
      · exact Status.noConfusion
      · exact failed
  failed_at_move := by
    intro failed
    have failedBefore : machine.status = .failed := by
      simp only [Machine.skipComments] at failed
      split_ifs at failed
      exact failed
    rw [sound.skipComments_of_failed failedBefore]
    exact sound.failed_at_move failedBefore
  cursor_contained := sound.cursor_contained
  neat := sound.neat
  queue_eq_nil := sound.queue_eq_nil

theorem advance
    {target : Nat}
    (sound : machine.Sound program start)
    (runs : machine.running)
    (inside : target < program.length) :
    (machine.advance target).Sound program start where
  program_eq := sound.program_eq
  grows := sound.grows
  position_le := inside
  finished_at_end := by
    intro finished
    rw [running_iff] at runs
    simp only [Machine.advance, sound.program_eq, runs] at finished ⊢
    split_ifs at finished with atEnd
    omega
  coherent := sound.coherent.advance runs target
  failed_at_move := by
    intro failed
    rw [running_iff] at runs
    simp only [Machine.advance, runs] at failed
    split_ifs at failed
  cursor_contained := sound.cursor_contained
  neat := sound.neat
  queue_eq_nil := sound.queue_eq_nil

theorem store
    (sound : machine.Sound program start)
    (byte : UInt8) :
    (machine.store byte).Sound program start :=
  sound.changeTo ⟨rfl, rfl, rfl, rfl, rfl, rfl⟩ (.refl _) sound.cursor_contained
    (sound.neat.set sound.cursor_contained byte) sound.queue_eq_nil

theorem fill (sound : machine.Sound program start) : machine.fill.Sound program start := by
  have same := sameControl_fill machine
  rcases fill_cases machine with ⟨filled, -⟩ |
    ⟨-, notExhausted, first, others, -, filled⟩ | ⟨empty, -, -, filled⟩
  · rw [filled]
    exact sound
  · rw [filled] at same ⊢
    exact sound.changeTo same (.refl _) sound.cursor_contained sound.neat
      fun exhausted => absurd exhausted notExhausted
  · rw [filled] at same ⊢
    exact sound.changeTo same (.refl _) sound.cursor_contained sound.neat fun _ => empty

theorem receive (sound : machine.Sound program start) :
    machine.receive.Sound program start := by
  have filled := sound.fill
  rcases receive_cases machine with ⟨byte, rest, queue, received⟩ |
    ⟨-, -, received⟩ | ⟨-, -, received⟩
  · have notExhausted : ¬ machine.fill.exhausted := by
      intro exhausted
      rw [filled.queue_eq_nil exhausted] at queue
      cases queue
    have dequeued : { machine.fill with queue := rest }.Sound program start :=
      filled.changeTo ⟨rfl, rfl, rfl, rfl, rfl, rfl⟩ (.refl _) filled.cursor_contained filled.neat
        fun exhausted => absurd exhausted notExhausted
    rw [received]
    exact dequeued.store byte
  · rw [received]
    exact filled.store 0
  · rw [received]
    exact filled

/-- A move of the cursor keeps a machine sound that stands at a move. -/
theorem moveCursor
    (sound : machine.Sound program start)
    (runs : machine.running)
    (atMove : program.command? machine.position = some .moveLeft ∨
      program.command? machine.position = some .moveRight)
    (distance : Int) :
    (machine.moveCursor distance).Sound program start := by
  have inside : machine.position < program.length := by
    rcases atMove with found | found
    · exact Program.lt_length_of_command? found
    · exact Program.lt_length_of_command? found
  unfold Machine.moveCursor
  cases target : machine.tape.move machine.cursor distance with
  | ok reached =>
      obtain ⟨cursor, tape⟩ := reached
      obtain ⟨sameCells, grows, contained⟩ := Tape.move_spec sound.cursor_contained target
      have moved : { machine with cursor := cursor, tape := tape }.Sound program start :=
        sound.changeTo ⟨rfl, rfl, rfl, rfl, rfl, rfl⟩ grows contained
          (sound.neat.grow sameCells grows) sound.queue_eq_nil
      exact moved.advance runs inside
  | error fault =>
      exact ⟨sound.program_eq, sound.grows, sound.position_le, nofun, .fail _ _,
        fun _ => atMove, sound.cursor_contained, sound.neat, sound.queue_eq_nil⟩

theorem jump
    (sound : machine.Sound program start)
    (runs : machine.running)
    (inside : machine.position < program.length)
    (taken : Bool) :
    (machine.jump taken).Sound program start := by
  unfold Machine.jump
  cases taken with
  | false => exact sound.advance runs inside
  | true =>
      apply sound.advance runs
      rw [sound.program_eq]
      cases paired : program.partner? machine.position with
      | none => exact inside
      | some partner => exact Program.partner?_lt_length paired

/-- A command keeps a machine sound that stands at it. -/
theorem perform
    {command : Command}
    (sound : machine.Sound program start)
    (runs : machine.running)
    (found : machine.command? = some command) :
    (machine.perform command).Sound program start := by
  rw [Machine.command?, sound.program_eq] at found
  have inside := Program.lt_length_of_command? found
  cases command with
  | increment => exact (sound.store _).advance runs inside
  | decrement => exact (sound.store _).advance runs inside
  | moveLeft => exact sound.moveCursor runs (Or.inl found) (-1)
  | moveRight => exact sound.moveCursor runs (Or.inr found) 1
  | output =>
      have emitted : machine.emit.Sound program start :=
        sound.changeTo ⟨rfl, rfl, rfl, rfl, rfl, rfl⟩ (.refl _) sound.cursor_contained sound.neat
          sound.queue_eq_nil
      exact emitted.advance runs inside
  | input =>
      apply sound.receive.advance _ inside
      rw [running_iff, (sameControl_receive machine).status, ← running_iff]
      exact runs
  | loopOpen => exact sound.jump runs inside _
  | loopClose => exact sound.jump runs inside _

theorem step (sound : machine.Sound program start) : machine.step.Sound program start := by
  rcases step_cases machine with ⟨-, stepped⟩ | ⟨-, -, stepped⟩ |
    ⟨-, stillRuns, command, found, stepped⟩
  · rw [stepped]
    exact sound
  · rw [stepped]
    exact sound.skipComments
  · rw [stepped]
    exact sound.skipComments.perform stillRuns found

theorem run
    (sound : machine.Sound program start)
    (budget : Nat) :
    (machine.run budget).Sound program start := by
  have keptByStep (machine : Machine) (sound : machine.Sound program start) :
      machine.step.Sound program start := sound.step
  have keptBySkip (machine : Machine) (sound : machine.Sound program start) :
      machine.skipComments.Sound program start := sound.skipComments
  exact run_induction keptByStep keptBySkip sound budget

theorem answer?
    {fuel : Nat}
    {call : Call}
    {next : Machine}
    (sound : machine.Sound program start)
    (answered : machine.answer? fuel call = some next) :
    next.Sound program start := by
  rcases answer?_cases answered with rfl | rfl | ⟨budget, rfl⟩
  · exact sound.step
  · exact sound.skipComments
  · exact sound.run budget

theorem answerAll?
    {fuel : Nat}
    {calls : List Call}
    {last : Machine}
    (sound : machine.Sound program start)
    (reached : machine.answerAll? fuel calls = some last) :
    last.Sound program start := by
  have kept {machine next : Machine} {call : Call} (sound : machine.Sound program start)
      (answered : machine.answer? fuel call = some next) :
      next.Sound program start := sound.answer? answered
  exact answerAll?_induction kept sound reached

end Sound

/-! ## The end of the program -/

/-- A machine that runs has not reached the end of its program. -/
def Inside (machine : Machine) : Prop :=
  machine.running → machine.position < machine.program.length

namespace Inside

theorem of_not_running
    {machine : Machine}
    (stopped : ¬ machine.running) :
    machine.Inside :=
  fun runs => absurd runs stopped

theorem skipComments (machine : Machine) : machine.skipComments.Inside := by
  intro runs
  obtain ⟨command, found⟩ := exists_command?_of_running_skipComments runs
  exact Program.lt_length_of_command? found

theorem advance (machine : Machine) (target : Nat) : (machine.advance target).Inside := by
  intro runs
  by_contra outside
  have atEnd : machine.program.length ≤ target + 1 := Nat.le_of_not_lt outside
  rw [running_iff, Machine.advance] at runs
  simp [atEnd] at runs

/-- A machine that still runs after a command is inside its program. -/
theorem perform (machine : Machine) (command : Command) : (machine.perform command).Inside := by
  have moveCursor (distance : Int) : (machine.moveCursor distance).Inside := by
    unfold Machine.moveCursor
    cases machine.tape.move machine.cursor distance with
    | ok reached => exact advance _ _
    | error fault => exact of_not_running (by simp [running, fail])
  have jump (taken : Bool) : (machine.jump taken).Inside := by
    unfold Machine.jump
    cases taken with
    | false => exact advance _ _
    | true => exact advance _ _
  cases command with
  | increment => exact advance _ _
  | decrement => exact advance _ _
  | moveLeft => exact moveCursor (-1)
  | moveRight => exact moveCursor 1
  | output => exact advance _ _
  | input => exact advance _ _
  | loopOpen => exact jump _
  | loopClose => exact jump _

theorem step (machine : Machine) : machine.step.Inside := by
  rcases step_cases machine with ⟨stopped, stepped⟩ | ⟨-, stopped, stepped⟩ |
    ⟨-, -, command, -, stepped⟩
  · rw [stepped]
    exact of_not_running stopped
  · rw [stepped]
    exact of_not_running stopped
  · rw [stepped]
    exact perform _ command

theorem run (machine : Machine) (budget : Nat) : (machine.run budget).Inside := by
  by_cases runs : machine.running
  · have split := run_add 0 budget machine
    rw [Nat.zero_add, run_zero_of_running runs] at split
    rw [split]
    exact run_induction (fun machine _ => step machine) (fun machine _ => skipComments machine)
      (skipComments machine) budget
  · rw [run_of_not_running runs]
    exact of_not_running runs

theorem answer?
    {fuel : Nat}
    {machine next : Machine}
    {call : Call}
    (answered : machine.answer? fuel call = some next) :
    next.Inside := by
  rcases answer?_cases answered with rfl | rfl | ⟨budget, rfl⟩
  · exact step machine
  · exact skipComments machine
  · exact run machine budget

end Inside
end Machine

/-! ## Reached states -/

namespace Settings

/-- The tape of a run has the cell at which its cursor starts. -/
theorem extent_contains_zero (settings : Settings) : settings.extent.Contains 0 := by
  unfold extent
  cases settings.addressing with
  | bounded =>
      have positive := settings.tapeSize.property
      exact ⟨by omega, by omega⟩
  | growable => exact ⟨by omega, by omega⟩
  | sparse =>
      cases settings.modulus with
      | none => trivial
      | some modulus =>
          have positive := modulus.property
          exact ⟨by omega, by simpa using positive⟩

theorem launch_sound
    (settings : Settings)
    (program : Program)
    (source : Source)
    (sink : Sink) :
    (settings.launch program source sink).Sound program settings.extent where
  program_eq := rfl
  grows := .refl _
  position_le := Nat.zero_le _
  finished_at_end := nofun
  coherent := by simp [Machine.Coherent, launch]
  failed_at_move := nofun
  cursor_contained := settings.extent_contains_zero
  neat := .blank _
  queue_eq_nil := nofun

theorem launch_coherent
    (settings : Settings)
    (program : Program)
    (source : Source)
    (sink : Sink) :
    (settings.launch program source sink).Coherent :=
  (settings.launch_sound program source sink).coherent

/-- A machine at the end of its program is finished, unless it has not been called yet. -/
theorem finished_or_eq_launch_of_answerAll?
    {settings : Settings}
    {program : Program}
    {source : Source}
    {sink : Sink}
    {fuel : Nat}
    {calls : List Call}
    {machine : Machine}
    (reached : (settings.launch program source sink).answerAll? fuel calls = some machine)
    (atEnd : machine.position = program.length) :
    machine.status = .finished ∨
      program.length = 0 ∧ machine = settings.launch program source sink := by
  have sound := (settings.launch_sound program source sink).answerAll? reached
  cases calls with
  | nil =>
      cases reached
      exact Or.inr ⟨atEnd.symm, rfl⟩
  | cons call calls =>
      have inside : machine.Inside :=
        Machine.answerAll?_of_ne_nil Machine.Inside.answer? (List.cons_ne_nil call calls) reached
      cases status : machine.status with
      | running =>
          have before := inside ((Machine.running_iff machine).mpr status)
          rw [sound.program_eq] at before
          omega
      | finished => exact Or.inl rfl
      | failed =>
          have before : machine.position < program.length := by
            rcases sound.failed_at_move status with found | found
            · exact Program.lt_length_of_command? found
            · exact Program.lt_length_of_command? found
          omega

/--
Every machine that calls can reach is consistent: position and status fit together, a failure is
there exactly when the machine has failed and stands at a move, every cell can be read, the cursor
and what is stored lie inside the tape, and nothing waits once the source is exhausted.
-/
theorem reached_machine_is_consistent
    (settings : Settings)
    (program : Program)
    (source : Source)
    (sink : Sink)
    (fuel : Nat)
    (calls : List Call)
    (machine : Machine)
    (reached : (settings.launch program source sink).answerAll? fuel calls = some machine) :
    machine.program = program ∧
      machine.position ≤ program.length ∧
      (machine.status = .finished → machine.position = program.length) ∧
      (machine.position = program.length →
        machine.status = .finished ∨
          program.length = 0 ∧ machine = settings.launch program source sink) ∧
      (machine.failure?.isSome ↔ machine.status = .failed) ∧
      (machine.failure?.isSome →
        program.code[machine.position]? = some '<' ∨
          program.code[machine.position]? = some '>') ∧
      (∀ index, machine.tape.extent.Contains index →
        ∃ byte, machine.tape.read index = .ok byte ∧ byte.toNat ≤ 255) ∧
      settings.extent.Grows machine.tape.extent ∧
      machine.tape.extent.Contains machine.cursor ∧
      (∀ entry ∈ machine.tape.touched,
        entry.2 ≠ 0 ∧ machine.tape.extent.Contains entry.1) ∧
      (machine.exhausted → machine.queue = []) := by
  have sound := (settings.launch_sound program source sink).answerAll? reached
  refine ⟨sound.program_eq, sound.position_le, sound.finished_at_end,
    finished_or_eq_launch_of_answerAll? reached, sound.coherent, ?_, ?_, sound.grows,
    sound.cursor_contained, ?_, sound.queue_eq_nil⟩
  · intro failed
    exact (sound.failed_at_move (sound.coherent.mp failed)).imp Program.code_of_command?
      Program.code_of_command?
  · intro index contained
    refine ⟨machine.tape.get index, Tape.read_of_contains contained, ?_⟩
    exact Nat.le_of_lt_succ (UInt8.toNat_lt _)
  · intro entry stored
    exact ⟨sound.neat.nonzero entry stored, sound.neat.contained entry stored⟩

/-- A move off the left edge of a growable tape: the machine fails there and goes no further. -/
theorem reached_machine_at_left_edge :
    ∃ program machine,
      Program.parse "<+" = .ok program ∧
        (({ addressing := .growable } : Settings).launch program (.whole [7]) .absent).answerAll? 0
          [.step, .skipComments, .run (some 3)] = some machine ∧
        machine.failure?.isSome ∧ machine.position = 0 ∧
        program.code[machine.position]? = some '<' ∧
        machine.tape.extent.Contains machine.cursor := by
  let program : Program := ⟨#['<', '+'], .empty, rfl⟩
  let start := ({ addressing := .growable } : Settings).launch program (.whole [7]) .absent
  have found : start.command? = some .moveLeft := rfl
  have stepped : start.step = start.fail .underflow := by
    rw [Machine.step_of_command? rfl found]
    rfl
  have skipped : (start.fail .underflow).skipComments = start.fail .underflow :=
    Machine.skipComments_of_command? found
  have reached : start.answerAll? 0 [.step, .skipComments, .run (some 3)] =
      some (start.fail .underflow) := by
    change some (start.step.skipComments.run 3) = _
    rw [stepped, skipped, Machine.run_of_not_running (by decide)]
  obtain ⟨-, -, -, -, -, atMove, -, -, contained, -, -⟩ :=
    reached_machine_is_consistent { addressing := .growable } program (.whole [7]) .absent 0
      [.step, .skipComments, .run (some 3)] _ reached
  have standsAtMove := atMove rfl
  refine ⟨program, _, rfl, reached, rfl, rfl, ?_, contained⟩
  rcases standsAtMove with left | right
  · exact left
  · cases right

end Settings
end TapeMachine

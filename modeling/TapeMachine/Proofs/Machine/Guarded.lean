import TapeMachine.Proofs.Machine.Invariant

/-!
# Nothing goes wrong inside a machine

A machine takes for granted that the cell under its cursor exists, that a bracket has a partner,
that a character stands at its position, that a byte waits when the source has delivered, and that
a cell fits into the output.  The guarded machine takes nothing for granted: each of its operations
looks for itself and reports a fault when something is missing, and only a move of the cursor off
the tape is caught and recorded as a failure of the program.

On sound machines the guarded operations never report a fault and agree with the plain ones.  So no
sequence of calls on a program that has been accepted meets a fault.
-/

namespace TapeMachine

/-- What could go wrong inside a machine. -/
inductive MachineFault
  /-- The tape that the settings ask for is refused. -/
  | extent (fault : ExtentFault)
  /-- The tape is read or written where it has no cell. -/
  | index (fault : IndexFault)
  /-- A move of the cursor leaves the tape. -/
  | addressing (fault : AddressingFault)
  /-- There is no character at a position. -/
  | character (position : Nat)
  /-- The loop table has no partner for a position. -/
  | partner (position : Nat)
  /-- A byte is taken from a queue in which none waits. -/
  | queue
  /-- A number that is no byte is written to the output or to the sink. -/
  | byte (fault : ByteFault)
  deriving DecidableEq, Repr

/-! ## Bytes as numbers -/

@[simp] theorem byteOfInt_toNat (byte : UInt8) : byteOfInt byte.toNat = byte := by
  have bound := byte.toNat_lt
  apply UInt8.toNat_inj.mp
  simp only [byteOfInt, UInt8.toNat_ofNat']
  omega

@[simp] theorem byteOfInt_toNat_add_one (byte : UInt8) :
    byteOfInt (byte.toNat + 1) = byte + 1 := by
  apply UInt8.toNat_inj.mp
  simp only [byteOfInt, UInt8.toNat_ofNat', UInt8.toNat_add, UInt8.toNat_one]
  omega

@[simp] theorem byteOfInt_toNat_sub_one (byte : UInt8) :
    byteOfInt (byte.toNat - 1) = byte - 1 := by
  have bound := byte.toNat_lt
  apply UInt8.toNat_inj.mp
  simp only [byteOfInt, UInt8.toNat_ofNat', UInt8.toNat_sub, UInt8.toNat_one]
  omega

/-- A byte is not refused. -/
theorem Sink.offer_byte (sink : Sink) (byte : UInt8) :
    sink.offer byte.toNat = .ok (sink.accept byte) := by
  have bound := byte.toNat_lt
  unfold offer
  rw [if_pos (by omega), Int.toNat_natCast, UInt8.ofNat_toNat]

namespace Machine

/-! ## Guarded operations -/

/-- Reads the current cell. -/
def guardedCell (machine : Machine) : Except MachineFault UInt8 :=
  (machine.tape.read machine.cursor).mapError .index

/-- Writes a number to the current cell. -/
def guardedStore (machine : Machine) (value : Int) : Except MachineFault Machine := do
  let tape ← (machine.tape.write machine.cursor value).mapError .index
  return { machine with tape := tape }

/-- Moves the cursor; the fault of a move is caught and makes the program fail. -/
def guardedMove (machine : Machine) (distance : Int) : Except MachineFault Machine :=
  let moved : Except MachineFault Machine := do
    let (cursor, tape) ← (machine.tape.move machine.cursor distance).mapError .addressing
    return { machine with cursor := cursor, tape := tape }.advance machine.position
  moved.tryCatch fun
    | .addressing fault => .ok (machine.fail fault.cause)
    | fault => .error fault

/-- Passes a number on to the sink if something listens. -/
def guardedOffer (sink : Sink) (value : Int) : Except MachineFault Sink :=
  match sink with
  | .absent => .ok .absent
  | listening => (listening.offer value).mapError .byte

/-- Writes the current cell to the output and to the sink. -/
def guardedEmit (machine : Machine) : Except MachineFault Machine := do
  let byte ← machine.guardedCell
  let recorded ← ((Sink.buffer machine.output).offer byte.toNat).mapError .byte
  let sink ← guardedOffer machine.sink byte.toNat
  return { machine with output := recorded.data, sink := sink }

/-- Whether fetching leaves something to read, as far as the source says. -/
def delivers (machine : Machine) : Bool :=
  if machine.queue.isEmpty then
    !machine.exhausted && machine.feed.source.poll.1.any fun chunk => !chunk.isEmpty
  else true

/-- Reads a byte of input into the current cell. -/
def guardedReceive (machine : Machine) : Except MachineFault Machine :=
  let filled := machine.fill
  if machine.delivers then
    match filled.queue with
    | byte :: rest => { filled with queue := rest }.guardedStore byte.toNat
    | [] => .error .queue
  else
    match filled.eof with
    | .zero => filled.guardedStore 0
    | .unchanged => .ok filled

/-- Jumps behind the partner of the current bracket, or goes on behind the bracket itself. -/
def guardedJump (machine : Machine) (taken : Bool) : Except MachineFault Machine :=
  if taken then
    match machine.program.partner? machine.position with
    | some partner => .ok (machine.advance partner)
    | none => .error (.partner machine.position)
  else .ok (machine.advance machine.position)

/-- Carries out a command that stands at the position of the machine. -/
def guardedPerform (machine : Machine) : Command → Except MachineFault Machine
  | .increment => do
      let byte ← machine.guardedCell
      let stored ← machine.guardedStore (byte.toNat + 1)
      return stored.advance machine.position
  | .decrement => do
      let byte ← machine.guardedCell
      let stored ← machine.guardedStore (byte.toNat - 1)
      return stored.advance machine.position
  | .moveLeft => machine.guardedMove (-1)
  | .moveRight => machine.guardedMove 1
  | .output => do
      let emitted ← machine.guardedEmit
      return emitted.advance machine.position
  | .input => do
      let received ← machine.guardedReceive
      return received.advance machine.position
  | .loopOpen => do
      let byte ← machine.guardedCell
      machine.guardedJump (byte == 0)
  | .loopClose => do
      let byte ← machine.guardedCell
      machine.guardedJump (byte != 0)

/--
Carries out the next command.  If a character that is no command were left behind the comments, it
would be passed over like a command.
-/
def guardedStep (machine : Machine) : Except MachineFault Machine :=
  if machine.running then
    let ready := machine.skipComments
    if ready.running then
      match ready.program.code[ready.position]? with
      | none => .error (.character ready.position)
      | some character =>
        match Command.ofChar? character with
        | some command => ready.guardedPerform command
        | none => .ok (ready.advance ready.position)
    else .ok ready
  else .ok machine

/-- Runs for at most a number of steps. -/
def guardedRun : Nat → Machine → Except MachineFault Machine
  | 0, machine => .ok (if machine.running then machine.skipComments else machine)
  | budget + 1, machine =>
      if machine.running then machine.guardedStep >>= guardedRun budget else .ok machine

/-- The machine after a call; a run without a limit has no answer when the fuel does not suffice. -/
def guardedAnswer? (fuel : Nat) (machine : Machine) : Call → Except MachineFault (Option Machine)
  | .step => machine.guardedStep.map some
  | .skipComments => .ok (some machine.skipComments)
  | .run (some budget) => (machine.guardedRun budget.toNat).map some
  | .run none =>
      (machine.guardedRun fuel).map fun stopped => if stopped.running then none else some stopped

/-- The machine after calls in turn. -/
def guardedAnswerAll? (fuel : Nat) :
    List Call → Machine → Except MachineFault (Option Machine)
  | [], machine => .ok (some machine)
  | call :: calls, machine => do
      match ← machine.guardedAnswer? fuel call with
      | some next => guardedAnswerAll? fuel calls next
      | none => return none

/-! ## Guarded operations on sound machines -/

theorem guardedCell_eq
    {machine : Machine}
    (contained : machine.tape.extent.Contains machine.cursor) :
    machine.guardedCell = .ok machine.cell := by
  rw [guardedCell, Tape.read_of_contains contained]
  rfl

theorem guardedStore_eq
    (machine : Machine)
    (contained : machine.tape.extent.Contains machine.cursor)
    (value : Int) :
    machine.guardedStore value = .ok (machine.store (byteOfInt value)) := by
  rw [guardedStore, Tape.write_of_contains contained]
  rfl

/-- Every fault that a move of the cursor can report is caught. -/
theorem guardedMove_eq (machine : Machine) (distance : Int) :
    machine.guardedMove distance = .ok (machine.moveCursor distance) := by
  unfold guardedMove moveCursor
  cases machine.tape.move machine.cursor distance with
  | ok reached => rfl
  | error fault => rfl

theorem guardedOffer_byte (sink : Sink) (byte : UInt8) :
    guardedOffer sink byte.toNat = .ok (sink.accept byte) := by
  cases sink with
  | absent => rfl
  | buffer data => simp only [guardedOffer, Sink.offer_byte, Except.mapError]
  | stream data flushes => simp only [guardedOffer, Sink.offer_byte, Except.mapError]

theorem guardedEmit_eq
    {machine : Machine}
    (contained : machine.tape.extent.Contains machine.cursor) :
    machine.guardedEmit = .ok machine.emit := by
  simp only [guardedEmit, guardedCell_eq contained, Sink.offer_byte, guardedOffer_byte,
    Except.mapError, bind, Except.bind]
  rfl

/-- Fetching leaves something to read exactly when it says so. -/
theorem delivers_iff (machine : Machine) :
    machine.delivers ↔ machine.fill.queue ≠ [] := by
  unfold delivers
  rcases fill_cases machine with ⟨filled, waiting⟩ |
    ⟨empty, notExhausted, first, others, answer, filled⟩ |
    ⟨empty, notExhausted, noChunk, filled⟩
  · rw [filled]
    by_cases empty : machine.queue = []
    · have exhausted := waiting.resolve_left (not_not_intro empty)
      simp [empty, exhausted]
    · simp [empty]
  · rw [filled]
    simp [empty, notExhausted, answer]
  · rw [filled]
    simp only [empty, notExhausted]
    cases answer : machine.feed.source.poll.1 with
    | none => simp
    | some chunk =>
        cases chunk with
        | nil => simp
        | cons first others => exact absurd answer (noChunk first others)

theorem guardedReceive_eq
    {program : Program}
    {start : Extent}
    {machine : Machine}
    (sound : machine.Sound program start) :
    machine.guardedReceive = .ok machine.receive := by
  have contained := sound.fill.cursor_contained
  have delivers := delivers_iff machine
  unfold guardedReceive
  rcases receive_cases machine with ⟨byte, rest, queue, received⟩ |
    ⟨empty, policy, received⟩ | ⟨empty, policy, received⟩
  · rw [queue] at delivers
    rw [received, if_pos (delivers.mpr (List.cons_ne_nil byte rest))]
    simp only [queue]
    rw [guardedStore_eq { machine.fill with queue := rest } contained, byteOfInt_toNat]
  · rw [received, if_neg (fun yes => delivers.mp yes empty)]
    simp only [policy]
    exact guardedStore_eq machine.fill contained 0
  · rw [received, if_neg (fun yes => delivers.mp yes empty)]
    simp only [policy]

/-- A bracket finds its partner. -/
theorem guardedJump_eq
    {machine : Machine}
    (isBracket : Brackets.IsBracket machine.program.code.toList machine.position)
    (taken : Bool) :
    machine.guardedJump taken = .ok (machine.jump taken) := by
  unfold guardedJump jump
  cases taken with
  | false => rfl
  | true =>
      obtain ⟨partner, paired⟩ := Program.exists_partner? isBracket
      simp only [paired]
      rfl

variable {program : Program} {start : Extent} {machine : Machine}

theorem guardedPerform_eq
    {command : Command}
    (sound : machine.Sound program start)
    (found : machine.command? = some command) :
    machine.guardedPerform command = .ok (machine.perform command) := by
  have contained := sound.cursor_contained
  have character := Program.code_of_command? found
  rw [← Array.getElem?_toList] at character
  cases command with
  | increment =>
      simp only [guardedPerform, guardedCell_eq contained, guardedStore_eq machine contained,
        byteOfInt_toNat_add_one, bind, Except.bind]
      rfl
  | decrement =>
      simp only [guardedPerform, guardedCell_eq contained, guardedStore_eq machine contained,
        byteOfInt_toNat_sub_one, bind, Except.bind]
      rfl
  | moveLeft => exact guardedMove_eq machine (-1)
  | moveRight => exact guardedMove_eq machine 1
  | output =>
      simp only [guardedPerform, guardedEmit_eq contained, bind, Except.bind]
      rfl
  | input =>
      simp only [guardedPerform, guardedReceive_eq sound, bind, Except.bind]
      rfl
  | loopOpen =>
      simp only [guardedPerform, guardedCell_eq contained, bind, Except.bind]
      exact guardedJump_eq (Or.inl character) _
  | loopClose =>
      simp only [guardedPerform, guardedCell_eq contained, bind, Except.bind]
      exact guardedJump_eq (Or.inr character) _

-- the guards are real: with the cursor off the tape the same command meets a fault
example :
    guardedPerform
      { program := ⟨#['+'], .empty, rfl⟩, eof := .zero, tape := .ofExtent (.bounded 1),
        feed := { source := .closed }, sink := .absent, cursor := 1 }
      .increment = .error (.index ⟨1, 1⟩) := rfl

theorem guardedStep_eq (sound : machine.Sound program start) :
    machine.guardedStep = .ok machine.step := by
  unfold guardedStep
  rcases step_cases machine with ⟨stopped, stepped⟩ | ⟨runs, stopped, stepped⟩ |
    ⟨runs, stillRuns, command, found, stepped⟩
  · rw [stepped, if_neg stopped]
  · simp only [stepped, if_pos runs, if_neg stopped]
  · have character := Program.code_of_command? found
    simp only [stepped, if_pos runs, if_pos stillRuns]
    rw [character]
    simp only [Command.ofChar?_symbol]
    exact guardedPerform_eq sound.skipComments found

theorem guardedRun_eq
    (sound : machine.Sound program start)
    (budget : Nat) :
    machine.guardedRun budget = .ok (machine.run budget) := by
  induction budget generalizing machine with
  | zero => rfl
  | succ budget inductionHypothesis =>
      unfold guardedRun
      by_cases runs : machine.running
      · rw [if_pos runs, guardedStep_eq sound, run_succ]
        exact inductionHypothesis sound.step
      · rw [if_neg runs, run_of_not_running runs]

theorem guardedAnswer?_eq
    (sound : machine.Sound program start)
    (fuel : Nat)
    (call : Call) :
    machine.guardedAnswer? fuel call = .ok (machine.answer? fuel call) := by
  cases call with
  | step =>
      simp only [guardedAnswer?, guardedStep_eq sound]
      rfl
  | skipComments => rfl
  | run budget =>
      cases budget with
      | some steps =>
          simp only [guardedAnswer?, guardedRun_eq sound]
          rfl
      | none =>
          simp only [guardedAnswer?, guardedRun_eq sound]
          rfl

theorem guardedAnswerAll?_eq
    (sound : machine.Sound program start)
    (fuel : Nat)
    (calls : List Call) :
    machine.guardedAnswerAll? fuel calls = .ok (machine.answerAll? fuel calls) := by
  induction calls generalizing machine with
  | nil => rfl
  | cons call calls inductionHypothesis =>
      simp only [guardedAnswerAll?, answerAll?, guardedAnswer?_eq sound, bind, Except.bind]
      cases answered : machine.answer? fuel call with
      | none => rfl
      | some next => exact inductionHypothesis (sound.answer? answered)

end Machine

namespace Settings

/-- Makes the tape that the settings ask for and sets up the machine. -/
def guardedLaunch (settings : Settings) (program : Program) (source : Source) (sink : Sink) :
    Except MachineFault Machine := do
  let modulus := settings.modulus.map fun modulus => (modulus.val : Int)
  let tape ← (Tape.ofPolicy? settings.addressing settings.tapeSize.val modulus).mapError .extent
  return { program, eof := settings.eof, tape, feed := { source }, sink }

/-- Launches a program text and makes calls in turn; a text that is rejected is not launched. -/
def guardedSession (settings : Settings) (fuel : Nat) (code : String) (source : Source)
    (sink : Sink) (calls : List Call) :
    Except MachineFault (Except Rejection (Option Machine)) :=
  match Program.parse code with
  | .error rejection => .ok (.error rejection)
  | .ok program => do
      let machine ← settings.guardedLaunch program source sink
      let reached ← machine.guardedAnswerAll? fuel calls
      return .ok reached

theorem guardedLaunch_eq
    (settings : Settings)
    (program : Program)
    (source : Source)
    (sink : Sink) :
    settings.guardedLaunch program source sink = .ok (settings.launch program source sink) := by
  unfold guardedLaunch
  simp only [ofPolicy?_eq_newTape, Except.mapError, bind, Except.bind]
  rfl

/--
No call meets a fault: whatever the settings, the text, the source and the sink are, launching the
text and making any calls in turn gives the rejection of the text or what the plain machine gives.
-/
theorem session_never_faults
    (settings : Settings)
    (fuel : Nat)
    (code : String)
    (source : Source)
    (sink : Sink)
    (calls : List Call) :
    settings.guardedSession fuel code source sink calls =
      .ok ((Program.parse code).map fun program =>
        (settings.launch program source sink).answerAll? fuel calls) := by
  unfold guardedSession
  cases Program.parse code with
  | error rejection => rfl
  | ok program =>
      have sound := settings.launch_sound program source sink
      simp only [guardedLaunch_eq, Machine.guardedAnswerAll?_eq sound, bind, Except.bind]
      rfl

end Settings
end TapeMachine

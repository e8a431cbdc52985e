import TapeMachine.Proofs.Diagnostic.Excerpt
import TapeMachine.Proofs.Machine.Guarded
import TapeMachine.Trace.Basic

/-!
# Traces are faithful

A trace steps through a run on its own.  It skips comments before it looks at its budget, it looks
at cells before and after each step, it shows a window of the tape, and it breaks off at a failure.
None of this changes the run: the machine at the end of a trace is the one to which the run within
the same budget leads.

Nor can a trace go wrong.  The guarded trace takes nothing for granted: the cells that are looked at
or shown are read one by one, and a diagnostic is shown only if the program has the lines of its
excerpt.  It never reports a fault and agrees with the plain trace.
-/

namespace TapeMachine

/-! ## The machine at the end of a trace -/

namespace Machine

/-- Everything that a trace can do with the first step of its budget. -/
theorem traceSteps_cases
    (window : Int)
    (budget done : Nat)
    (machine : Machine) :
    (¬ (machine.run 0).running ∧
        machine.traceSteps window (budget + 1) done = ([], machine.run 0)) ∨
      (∃ command, (machine.run 0).running ∧ (machine.run 0).command? = some command ∧
        let ready := machine.run 0
        let heading := Entry.heading (done + 1) command.symbol ready.position
        (∃ failure, ready.step.failure? = some failure ∧
            machine.traceSteps window (budget + 1) done =
              ([heading, .diagnostic ready.step.program.code.toList (.failed failure)],
                ready.step)) ∨
          (ready.step.failure? = none ∧
            machine.traceSteps window (budget + 1) done =
              (heading :: .description (ready.describe ready.step command) ::
                  .after (done + 1) (ready.step.view window) ::
                  (ready.step.traceSteps window budget (done + 1)).1,
                (ready.step.traceSteps window budget (done + 1)).2))) := by
  -- comments are skipped first, as in a run without a budget
  have first : (if machine.running then machine.skipComments else machine) = machine.run 0 := rfl
  simp only [traceSteps, first]
  by_cases runs : (machine.run 0).running
  · obtain ⟨command, found⟩ := machine.settled_run 0 runs
    refine Or.inr ⟨command, runs, found, ?_⟩
    simp only [if_pos runs, found]
    cases failed : (machine.run 0).step.failure? with
    | some failure => exact Or.inl ⟨failure, rfl, rfl⟩
    | none => exact Or.inr ⟨rfl, rfl⟩
  · exact Or.inl ⟨runs, if_neg runs⟩

/-- The machine at the end of the steps of a trace goes on like the run within the same budget. -/
theorem run_zero_traceSteps
    {machine : Machine}
    (coherent : machine.Coherent)
    (window : Int)
    (budget done : Nat) :
    (machine.traceSteps window budget done).2.run 0 = machine.run budget := by
  induction budget generalizing done machine with
  | zero => rfl
  | succ budget inductionHypothesis =>
      have later : (machine.run 0).run (budget + 1) = machine.run (budget + 1) := by
        rw [← run_add, Nat.zero_add]
      rcases machine.traceSteps_cases window budget done with ⟨stopped, same⟩ |
        ⟨command, -, -, ⟨failure, failed, same⟩ | ⟨-, same⟩⟩
      · rw [same, ← later, run_of_not_running stopped, run_of_not_running stopped]
      · have stopped := (coherent.run 0).step.not_running_of_failure? failed
        rw [same, ← later, run_succ, run_of_not_running stopped, run_of_not_running stopped]
      · rw [same, ← later, run_succ]
        exact inductionHypothesis (coherent.run 0).step (done + 1)

theorem outcome_trace
    {machine : Machine}
    (coherent : machine.Coherent)
    (window budget : Int) :
    (machine.trace window budget).outcome = (machine.run budget.toNat).outcome := by
  rw [← run_zero_traceSteps coherent window budget.toNat 0]
  rfl

end Machine

/-! ## The guarded trace -/

/-- What could go wrong in a trace. -/
inductive TraceFault
  /-- Something goes wrong inside the machine, or when it is looked at. -/
  | machine (fault : MachineFault)
  /-- The program does not have the lines of the excerpt of a diagnostic. -/
  | excerpt (found : Diagnostic)
  deriving DecidableEq, Repr

/-- The bytes of a window of indices, each of them read from its cell. -/
def Tape.guardedSnapshot (tape : Tape) (start stop : Int) : Except IndexFault (List UInt8) :=
  match tape.extent with
  | .bounded size => (interval (max 0 start) (cutEnd size stop)).mapM tape.read
  | .growable _ =>
    (interval start stop).mapM fun index => if 0 ≤ index then tape.read index else .ok 0
  | .sparse _ => (interval start stop).mapM tape.read

/-- The entry of a diagnostic, which has to have an excerpt. -/
def Diagnostic.guardedEntry (code : List Char) (found : Diagnostic) : Except TraceFault Entry :=
  match found.render? code 1 with
  | some _ => .ok (.diagnostic code found)
  | none => .error (.excerpt found)

namespace Machine

/-- The view of a machine, whose window is read cell by cell. -/
def guardedView (window : Int) (machine : Machine) : Except TraceFault View := do
  let start := View.startAround machine.tape.extent.policy machine.cursor window
  let cells ← (machine.tape.guardedSnapshot start (start + window)).mapError (.machine ∘ .index)
  return { machine.view window with cells := cells }

/--
Steps through a run for at most a number of steps, of which some have been done before.  The current
cell is read before and after each step.  If a character that is no command were left behind the
comments, it would be described like a close.
-/
def guardedTraceSteps (window : Int) :
    Nat → Nat → Machine → Except TraceFault (List Entry × Machine)
  | 0, _, machine => .ok ([], machine)
  | budget + 1, done, machine =>
    let ready := if machine.running then machine.skipComments else machine
    if ready.running then
      match ready.program.code[ready.position]? with
      | none => .error (.machine (.character ready.position))
      | some character => do
        let heading := Entry.heading (done + 1) character ready.position
        let _ ← ready.guardedCell.mapError .machine
        let next ← ready.guardedStep.mapError .machine
        match next.failure? with
        | some failure =>
          let diagnostic ← Diagnostic.guardedEntry next.program.code.toList (.failed failure)
          return ([heading, diagnostic], next)
        | none =>
          let _ ← next.guardedCell.mapError .machine
          let description := ready.describe next ((Command.ofChar? character).getD .loopClose)
          let view ← next.guardedView window
          let (rest, final) ← guardedTraceSteps window budget (done + 1) next
          return (heading :: .description description :: .after (done + 1) view :: rest, final)
    else .ok ([], ready)

/-- Steps through a run from its start. -/
def guardedTrace (window budget : Int) (machine : Machine) : Except TraceFault Trace := do
  let initial ← machine.guardedView window
  let (steps, last) ← machine.guardedTraceSteps window budget.toNat 0
  let outcome := (if last.running then last.skipComments else last).outcome
  let limit := if outcome.hitLimit then [.stopped budget] else []
  return { entries := .initial initial :: steps ++ limit ++ [.closing outcome], outcome := outcome }

end Machine

/-- The trace of a program text on some bytes. -/
def Settings.guardedTrace (settings : Settings) (window budget : Int)
    (code : String) (data : List UInt8) : Except TraceFault Trace :=
  match Program.parse code with
  | .error rejection => do
    let diagnostic ← Diagnostic.guardedEntry code.toList (.rejected rejection)
    return { entries := [.opening code, .input data, diagnostic]
             outcome := .ofRejection rejection }
  | .ok program => do
    let machine ← (settings.guardedLaunch program (.whole data) .absent).mapError .machine
    let body ← machine.guardedTrace window budget
    return { body with entries := .opening code :: .input data :: body.entries }

/-! ## The guarded trace never reports a fault -/

theorem mem_interval_iff (first last index : Int) :
    index ∈ interval first last ↔ first ≤ index ∧ index < last := by
  simp only [interval, List.mem_map, List.mem_range]
  constructor
  · rintro ⟨step, small, rfl⟩
    omega
  · rintro ⟨above, below⟩
    exact ⟨(index - first).toNat, by omega, by omega⟩

namespace Tape

/-- Every cell of a window can be read, and what is read is what the window shows. -/
theorem Neat.guardedSnapshot_eq
    {tape : Tape}
    (neat : tape.Neat)
    (start stop : Int) :
    tape.guardedSnapshot start stop = .ok (tape.snapshot start stop) := by
  have readable {index : Int} (contained : tape.extent.Contains index) :
      tape.read index = .ok (tape.get index) := read_of_contains contained
  obtain ⟨extent, cells⟩ := tape
  cases extent with
  | bounded size =>
      apply mapM_eq_pure_map
      intro index listed
      obtain ⟨above, below⟩ := (mem_interval_iff _ _ _).mp listed
      have inside := Int.lt_of_lt_of_le below (cutEnd_le size stop)
      exact readable ⟨by omega, inside⟩
  | growable size =>
      apply mapM_eq_pure_map
      intro index _
      by_cases nonnegative : 0 ≤ index
      · rw [if_pos nonnegative, if_pos nonnegative]
        by_cases inside : index < size
        · rw [shown_of_read_eq_ok (readable ⟨nonnegative, inside⟩)]
          exact readable ⟨nonnegative, inside⟩
        · -- beyond the end of the tape zero is read
          simp only [shown, read, if_pos (Int.not_lt.mp inside)]
          rfl
      · rw [if_neg nonnegative, if_neg nonnegative]
        rfl
  | sparse modulus =>
      apply mapM_eq_pure_map
      intro index _
      rfl

end Tape

/-- A diagnostic that is located in a text has an entry. -/
theorem Diagnostic.guardedEntry_eq
    {found : Diagnostic}
    {code : List Char}
    {offset : Int}
    (located : found.location = .ofOffset code offset) :
    Diagnostic.guardedEntry code found = .ok (.diagnostic code found) := by
  obtain ⟨rendering, rendered⟩ := exists_render? located 1
  rw [guardedEntry, rendered]

-- the guard is real: a diagnostic that points below the last line has no entry
example :
    Diagnostic.guardedEntry ['['] (.rejected ⟨⟨0, 2, 1⟩, .unclosedOpen⟩) =
      .error (.excerpt (.rejected ⟨⟨0, 2, 1⟩, .unclosedOpen⟩)) := rfl

namespace Machine

variable {program : Program} {start : Extent} {machine : Machine}

theorem guardedView_eq
    (sound : machine.Sound program start)
    (window : Int) :
    machine.guardedView window = .ok (machine.view window) := by
  simp only [guardedView, sound.neat.guardedSnapshot_eq, Except.mapError, bind, Except.bind]
  rfl

/-- A failure of a step is located in the program. -/
theorem guardedEntry_failure
    {failure : Failure}
    (coherent : machine.Coherent)
    (runs : machine.running)
    (failed : machine.step.failure? = some failure) :
    Diagnostic.guardedEntry machine.step.program.code.toList (.failed failure) =
      .ok (.diagnostic machine.step.program.code.toList (.failed failure)) := by
  have ran : machine.run 1 = machine.step := by
    rw [run_succ, run_of_not_running (coherent.step.not_running_of_failure? failed)]
  rw [← ran] at failed ⊢
  exact @Diagnostic.guardedEntry_eq (.failed failure) _ (machine.run 1).position
    (congrArg Failure.location (failure_run coherent runs failed))

theorem guardedTraceSteps_eq
    (sound : machine.Sound program start)
    (window : Int)
    (budget done : Nat) :
    machine.guardedTraceSteps window budget done =
      .ok (machine.traceSteps window budget done) := by
  induction budget generalizing done machine with
  | zero => rfl
  | succ budget inductionHypothesis =>
      have first : (if machine.running then machine.skipComments else machine) =
        machine.run 0 := rfl
      have ready := sound.run 0
      simp only [guardedTraceSteps, first]
      rcases machine.traceSteps_cases window budget done with ⟨stopped, same⟩ |
        ⟨command, runs, found, rest⟩
      · rw [if_neg stopped, same]
      · have character := Program.code_of_command? found
        simp only [if_pos runs, character, guardedCell_eq ready.cursor_contained,
          guardedStep_eq ready, Except.mapError, bind, Except.bind]
        rcases rest with ⟨failure, failed, same⟩ | ⟨completed, same⟩
        · rw [same]
          simp only [failed, guardedEntry_failure ready.coherent runs failed]
          rfl
        · rw [same]
          simp only [completed, guardedCell_eq ready.step.cursor_contained,
            guardedView_eq ready.step, inductionHypothesis ready.step, Command.ofChar?_symbol,
            Option.getD_some]
          rfl

theorem guardedTrace_eq
    (sound : machine.Sound program start)
    (window budget : Int) :
    machine.guardedTrace window budget = .ok (machine.trace window budget) := by
  simp only [guardedTrace, guardedView_eq sound, guardedTraceSteps_eq sound, bind, Except.bind]
  rfl

end Machine

namespace Settings

theorem guardedTrace_eq
    (settings : Settings)
    (window budget : Int)
    (code : String)
    (data : List UInt8) :
    settings.guardedTrace window budget code data =
      .ok (settings.trace window budget code data) := by
  simp only [guardedTrace, trace, traceBody]
  cases parsed : Program.parse code with
  | error rejection =>
      obtain ⟨offset, located⟩ := Program.location_of_parse_eq_error parsed
      have entry : Diagnostic.guardedEntry code.toList (.rejected rejection) = _ :=
        Diagnostic.guardedEntry_eq located
      simp only [entry, bind, Except.bind]
      rfl
  | ok program =>
      have sound := settings.launch_sound program (.whole data) .absent
      simp only [guardedLaunch_eq, Machine.guardedTrace_eq sound, Except.mapError, bind,
        Except.bind]
      rfl

/--
The run within the budget of a trace comes to the outcome of the trace, whatever the window is.
-/
theorem outcome_run?_eq_outcome_trace
    (settings : Settings)
    (window budget : Int)
    (code : String)
    (data : List UInt8)
    (fuel : Nat) :
    (settings.run? fuel (some budget) code (.whole data) .absent).map Report.outcome =
      some (settings.trace window budget code data).outcome := by
  simp only [run?, trace, traceBody]
  cases Program.parse code with
  | error rejection => rfl
  | ok program =>
      have coherent := settings.launch_coherent program (.whole data) .absent
      have same := Machine.outcome_trace coherent window budget
      exact congrArg some same.symm

theorem run?_of_nonpos
    {budget : Int}
    (nonpositive : budget ≤ 0)
    (settings : Settings)
    (fuel : Nat)
    (code : String)
    (source : Source)
    (sink : Sink) :
    settings.run? fuel (some budget) code source sink =
      settings.run? fuel (some 0) code source sink := by
  simp only [run?, runProgram?, Settings.budget, Machine.runWithin?,
    Int.toNat_of_nonpos nonpositive, Int.toNat_zero]

/--
A trace does not change the run that it shows.  Whatever the settings, the window, the budget, the
text and the bytes are, the trace meets no fault and comes to the outcome of the run within the same
budget.  For both of them a negative budget is the same as a budget of zero.
-/
theorem trace_does_not_change_run
    (settings : Settings)
    (window budget : Int)
    (code : String)
    (data : List UInt8) :
    let trace := settings.trace window budget code data
    settings.guardedTrace window budget code data = .ok trace ∧
      (∀ fuel,
        (settings.run? fuel (some budget) code (.whole data) .absent).map Report.outcome =
          some trace.outcome) ∧
      (budget < 0 →
        trace.outcome = (settings.trace window 0 code data).outcome ∧
          ∀ fuel,
            settings.run? fuel (some budget) code (.whole data) .absent =
              settings.run? fuel (some 0) code (.whole data) .absent) := by
  refine ⟨settings.guardedTrace_eq window budget code data, ?_, fun negative => ⟨?_, ?_⟩⟩
  · exact settings.outcome_run?_eq_outcome_trace window budget code data
  · apply Option.some.inj
    rw [← settings.outcome_run?_eq_outcome_trace window budget code data 0,
      ← settings.outcome_run?_eq_outcome_trace window 0 code data 0,
      run?_of_nonpos (Int.le_of_lt negative)]
  · intro fuel
    exact run?_of_nonpos (Int.le_of_lt negative) settings fuel code (.whole data) .absent

end Settings
end TapeMachine

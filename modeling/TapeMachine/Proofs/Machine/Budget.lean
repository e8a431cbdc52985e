import Mathlib.Data.Nat.Init
import TapeMachine.Proofs.Machine.Dispatch
import TapeMachine.Proofs.Machine.Invariant

/-!
# Budgets

A budget counts the commands that a machine takes up, whether it completes them or fails at them;
comments and the end of the program are free.  So a machine that still runs at the end of its budget
has taken up, and completed, exactly as many commands as the budget allows, and it stands at the
next one.  A machine that has stopped has not been stopped by its budget, and no larger budget
changes anything.  Larger budgets only ever add cycles and output.
-/

namespace TapeMachine
namespace Machine

/-! ## The commands of a run -/

/-- The command that the next step takes up, if it finds one. -/
def next? (machine : Machine) : Option Command :=
  if machine.running && machine.skipComments.running then machine.skipComments.command? else none

/-- The commands that a machine takes up within a budget, in turn. -/
def dispatched : Nat → Machine → List Command
  | 0, _ => []
  | budget + 1, machine => machine.next?.toList ++ dispatched budget machine.step

theorem next?_of_not_running
    {machine : Machine}
    (stopped : ¬ machine.running) :
    machine.next? = none := by
  simp [next?, stopped]

theorem next?_of_command?
    {machine : Machine}
    {command : Command}
    (runs : machine.running)
    (found : machine.command? = some command) :
    machine.next? = some command := by
  simp [next?, skipComments_of_command? found, runs, found]

theorem next?_run_zero (machine : Machine) : (machine.run 0).next? = machine.next? := by
  by_cases runs : machine.running
  · rw [run_zero_of_running runs]
    simp [next?, runs]
  · rw [run_of_not_running runs]

/-- The last command that a run takes up is the next one of the machine that it has led to. -/
theorem dispatched_succ (budget : Nat) (machine : Machine) :
    machine.dispatched (budget + 1) =
      machine.dispatched budget ++ (machine.run budget).next?.toList := by
  induction budget generalizing machine with
  | zero => simp [dispatched, next?_run_zero]
  | succ budget inductionHypothesis =>
      rw [dispatched, inductionHypothesis, dispatched, run_succ, List.append_assoc]

theorem dispatched_prefix
    {shorter longer : Nat}
    (ordered : shorter ≤ longer)
    (machine : Machine) :
    machine.dispatched shorter <+: machine.dispatched longer := by
  induction longer, ordered using Nat.le_induction with
  | base => exact List.prefix_rfl
  | succ longer _ inductionHypothesis =>
      rw [dispatched_succ]
      exact inductionHypothesis.trans (List.prefix_append _ _)

theorem length_dispatched_le (budget : Nat) (machine : Machine) :
    (machine.dispatched budget).length ≤ budget := by
  induction budget generalizing machine with
  | zero => exact Nat.le_refl 0
  | succ budget inductionHypothesis =>
      have rest := inductionHypothesis machine.step
      rw [dispatched, List.length_append]
      cases machine.next? with
      | none =>
          rw [Option.toList_none, List.length_nil]
          omega
      | some command =>
          rw [Option.toList_some, List.length_singleton]
          omega

/-- A machine that still runs has taken up a command with every step. -/
theorem length_dispatched_of_running
    {machine : Machine}
    {budget : Nat}
    (runs : (machine.run budget).running) :
    (machine.dispatched budget).length = budget := by
  induction budget with
  | zero => rfl
  | succ budget inductionHypothesis =>
      rw [run_succ_right] at runs
      have ran := running_of_running_run runs
      obtain ⟨command, found⟩ := machine.settled_run budget ran
      rw [dispatched_succ, next?_of_command? ran found, List.length_append,
        inductionHypothesis ran]
      rfl

/--
The command at which a machine stands when its budget is spent is the next one of a longer run.
-/
theorem getElem?_dispatched
    {machine : Machine}
    {command : Command}
    {budget larger : Nat}
    (runs : (machine.run budget).running)
    (found : (machine.run budget).command? = some command)
    (ordered : budget < larger) :
    (machine.dispatched larger)[budget]? = some command := by
  obtain ⟨rest, whole⟩ := machine.dispatched_prefix ordered
  have before := length_dispatched_of_running runs
  rw [Nat.succ_eq_add_one, dispatched_succ, next?_of_command? runs found] at whole
  rw [← whole, Option.toList_some, List.append_assoc, List.singleton_append,
    List.getElem?_append_right (Nat.le_of_eq before), before, Nat.sub_self]
  rfl

/-- A machine that has stopped takes up no more commands. -/
theorem dispatched_of_not_running
    {machine : Machine}
    {budget larger : Nat}
    (stopped : ¬ (machine.run budget).running)
    (ordered : budget ≤ larger) :
    machine.dispatched larger = machine.dispatched budget := by
  induction larger, ordered using Nat.le_induction with
  | base => rfl
  | succ larger ordered inductionHypothesis =>
      obtain ⟨more, rfl⟩ := Nat.exists_eq_add_of_le ordered
      rw [dispatched_succ, run_add, run_of_not_running stopped, next?_of_not_running stopped,
        inductionHypothesis]
      exact List.append_nil _

/-- A budget is spent exactly when there is a command that a larger budget would take up. -/
theorem running_run_iff_lt_length_dispatched
    {machine : Machine}
    {budget larger : Nat}
    (ordered : budget < larger) :
    (machine.run budget).running ↔ budget + 1 ≤ (machine.dispatched larger).length := by
  constructor
  · intro runs
    obtain ⟨command, found⟩ := machine.settled_run budget runs
    have next : (machine.dispatched (budget + 1)).length = budget + 1 := by
      rw [dispatched_succ, next?_of_command? runs found, List.length_append,
        length_dispatched_of_running runs]
      rfl
    have more := (machine.dispatched_prefix ordered).length_le
    rw [Nat.succ_eq_add_one, next] at more
    exact more
  · intro enough
    by_contra stopped
    rw [dispatched_of_not_running stopped (Nat.le_of_lt ordered)] at enough
    have few := machine.length_dispatched_le budget
    omega

/-! ## Cycles -/

theorem failure?_skipComments (machine : Machine) :
    machine.skipComments.failure? = machine.failure? :=
  rfl

/-- A command that has an effect is no failure. -/
theorem failure?_of_effect
    {machine changed : Machine}
    {command : Command}
    (coherent : machine.Coherent)
    (runs : machine.running)
    (effect : machine.effect command = .ok changed)
    (position : Nat) :
    (changed.proceed position).skipComments.failure? = none :=
  (sameControl_effect effect).failure?.trans (coherent.failure?_of_running runs)

/--
The commands that a machine has taken up are those that it has completed and the one it failed at.
-/
theorem cycles_run_add_failures
    {machine : Machine}
    (coherent : machine.Coherent)
    (runs : machine.running)
    (budget : Nat) :
    (machine.run budget).cycles + (machine.run budget).failure?.toList.length =
      machine.cycles + (machine.dispatched budget).length := by
  induction budget with
  | zero =>
      rw [run_zero_of_running runs, failure?_skipComments, coherent.failure?_of_running runs]
      rfl
  | succ budget inductionHypothesis =>
      have coherentNow := coherent.run budget
      rw [run_succ_right, dispatched_succ, List.length_append, ← Nat.add_assoc,
        ← inductionHypothesis]
      rcases (machine.settled_run budget).run_one_cases with ⟨stopped, same⟩ |
        ⟨ran, command, changed, found, effect, advanced⟩ |
        ⟨ran, command, cause, found, -, failed⟩
      · rw [same, next?_of_not_running stopped]
        rfl
      · rw [advanced, failure?_of_effect coherentNow ran effect,
          coherentNow.failure?_of_running ran, next?_of_command? ran found]
        exact congrArg (· + 1) (sameControl_effect effect).cycles
      · rw [failed, coherentNow.failure?_of_running ran, next?_of_command? ran found]
        rfl

theorem cycles_run_le
    {machine : Machine}
    (coherent : machine.Coherent)
    (runs : machine.running)
    (budget : Nat) :
    (machine.run budget).cycles ≤ machine.cycles + budget := by
  have count := cycles_run_add_failures coherent runs budget
  have bound := machine.length_dispatched_le budget
  omega

/-- A machine that still runs has completed a command with every step. -/
theorem cycles_run_of_running
    {machine : Machine}
    {budget : Nat}
    (coherent : machine.Coherent)
    (runs : (machine.run budget).running) :
    (machine.run budget).cycles = machine.cycles + budget := by
  have count := cycles_run_add_failures coherent (running_of_running_run runs) budget
  rw [(coherent.run budget).failure?_of_running runs, length_dispatched_of_running runs] at count
  exact count

/-- A failure is that of a command without effect, at which the machine stood after fewer steps. -/
theorem exists_failing_command
    {machine : Machine}
    {budget : Nat}
    {failure : Failure}
    (coherent : machine.Coherent)
    (runs : machine.running)
    (failed : (machine.run budget).failure? = some failure) :
    ∃ fewer command, (machine.run fewer).running ∧
      (machine.run fewer).command? = some command ∧
      (machine.run fewer).effect command = .error failure.cause ∧
      machine.run budget = (machine.run fewer).fail failure.cause := by
  induction budget with
  | zero =>
      rw [run_zero_of_running runs, failure?_skipComments, coherent.failure?_of_running runs]
        at failed
      cases failed
  | succ budget inductionHypothesis =>
      rw [run_succ_right] at failed ⊢
      rcases (machine.settled_run budget).run_one_cases with ⟨-, same⟩ |
        ⟨ran, command, changed, -, effect, advanced⟩ |
        ⟨ran, command, cause, found, effect, stopped⟩
      · rw [same] at failed ⊢
        exact inductionHypothesis failed
      · rw [advanced, failure?_of_effect (coherent.run budget) ran effect] at failed
        cases failed
      · rw [stopped] at failed ⊢
        cases failed
        exact ⟨budget, command, ran, found, effect, rfl⟩

/-- A failure is that of the machine which has completed all the commands before. -/
theorem exists_run_eq_fail
    {machine : Machine}
    {budget : Nat}
    {failure : Failure}
    (coherent : machine.Coherent)
    (runs : machine.running)
    (failed : (machine.run budget).failure? = some failure) :
    ∃ fewer, (machine.run fewer).running ∧
      machine.run budget = (machine.run fewer).fail failure.cause := by
  obtain ⟨fewer, command, ran, -, -, stopped⟩ := exists_failing_command coherent runs failed
  exact ⟨fewer, ran, stopped⟩

/-! ## What larger budgets add -/

/--
One state of a run comes before another: it has no more cycles, and its output is a beginning.
-/
structure Precedes (before after : Machine) : Prop where
  cycles_le : before.cycles ≤ after.cycles
  output_prefix : before.output.toList <+: after.output.toList

namespace Precedes

theorem refl (machine : Machine) : machine.Precedes machine :=
  ⟨Nat.le_refl _, List.prefix_rfl⟩

theorem trans
    {first second third : Machine}
    (former : first.Precedes second)
    (latter : second.Precedes third) :
    first.Precedes third :=
  ⟨Nat.le_trans former.cycles_le latter.cycles_le, former.output_prefix.trans latter.output_prefix⟩

end Precedes

/-- Only writing has an effect on the output, and it adds the byte under the cursor. -/
theorem output_effect
    {machine changed : Machine}
    {command : Command}
    (effect : machine.effect command = .ok changed) :
    changed.output.toList =
      machine.output.toList ++ if command = .output then [machine.cell] else [] := by
  cases command with
  | moveLeft | moveRight =>
      obtain ⟨cursor, tape, rfl⟩ := exists_of_shift_eq_ok effect
      exact (List.append_nil _).symm
  | output =>
      cases effect
      exact Array.toList_push
  | input =>
      cases effect
      rw [receive_eq]
      exact (List.append_nil _).symm
  | increment | decrement | loopOpen | loopClose =>
      cases effect
      exact (List.append_nil _).symm

theorem output_prefix_effect
    {machine changed : Machine}
    {command : Command}
    (effect : machine.effect command = .ok changed) :
    machine.output.toList <+: changed.output.toList := by
  rw [output_effect effect]
  exact List.prefix_append _ _

theorem precedes_run (machine : Machine) (budget : Nat) :
    machine.Precedes (machine.run budget) := by
  induction budget with
  | zero =>
      by_cases runs : machine.running
      · rw [run_zero_of_running runs]
        exact ⟨Nat.le_refl _, List.prefix_rfl⟩
      · rw [run_of_not_running runs]
        exact .refl machine
  | succ budget inductionHypothesis =>
      rw [run_succ_right]
      refine inductionHypothesis.trans ?_
      rcases (machine.settled_run budget).run_one_cases with ⟨-, same⟩ |
        ⟨-, command, changed, -, effect, advanced⟩ | ⟨-, -, cause, -, -, failed⟩
      · rw [same]
        exact .refl _
      · have sameCycles := (sameControl_effect effect).cycles
        have moreOutput := output_prefix_effect effect
        rw [advanced]
        refine ⟨?_, moreOutput⟩
        change (machine.run budget).cycles ≤ changed.cycles + 1
        omega
      · rw [failed]
        exact ⟨Nat.le_refl _, List.prefix_rfl⟩

theorem runToStop?_of_not_running
    {machine : Machine}
    {budget fuel : Nat}
    (stopped : ¬ (machine.run budget).running)
    (ordered : budget ≤ fuel) :
    machine.runToStop? fuel = some (machine.run budget) := by
  obtain ⟨more, rfl⟩ := Nat.exists_eq_add_of_le ordered
  have same : machine.run (budget + more) = machine.run budget := by
    rw [run_add, run_of_not_running stopped]
  simp only [runToStop?, same, if_neg stopped]

end Machine

/-! ## Runs of a program text -/

namespace Settings

theorem run?_of_rejected
    {code : String}
    {rejection : Rejection}
    (rejected : Program.parse code = .error rejection)
    (settings : Settings)
    (fuel : Nat)
    (given : Option Int)
    (source : Source)
    (sink : Sink) :
    settings.run? fuel given code source sink = some (.ofRejection rejection sink) := by
  rw [run?, rejected]

theorem run?_of_budget
    {code : String}
    {program : Program}
    (accepted : Program.parse code = .ok program)
    (settings : Settings)
    (fuel budget : Nat)
    (source : Source)
    (sink : Sink) :
    settings.run? fuel (some budget) code source sink =
      some ((settings.launch program source sink).run budget).report := by
  rw [run?, accepted]
  rfl

/-- A run on an input is the run on the source that hands it out. -/
theorem runInput?_of_source
    {input : Input}
    {source : Source}
    (opened : input.source = .ok source)
    (settings : Settings)
    (fuel : Nat)
    (given : Option Int)
    (code : String)
    (sink : Sink) :
    settings.runInput? fuel given code input sink =
      (settings.run? fuel given code source sink).map .ok := by
  unfold runInput? run?
  cases Program.parse code with
  | error rejection => rfl
  | ok program =>
      rw [opened]

/-- A run that a budget does not stop is the run without a limit, if the fuel suffices for it. -/
theorem run?_unlimited
    {code : String}
    {program : Program}
    {budget fuel : Nat}
    {settings : Settings}
    {source : Source}
    {sink : Sink}
    (accepted : Program.parse code = .ok program)
    (stopped : ¬ ((settings.launch program source sink).run budget).running)
    (ordered : budget ≤ fuel) :
    { settings with maxSteps := none }.run? fuel none code source sink =
      some ((settings.launch program source sink).run budget).report := by
  rw [run?, accepted]
  change ((settings.launch program source sink).runToStop? fuel).map Machine.report = _
  rw [Machine.runToStop?_of_not_running stopped ordered]
  rfl

/--
A budget is exact and stable.  The report of a run within a budget never has more cycles than the
budget allows.  The limit is hit exactly when the program is accepted and takes up a further command
under a larger budget; then as many commands have been completed as the budget allows, nothing has
gone wrong, and the machine stands at that further command.  When the limit is not hit, every larger
budget gives the same report and so does a run without a limit.  Larger budgets only add output and
cycles, and the commands taken up are those completed and the one at which the run failed.
-/
theorem budget_is_exact_and_stable
    (settings : Settings)
    (code : String)
    (source : Source)
    (sink : Sink) :
    ∃ report : Nat → Report,
      (∀ fuel budget : Nat,
        settings.run? fuel (some budget) code source sink = some (report budget)) ∧
      (∀ budget, (report budget).outcome.cycles ≤ budget) ∧
      (∀ budget, (report budget).outcome.hitLimit ↔
        ∃ program, Program.parse code = .ok program ∧
          ∃ larger > budget,
            budget + 1 ≤ ((settings.launch program source sink).dispatched larger).length) ∧
      (∀ budget, (report budget).outcome.hitLimit →
        (report budget).outcome.cycles = budget ∧
          (report budget).outcome.diagnostic = none ∧
          ∃ program command, Program.parse code = .ok program ∧
            program.code[(report budget).outcome.position]? = some command.symbol ∧
            ∀ larger > budget,
              ((settings.launch program source sink).dispatched larger)[budget]? =
                some command) ∧
      (∀ budget, ¬ (report budget).outcome.hitLimit →
        (∀ larger ≥ budget, report larger = report budget) ∧
          ∀ fuel ≥ budget,
            { settings with maxSteps := none }.run? fuel none code source sink =
              some (report budget)) ∧
      (∀ smaller larger, smaller ≤ larger →
        (report smaller).outcome.output.toList <+: (report larger).outcome.output.toList ∧
          (report smaller).outcome.cycles ≤ (report larger).outcome.cycles) ∧
      ∀ program, Program.parse code = .ok program → ∀ budget,
        ((settings.launch program source sink).dispatched budget).length =
          (report budget).outcome.cycles + (report budget).outcome.diagnostic.toList.length := by
  cases parsed : Program.parse code with
  | error rejection =>
      refine ⟨fun _ => .ofRejection rejection sink, ?_, ?_, ?_, ?_, ?_, ?_, ?_⟩
      · intro fuel budget
        exact run?_of_rejected parsed settings fuel (some budget) source sink
      · intro budget
        exact Nat.zero_le budget
      · intro budget
        constructor
        · intro hit
          cases hit
        · rintro ⟨program, accepted, -⟩
          cases accepted
      · intro budget hit
        cases hit
      · intro budget _
        refine ⟨fun larger _ => rfl, fun fuel _ => ?_⟩
        exact run?_of_rejected parsed { settings with maxSteps := none } fuel none source sink
      · intro smaller larger _
        exact ⟨List.prefix_rfl, Nat.le_refl 0⟩
      · intro program accepted
        cases accepted
  | ok program =>
      let machine := settings.launch program source sink
      have runs : machine.running := rfl
      have coherent : machine.Coherent := settings.launch_coherent program source sink
      have diagnosed (budget : Nat) :
          (machine.run budget).outcome.diagnostic.toList.length =
            (machine.run budget).failure?.toList.length := by
        cases failed : (machine.run budget).failure? with
        | none => simp [Machine.outcome, failed]
        | some failure => simp [Machine.outcome, failed]
      refine ⟨fun budget => (machine.run budget).report, ?_, ?_, ?_, ?_, ?_, ?_, ?_⟩
      · intro fuel budget
        exact run?_of_budget parsed settings fuel budget source sink
      · intro budget
        have bound := Machine.cycles_run_le coherent runs budget
        rwa [show machine.cycles = 0 from rfl, Nat.zero_add] at bound
      · intro budget
        constructor
        · intro hit
          exact ⟨program, rfl, budget + 1, Nat.lt_succ_self budget,
            (Machine.running_run_iff_lt_length_dispatched (Nat.lt_succ_self budget)).mp hit⟩
        · rintro ⟨found, accepted, larger, ordered, enough⟩
          cases accepted
          exact (Machine.running_run_iff_lt_length_dispatched ordered).mpr enough
      · intro budget hit
        obtain ⟨command, found⟩ := machine.settled_run budget hit
        have sameProgram := ((settings.launch_sound program source sink).run budget).program_eq
        refine ⟨?_, ?_, program, command, rfl, ?_, ?_⟩
        · have exact := Machine.cycles_run_of_running coherent hit
          rwa [show machine.cycles = 0 from rfl, Nat.zero_add] at exact
        · simp only [Machine.report, Machine.outcome,
            (coherent.run budget).failure?_of_running hit, Option.map_none]
        · rw [← sameProgram]
          exact Program.code_of_command? found
        · intro larger ordered
          exact Machine.getElem?_dispatched hit found ordered
      · intro budget stopped
        refine ⟨fun larger ordered => ?_, fun fuel ordered => ?_⟩
        · obtain ⟨more, rfl⟩ := Nat.exists_eq_add_of_le ordered
          simp only [Machine.run_add, Machine.run_of_not_running stopped]
        · exact run?_unlimited parsed stopped ordered
      · intro smaller larger ordered
        obtain ⟨more, rfl⟩ := Nat.exists_eq_add_of_le ordered
        have precedes := (machine.run smaller).precedes_run more
        rw [← Machine.run_add] at precedes
        exact ⟨precedes.output_prefix, precedes.cycles_le⟩
      · intro found accepted budget
        cases accepted
        have count := Machine.cycles_run_add_failures coherent runs budget
        rw [← diagnosed, show machine.cycles = 0 from rfl, Nat.zero_add] at count
        exact count.symm

end Settings
end TapeMachine

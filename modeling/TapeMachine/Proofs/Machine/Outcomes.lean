import TapeMachine.Proofs.Comments.Runs
import TapeMachine.Proofs.Machine.Budget

/-!
# How runs end

A run ends in one of four ways.  The program is rejected, or the run fails at a command, or its
budget stops it, or it reaches the end of the program.  The diagnostic and the limit tell which of
them it was, and everything else that a report says fits to it, because all of it is taken from one
machine and that machine is sound.

A rejection leaves no trace: the source has not been asked and the sink has taken nothing.
-/

namespace TapeMachine

/-- The ways in which a run can end. -/
inductive Conclusion
  /-- The program was rejected. -/
  | rejected
  /-- The run failed at a command. -/
  | failed
  /-- The budget stopped the run. -/
  | stopped
  /-- The run reached the end of the program. -/
  | finished
  deriving DecidableEq, Repr

namespace Outcome

/-- The conclusion that the diagnostic and the limit tell. -/
def conclusion (outcome : Outcome) : Conclusion :=
  match outcome.diagnostic with
  | some (.rejected _) => .rejected
  | some (.failed _) => .failed
  | none => if outcome.hitLimit then .stopped else .finished

/-- Everything that the diagnostic and the limit can tell. -/
theorem conclusion_cases (outcome : Outcome) :
    (∃ rejection, outcome.diagnostic = some (.rejected rejection) ∧
        outcome.conclusion = .rejected) ∨
      (∃ failure, outcome.diagnostic = some (.failed failure) ∧
        outcome.conclusion = .failed) ∨
      (outcome.diagnostic = none ∧ outcome.hitLimit = true ∧
        outcome.conclusion = .stopped) ∨
      (outcome.diagnostic = none ∧ outcome.hitLimit = false ∧
        outcome.conclusion = .finished) := by
  unfold conclusion
  cases outcome.diagnostic with
  | some diagnostic =>
      cases diagnostic with
      | rejected rejection => exact Or.inl ⟨rejection, rfl, rfl⟩
      | failed failure => exact Or.inr (Or.inl ⟨failure, rfl, rfl⟩)
  | none =>
      cases outcome.hitLimit with
      | true => exact Or.inr (Or.inr (Or.inl ⟨rfl, rfl, rfl⟩))
      | false => exact Or.inr (Or.inr (Or.inr ⟨rfl, rfl, rfl⟩))

/-- Only a run that has finished is in order. -/
theorem ok_iff_conclusion (outcome : Outcome) : outcome.ok ↔ outcome.conclusion = .finished := by
  rcases outcome.conclusion_cases with ⟨_, diagnostic, conclusion⟩ |
    ⟨_, diagnostic, conclusion⟩ | ⟨diagnostic, hitLimit, conclusion⟩ |
    ⟨diagnostic, hitLimit, conclusion⟩
  · simp [ok, diagnostic, conclusion]
  · simp [ok, diagnostic, conclusion]
  · simp [ok, diagnostic, hitLimit, conclusion]
  · simp [ok, diagnostic, hitLimit, conclusion]

/-- What is raised for a diagnostic is of its kind and carries it; otherwise nothing is raised. -/
theorem orRaise_iff_conclusion (outcome : Outcome) :
    ((∃ rejection, outcome.orRaise = .error ⟨.parseFailure, .rejected rejection⟩) ↔
        outcome.conclusion = .rejected) ∧
      ((∃ failure, outcome.orRaise = .error ⟨.executionFailure, .failed failure⟩) ↔
        outcome.conclusion = .failed) ∧
      (outcome.orRaise = .ok outcome ↔
        outcome.conclusion = .stopped ∨ outcome.conclusion = .finished) := by
  rcases outcome.conclusion_cases with ⟨_, diagnostic, conclusion⟩ |
    ⟨_, diagnostic, conclusion⟩ | ⟨diagnostic, -, conclusion⟩ | ⟨diagnostic, -, conclusion⟩
  · simp [orRaise, Diagnostic.raise, diagnostic, conclusion]
  · simp [orRaise, Diagnostic.raise, diagnostic, conclusion]
  · simp [orRaise, diagnostic, conclusion]
  · simp [orRaise, diagnostic, conclusion]

end Outcome

namespace Report

/-- What a report shows if the run of a program text on a sink has ended in a certain way. -/
inductive Shows (code : String) (sink : Sink) (report : Report) : Conclusion → Prop
  /-- A rejected program has not been started. -/
  | rejected
      (rejection : Rejection)
      (diagnostic : report.outcome.diagnostic = some (.rejected rejection))
      (output : report.outcome.output = #[])
      (cycles : report.outcome.cycles = 0)
      (position : report.outcome.position = 0)
      (hitLimit : report.outcome.hitLimit = false)
      (polls : report.polls = 0)
      (untouched : report.sink = sink) :
      Shows code sink report .rejected
  /-- A run that has failed has a diagnostic that tells where and when it did. -/
  | failed
      (failure : Failure)
      (diagnostic : report.outcome.diagnostic = some (.failed failure))
      (position : failure.position = report.outcome.position)
      (cycles : failure.cycles = report.outcome.cycles)
      (hitLimit : report.outcome.hitLimit = false) :
      Shows code sink report .failed
  /-- A run that has been stopped has not reached the end. -/
  | stopped
      (diagnostic : report.outcome.diagnostic = none)
      (hitLimit : report.outcome.hitLimit = true)
      (position : report.outcome.position < code.length) :
      Shows code sink report .stopped
  /-- A run that has finished has reached the end. -/
  | finished
      (diagnostic : report.outcome.diagnostic = none)
      (hitLimit : report.outcome.hitLimit = false)
      (position : report.outcome.position = code.length) :
      Shows code sink report .finished

namespace Shows

variable {code : String} {sink : Sink} {report : Report} {conclusion : Conclusion}

/-- The conclusion that a report shows is the one that its diagnostic and its limit tell. -/
theorem conclusion_eq (shows : report.Shows code sink conclusion) :
    report.outcome.conclusion = conclusion := by
  cases shows with
  | rejected rejection diagnostic => simp [Outcome.conclusion, diagnostic]
  | failed failure diagnostic => simp [Outcome.conclusion, diagnostic]
  | stopped diagnostic hitLimit => simp [Outcome.conclusion, diagnostic, hitLimit]
  | finished diagnostic hitLimit => simp [Outcome.conclusion, diagnostic, hitLimit]

/-- A report that shows any conclusion shows the one that its diagnostic and its limit tell. -/
theorem iff_conclusion_eq
    (shows : report.Shows code sink conclusion)
    (other : Conclusion) :
    report.Shows code sink other ↔ report.outcome.conclusion = other := by
  constructor
  · exact conclusion_eq
  · rintro rfl
    rwa [shows.conclusion_eq]

end Shows

theorem shows_ofRejection
    (code : String)
    (rejection : Rejection)
    (sink : Sink) :
    (ofRejection rejection sink).Shows code sink .rejected :=
  .rejected rejection rfl rfl rfl rfl rfl rfl rfl

end Report

namespace Program

theorem matchLoops_of_parse_eq_error
    {code : String}
    {rejection : Rejection}
    (rejected : parse code = .error rejection) :
    matchLoops code.toList = .error rejection := by
  simp only [parse] at rejected
  split at rejected
  · cases rejected
  · cases rejected
    assumption

/-- A text is accepted exactly when its brackets are balanced. -/
theorem exists_parse_iff (code : String) :
    (∃ program, parse code = .ok program) ↔ Brackets.Balanced code.toList := by
  rw [← Brackets.exists_matchLoops_iff]
  constructor
  · rintro ⟨program, accepted⟩
    refine ⟨program.loops, ?_⟩
    rw [← code_of_parse accepted]
    exact program.matched
  · rintro ⟨table, matched⟩
    cases parsed : parse code with
    | ok program => exact ⟨program, rfl⟩
    | error rejection =>
        rw [matchLoops_of_parse_eq_error parsed] at matched
        cases matched

theorem length_of_parse
    {code : String}
    {program : Program}
    (accepted : parse code = .ok program) :
    program.length = code.length := by
  rw [length, ← Array.length_toList, code_of_parse accepted, String.length_toList]

end Program

namespace Machine

/--
A failure of a run tells where in its program and after how many cycles the machine has stopped.
-/
theorem failure_run
    {machine : Machine}
    {budget : Nat}
    {failure : Failure}
    (coherent : machine.Coherent)
    (runs : machine.running)
    (failed : (machine.run budget).failure? = some failure) :
    failure =
      { location := (machine.run budget).program.locate (machine.run budget).position
        position := (machine.run budget).position
        cycles := (machine.run budget).cycles
        cause := failure.cause } := by
  obtain ⟨fewer, -, atFailure⟩ := exists_run_eq_fail coherent runs failed
  rw [atFailure] at failed ⊢
  exact (Option.some.inj failed).symm

/-- The report on a run of an accepted text shows how the run has ended, and never a rejection. -/
theorem exists_shows_run
    {machine : Machine}
    {code : String}
    {program : Program}
    {start : Extent}
    (accepted : Program.parse code = .ok program)
    (sound : machine.Sound program start)
    (runs : machine.running)
    (budget : Nat)
    (sink : Sink) :
    ∃ conclusion ≠ .rejected, (machine.run budget).report.Shows code sink conclusion := by
  have soundEnd := sound.run budget
  have clean := soundEnd.coherent.failure?_eq_none
  have sameLength := Program.length_of_parse accepted
  cases status : (machine.run budget).status with
  | running =>
      have stillRuns := (running_iff _).mpr status
      obtain ⟨command, found⟩ := machine.settled_run budget stillRuns
      have inside := Program.lt_length_of_command? found
      rw [soundEnd.program_eq, sameLength] at inside
      refine ⟨.stopped, by decide, .stopped ?_ stillRuns inside⟩
      simp [report, outcome, clean, status]
  | finished =>
      refine ⟨.finished, by decide, .finished ?_ ?_ ?_⟩
      · simp [report, outcome, clean, status]
      · simp [report, outcome, running, status]
      · rw [← sameLength]
        exact soundEnd.finished_at_end status
  | failed =>
      obtain ⟨failure, failed⟩ := Option.isSome_iff_exists.mp (soundEnd.coherent.mpr status)
      have told := failure_run sound.coherent runs failed
      refine ⟨.failed, by decide, .failed failure ?_ ?_ ?_ ?_⟩
      · simp [report, outcome, failed]
      · exact congrArg Failure.position told
      · exact congrArg Failure.cycles told
      · simp [report, outcome, running, status]

end Machine

namespace Settings

variable {settings : Settings} {code : String} {source : Source} {sink : Sink} {given : Option Int}

/-- A run within a budget has a report, and the report does not depend on the fuel. -/
theorem exists_run?
    (limited : settings.budget given ≠ none) :
    ∃ report, ∀ fuel, settings.run? fuel given code source sink = some report := by
  obtain ⟨steps, budget⟩ := Option.ne_none_iff_exists'.mp limited
  cases parsed : Program.parse code with
  | error rejection =>
      exact ⟨_, fun fuel => run?_of_rejected parsed settings fuel given source sink⟩
  | ok program =>
      refine ⟨((settings.launch program source sink).run steps.toNat).report, fun fuel => ?_⟩
      rw [run?, parsed]
      simp only [runProgram?, budget]
      rfl

/-- The report of a run shows how it has ended: in a rejection if the text was not accepted. -/
theorem exists_shows_of_run?
    {fuel : Nat}
    {report : Report}
    (returned : settings.run? fuel given code source sink = some report) :
    ∃ conclusion, report.Shows code sink conclusion ∧
      (conclusion = .rejected ↔ ¬ ∃ program, Program.parse code = .ok program) := by
  cases parsed : Program.parse code with
  | error rejection =>
      rw [run?_of_rejected parsed] at returned
      cases returned
      refine ⟨.rejected, Report.shows_ofRejection code rejection sink, ?_⟩
      simp
  | ok program =>
      rw [run?, parsed] at returned
      obtain ⟨ended, ends, rfl⟩ := Option.map_eq_some_iff.mp returned
      obtain ⟨steps, rfl⟩ := Machine.exists_eq_run_of_runWithin? ends
      obtain ⟨conclusion, notRejected, shows⟩ := Machine.exists_shows_run parsed
        (settings.launch_sound program source sink) rfl steps sink
      refine ⟨conclusion, shows, ?_⟩
      simp [notRejected]

/-- More fuel does not change a report. -/
theorem run?_of_le
    {fuel more : Nat}
    {report : Report}
    (returned : settings.run? fuel given code source sink = some report)
    (ordered : fuel ≤ more) :
    settings.run? more given code source sink = some report := by
  cases budget : settings.budget given with
  | some steps =>
      have limited : settings.budget given ≠ none := by simp [budget]
      obtain ⟨always, same⟩ := @exists_run? settings code source sink given limited
      rw [same] at returned ⊢
      exact returned
  | none =>
      cases parsed : Program.parse code with
      | error rejection =>
          rw [run?_of_rejected parsed] at returned ⊢
          exact returned
      | ok program =>
          rw [run?, parsed] at returned ⊢
          simp only [runProgram?, budget, Machine.runWithin?] at returned ⊢
          obtain ⟨ended, ends, rfl⟩ := Option.map_eq_some_iff.mp returned
          have stopped : ¬ ((settings.launch program source sink).run fuel).running := by
            intro runs
            simp [Machine.runToStop?, runs] at ends
          rw [Machine.runToStop?_of_not_running stopped ordered]
          rw [Machine.runToStop?_of_not_running stopped (Nat.le_refl fuel)] at ends
          cases ends
          rfl

/--
Every run comes to exactly one of four conclusions, and a rejection has no effects.  A run within a
budget always has a report, and a report does not change with more fuel.  It shows one conclusion: a
rejection exactly if the brackets are not balanced, a failure whose position and cycles are those of
the outcome, a stop by the budget before the end, or the end.  The outcome is in order exactly in
the last case.  A caller who has diagnostics raised gets a parse failure with the rejection exactly
in the first case, an execution failure with the failure exactly in the second, and the outcome as
it is otherwise.
-/
theorem run_ends_in_exactly_one_way
    (settings : Settings)
    (code : String)
    (source : Source)
    (sink : Sink)
    (given : Option Int) :
    (settings.budget given ≠ none →
      ∃ report, ∀ fuel, settings.run? fuel given code source sink = some report) ∧
    ∀ fuel report, settings.run? fuel given code source sink = some report →
      (∀ more ≥ fuel, settings.run? more given code source sink = some report) ∧
      (∃! conclusion, report.Shows code sink conclusion) ∧
      (report.Shows code sink .rejected ↔ ¬ Brackets.Balanced code.toList) ∧
      (report.outcome.ok ↔ report.Shows code sink .finished) ∧
      ((∃ rejection, report.outcome.orRaise = .error ⟨.parseFailure, .rejected rejection⟩) ↔
        report.Shows code sink .rejected) ∧
      ((∃ failure, report.outcome.orRaise = .error ⟨.executionFailure, .failed failure⟩) ↔
        report.Shows code sink .failed) ∧
      (report.outcome.orRaise = .ok report.outcome ↔
        report.Shows code sink .stopped ∨ report.Shows code sink .finished) := by
  refine ⟨exists_run?, fun fuel report returned => ?_⟩
  obtain ⟨conclusion, shows, rejectedIff⟩ := exists_shows_of_run? returned
  refine ⟨fun more => run?_of_le returned, ⟨conclusion, shows, ?_⟩, ?_⟩
  · intro other otherShows
    rw [← shows.conclusion_eq, otherShows.conclusion_eq]
  · simp only [shows.iff_conclusion_eq]
    refine ⟨?_, report.outcome.ok_iff_conclusion, report.outcome.orRaise_iff_conclusion⟩
    rw [shows.conclusion_eq, rejectedIff, Program.exists_parse_iff]

/-- A move off the left edge after one cycle, with a budget that would allow more. -/
theorem run_ends_in_failure_at_left_edge :
    ∃ report, ({} : Settings).run? 0 (some 5) "+<" .closed .absent = some report ∧
      report.Shows "+<" .absent .failed ∧ report.outcome.position = 1 ∧
      report.outcome.cycles = 1 ∧ report.outcome.ok = false := by
  let failure : Failure := ⟨⟨1, 1, 2⟩, 1, 1, .underflow⟩
  have returned : ({} : Settings).run? 0 (some 5) "+<" .closed .absent =
      some ⟨⟨#[], some (.failed failure), 1, 1, false⟩, .absent, 0⟩ := by
    decide +kernel
  obtain ⟨-, shown⟩ := run_ends_in_exactly_one_way {} "+<" .closed .absent (some 5)
  obtain ⟨-, -, -, -, -, failedIff, -⟩ := shown 0 _ returned
  exact ⟨_, returned, failedIff.mp ⟨failure, rfl⟩, rfl, rfl, rfl⟩

end Settings
end TapeMachine

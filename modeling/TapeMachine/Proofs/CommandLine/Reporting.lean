import TapeMachine.Proofs.CommandLine.Endings
import TapeMachine.Proofs.Diagnostic.Caret
import TapeMachine.Proofs.Machine.Recording

/-!
# Reports of runs and checks

A command that runs a program tells what has happened.  The standard output has the bytes that the
run has recorded, however it has ended, and the status tells whether there is a diagnostic, whether
the run was stopped by its budget, or neither.  A diagnostic is shown with an excerpt of the
program, which is always there because the diagnostics of a run are located in the text of its
program.

A command that lacks its program, its settings or its input has written nothing else when it says
so.  A check of the same text finds exactly what the run would be rejected for, and shows it alike.
-/

namespace TapeMachine

/-! ## Diagnostics of runs -/

/-- What is shown of a diagnostic that is located in a text is its excerpt of the text. -/
theorem Diagnostic.render?_eq_some_render
    {found : Diagnostic}
    {program : List Char}
    {offset : Int}
    (located : found.location = .ofOffset program offset) :
    found.render? program 1 = some (found.render program) := by
  obtain ⟨rendering, rendered⟩ := exists_render? located 1
  rw [render, rendered, Option.getD_some]

namespace Settings

variable {settings : Settings} {fuel : Nat} {given : Option Int} {code : String}
  {source : Source} {sink : Sink}

/-- The diagnostic of a run is located in the text of its program. -/
theorem location_of_run?
    {report : Report}
    {diagnostic : Diagnostic}
    (returned : settings.run? fuel given code source sink = some report)
    (found : report.outcome.diagnostic = some diagnostic) :
    ∃ offset, diagnostic.location = .ofOffset code.toList offset := by
  obtain ⟨offset, located, -⟩ := (Diagnostic.ArisesFrom.reported returned found).exists_offset
  exact ⟨offset, located⟩

/-- A run has a diagnostic, or has been stopped by its budget, or neither, but never both. -/
theorem diagnosed_or_stopped_or_finished
    {report : Report}
    (returned : settings.run? fuel given code source sink = some report) :
    (∃ diagnostic, report.outcome.diagnostic = some diagnostic ∧ report.outcome.hitLimit = false) ∨
      (report.outcome.diagnostic = none ∧ report.outcome.hitLimit = true) ∨
      (report.outcome.diagnostic = none ∧ report.outcome.hitLimit = false) := by
  obtain ⟨conclusion, shows, -⟩ := exists_shows_of_run? returned
  cases shows with
  | rejected rejection diagnostic _ _ _ hitLimit => exact .inl ⟨_, diagnostic, hitLimit⟩
  | failed failure diagnostic _ _ hitLimit => exact .inl ⟨_, diagnostic, hitLimit⟩
  | stopped diagnostic hitLimit => exact .inr (.inl ⟨diagnostic, hitLimit⟩)
  | finished diagnostic hitLimit => exact .inr (.inr ⟨diagnostic, hitLimit⟩)

/-- A run is rejected exactly for what its text is refused for, whatever the fuel is. -/
theorem exists_rejected_run?_iff (rejection : Rejection) :
    (∃ report, settings.run? fuel given code source sink = some report ∧
        report.outcome.diagnostic = some (.rejected rejection)) ↔
      Program.parse code = .error rejection := by
  constructor
  · rintro ⟨report, returned, found⟩
    cases parsed : Program.parse code with
    | error refused =>
        rw [run?_of_rejected parsed] at returned
        cases returned
        cases found
        rfl
    | ok program =>
        rw [run?, parsed] at returned
        obtain ⟨ended, -, rfl⟩ := Option.map_eq_some_iff.mp returned
        -- a machine has no diagnostics but failures
        obtain ⟨failure, -, failed⟩ := Option.map_eq_some_iff.mp found
        cases failed
  · intro rejected
    exact ⟨_, run?_of_rejected rejected settings fuel given source sink, rfl⟩

end Settings

namespace CommandLine

/-! ## What is told -/

namespace Completion

/-- A completion tells the outcome of a program text, after a journal. -/
structure TellsOutcome
    (completion : Completion)
    (code journal : String)
    (outcome : Outcome) : Prop where
  /-- The standard output has the bytes that were recorded. -/
  stdout : completion.stdout = outcome.output.toList
  /-- The status is one exactly if there is a diagnostic. -/
  diagnosed : completion.ending = .exit 1 ↔ ∃ diagnostic, outcome.diagnostic = some diagnostic
  /-- The status is three exactly if the budget has stopped the run. -/
  stopped : completion.ending = .exit 3 ↔ outcome.hitLimit = true
  /-- The status is zero otherwise. -/
  finished : completion.ending = .exit 0 ↔ outcome.diagnostic = none ∧ outcome.hitLimit = false
  /-- A diagnostic is shown with its excerpt of the text. -/
  shown : ∀ diagnostic, outcome.diagnostic = some diagnostic →
    ∃ rendering, diagnostic.render? code.toList 1 = some rendering ∧
      completion.stderr = journal ++ (rendering ++ "\n")

/-- A completion tells whether a program text is refused, and for what. -/
structure TellsRefusal
    (completion : Completion)
    (code : String)
    (reason : Rejection → Prop) : Prop where
  /-- The status is one exactly if there is a reason to refuse the text. -/
  refused : completion.ending = .exit 1 ↔ ∃ rejection, reason rejection
  /-- The status is zero otherwise. -/
  accepted : completion.ending = .exit 0 ↔ ¬ ∃ rejection, reason rejection
  /-- The reason is shown with its excerpt of the text, and nothing else is. -/
  shown : ∀ rejection, reason rejection →
    ∃ rendering, (Diagnostic.rejected rejection).render? code.toList 1 = some rendering ∧
      completion.stderr = rendering ++ "\n"

/-- A completion has a status of two exactly if something is lacking, and then tells that alone. -/
def TellsLack
    {Needed : Type}
    (completion : Completion)
    (needs : Except Problem Needed) : Prop :=
  completion.ending = .exit 2 ↔
    ∃ problem, needs = .error problem ∧ problem.severity = .reported ∧
      completion.stdout = [] ∧ completion.stderr = "error: " ++ problem.message ++ "\n"

theorem tellsLack_ofProblem
    {Needed : Type}
    {needs : Except Problem Needed}
    {problem : Problem}
    (lacking : needs = .error problem) :
    (ofProblem problem "" "").TellsLack needs := by
  have silent : textBytes "" = [] := by simp [textBytes]
  rw [TellsLack, ending_ofProblem]
  by_cases reported : problem.severity = .reported
  · refine iff_of_true (if_pos reported) ⟨problem, lacking, reported, ?_, ?_⟩
    · simp only [ofProblem, reported, silent]
    · simp only [ofProblem, reported, String.empty_append]
  · apply iff_of_false
    · simp [reported]
    · rintro ⟨other, same, otherReported, -, -⟩
      obtain rfl : problem = other := Except.error.inj (lacking.symm.trans same)
      exact reported otherReported

/-- A command that lacks nothing tells so by any status but two. -/
theorem tellsLack_of_ok
    {Needed : Type}
    {needs : Except Problem Needed}
    {needed : Needed}
    {completion : Completion}
    (given : needs = .ok needed)
    (notTwo : completion.ending ≠ .exit 2) :
    completion.TellsLack needs := by
  apply iff_of_false notTwo
  rintro ⟨problem, lacking, -⟩
  cases given.symm.trans lacking

end Completion

/-! ## Running -/

/-- Without a file and variables the settings are the standard ones with the overrides. -/
theorem SettingsChoice.load_of_overrides
    {choice : SettingsChoice}
    {world : World}
    (noFile : choice.config = .null)
    (noVariables : ∀ name, world.environment name = none) :
    choice.load world =
      (Draft.settle fun field => if (choice.overrides field).isNull then Settings.get {} field
        else choice.overrides field).mapError .settings := by
  have standard : Draft.settle (Settings.get {}) = .ok {} := rfl
  have described : world.settings = .ok {} := by
    simp only [World.settings, Settings.ofEnvironment, Settings.ofVariables_eq_settle, noVariables,
      Option.elim, Value.isNull, if_true, standard, Except.mapError]
  simp only [load, base, noFile, described, entries, Settings.replace_fields, bind, Except.bind]

/-- Without a file, overrides and variables the settings are the standard ones. -/
theorem SettingsChoice.load_of_unset
    {choice : SettingsChoice}
    {world : World}
    (noFile : choice.config = .null)
    (noOverrides : ∀ field, choice.overrides field = .null)
    (noVariables : ∀ name, world.environment name = none) :
    choice.load world = .ok {} := by
  have standard : Draft.settle (Settings.get {}) = .ok {} := rfl
  rw [load_of_overrides noFile noVariables]
  simp only [noOverrides, Value.isNull, if_true, standard, Except.mapError]

section Running

variable {world : World} {program : ProgramChoice} {choice : SettingsChoice} {input : Value}
  {stdin : Bool} {code : String} {settings : Settings} {source : Source}

theorem runNeeds_eq_ok
    (loaded : program.load world = .ok code)
    (chosen : choice.load world = .ok settings)
    (offered : runSource world input stdin = .ok source) :
    runNeeds world program choice input stdin = .ok (code, settings, source) := by
  simp only [runNeeds, loaded, chosen, offered, bind, Except.bind]

/-- What a run writes and how it ends is determined by the outcome of the run without a sink. -/
theorem runProgram_of_runNeeds_eq_ok
    (needs : runNeeds world program choice input stdin = .ok (code, settings, source))
    (fuel : Nat)
    (verbose : Bool) :
    runProgram fuel world verbose program choice input stdin =
      (settings.run? fuel none code source .absent).map fun report =>
        { stdout := report.outcome.output.toList
          stderr := shownJournal verbose (fun _ => settings.journal fuel none code source) ++
            (runVerdict settings code report.outcome).1
          ending := .exit (runVerdict settings code report.outcome).2 } := by
  simp only [runProgram, needs]
  rw [settings.run?_eq_run?_absent, Option.map_map]
  congr 1
  funext report
  simp only [Function.comp_apply, Sink.data_close, Sink.having, Array.empty_append]
  rfl

/-- The outcome of a run is told by what the command has written and by how it has ended. -/
theorem tellsOutcome_of_run?
    {fuel : Nat}
    {report : Report}
    (returned : settings.run? fuel none code source .absent = some report)
    (journal : String) :
    Completion.TellsOutcome
      { stdout := report.outcome.output.toList
        stderr := journal ++ (runVerdict settings code report.outcome).1
        ending := .exit (runVerdict settings code report.outcome).2 }
      code journal report.outcome := by
  rcases Settings.diagnosed_or_stopped_or_finished returned with
    ⟨diagnostic, found, unlimited⟩ | ⟨undiagnosed, limited⟩ | ⟨undiagnosed, unlimited⟩
  · obtain ⟨offset, located⟩ := Settings.location_of_run? returned found
    have rendered := Diagnostic.render?_eq_some_render located
    constructor <;> simp [runVerdict, found, unlimited, rendered, statusDiagnostic]
  · constructor <;> simp [runVerdict, undiagnosed, limited, statusStepLimit]
  · constructor <;> simp [runVerdict, undiagnosed, unlimited, statusOk]

theorem tellsLack_runProgram
    {fuel : Nat}
    {verbose : Bool}
    {completion : Completion}
    (complete : runProgram fuel world verbose program choice input stdin = some completion) :
    completion.TellsLack (runNeeds world program choice input stdin) := by
  cases needs : runNeeds world program choice input stdin with
  | error problem =>
      rw [runProgram_of_runNeeds_eq_error needs] at complete
      cases complete
      exact Completion.tellsLack_ofProblem rfl
  | ok needed =>
      obtain ⟨code, settings, source⟩ := needed
      rw [runProgram_of_runNeeds_eq_ok needs] at complete
      obtain ⟨report, -, rfl⟩ := Option.map_eq_some_iff.mp complete
      apply Completion.tellsLack_of_ok rfl
      unfold runVerdict
      split
      · simp [statusDiagnostic]
      · split <;> simp [statusStepLimit, statusOk]

end Running

/-! ## Checking -/

section Checking

variable {world : World} {program : ProgramChoice} {code : String}

/-- A check tells what the text of the program is refused for. -/
theorem tellsRefusal_checkProgram
    (loaded : program.load world = .ok code)
    (verbose : Bool) :
    (checkProgram world verbose program).TellsRefusal code fun rejection =>
      Program.parse code = .error rejection := by
  cases parsed : Program.parse code with
  | error rejection =>
      obtain ⟨offset, located⟩ := Program.location_of_parse_eq_error parsed
      have rendered := @Diagnostic.render?_eq_some_render (.rejected rejection) _ _ located
      constructor <;> simp [checkProgram, loaded, parsed, rendered, statusDiagnostic]
  | ok program =>
      constructor <;> simp [checkProgram, loaded, parsed, statusOk]

theorem tellsLack_checkProgram (verbose : Bool) :
    (checkProgram world verbose program).TellsLack (program.load world) := by
  cases loaded : program.load world with
  | error problem =>
      rw [checkProgram, loaded]
      exact Completion.tellsLack_ofProblem rfl
  | ok code =>
      have tells := tellsRefusal_checkProgram loaded verbose
      apply Completion.tellsLack_of_ok rfl
      by_cases refused : ∃ rejection, Program.parse code = .error rejection
      · rw [tells.refused.mpr refused]
        decide
      · rw [tells.accepted.mpr refused]
        decide

end Checking

/--
Running a program reports what has happened.  With its program, its settings and its input at hand
the command completes exactly if the run does, and always does within a limit; it writes the bytes
of the output and tells the outcome.  A check of the same text completes and tells whether, and for
what, the run is rejected.  Either command has a status of two exactly if something that it needs is
lacking and that is reported, and then it has written nothing to the standard output.
-/
theorem run_reports_what_happened
    {arguments : List String}
    {verbose : Bool}
    {program : ProgramChoice}
    {choice : SettingsChoice}
    {input : Value}
    {stdin : Bool}
    (read : readInvocation arguments = .ok ⟨verbose, .run program choice input stdin⟩)
    (world : World)
    (fuel : Nat) :
    (∀ code settings source, program.load world = .ok code → choice.load world = .ok settings →
      runSource world input stdin = .ok source →
        Option.Rel
            (fun report completion => Completion.TellsOutcome completion code
              (shownJournal verbose fun _ => settings.journal fuel none code source)
              report.outcome)
            (settings.run? fuel none code source .absent) (execute fuel world arguments) ∧
          (settings.maxSteps ≠ none → execute fuel world arguments ≠ none) ∧
          ∀ checkArguments checkVerbose checked,
            readInvocation checkArguments = .ok ⟨checkVerbose, .check checked⟩ →
            checked.load world = .ok code →
            ∃ completion, execute fuel world checkArguments = some completion ∧
              completion.TellsRefusal code fun rejection =>
                ∃ report, settings.run? fuel none code source .absent = some report ∧
                  report.outcome.diagnostic = some (.rejected rejection)) ∧
      (∀ completion, execute fuel world arguments = some completion →
        completion.TellsLack (runNeeds world program choice input stdin)) ∧
      ∀ checkArguments checkVerbose checked completion,
        readInvocation checkArguments = .ok ⟨checkVerbose, .check checked⟩ →
        execute fuel world checkArguments = some completion →
        completion.TellsLack (checked.load world) := by
  have executed : execute fuel world arguments =
      runProgram fuel world verbose program choice input stdin := by
    rw [execute, read]
    rfl
  have checkExecuted {checkArguments : List String} {checkVerbose : Bool} {checked : ProgramChoice}
      (checkRead : readInvocation checkArguments = .ok ⟨checkVerbose, .check checked⟩) :
      execute fuel world checkArguments = some (checkProgram world checkVerbose checked) := by
    rw [execute, checkRead]
    rfl
  refine ⟨?_, ?_, ?_⟩
  · intro code settings source loaded chosen offered
    have needs := runNeeds_eq_ok loaded chosen offered
    rw [executed, runProgram_of_runNeeds_eq_ok needs]
    refine ⟨?_, ?_, ?_⟩
    · cases returned : settings.run? fuel none code source .absent with
      | none => exact .none
      | some report => exact .some (tellsOutcome_of_run? returned _)
    · intro limited
      obtain ⟨limit, given⟩ := Option.ne_none_iff_exists'.mp limited
      have budgeted : settings.budget none ≠ none := by simp [Settings.budget, given]
      obtain ⟨report, returned⟩ := @Settings.exists_run? settings code source .absent none budgeted
      rw [returned fuel]
      exact Option.some_ne_none _
    · intro checkArguments checkVerbose checked checkRead checkLoaded
      refine ⟨_, checkExecuted checkRead, ?_⟩
      simp only [Settings.exists_rejected_run?_iff]
      exact tellsRefusal_checkProgram checkLoaded checkVerbose
  · intro completion complete
    rw [executed] at complete
    exact tellsLack_runProgram complete
  · intro checkArguments checkVerbose checked completion checkRead complete
    rw [checkExecuted checkRead] at complete
    cases complete
    exact tellsLack_checkProgram checkVerbose

/-- A program that writes a byte and then leaves the tape, run and checked. -/
theorem run_reports_output_before_failure :
    let world : World := ⟨fun _ => .error .missing, fun _ => none, [], Yaml.read⟩
    (∃ completion, execute 3 world ["run", "-e", "+.<"] = some completion ∧
        completion.stdout = [1] ∧ completion.ending = .exit 1) ∧
      ∃ completion, execute 3 world ["check", "-e", "+.<"] = some completion ∧
        completion.ending = .exit 0 := by
  intro world
  let reading : Reading := { given := [(.code, .text "+.<")] }
  have read : readInvocation ["run", "-e", "+.<"] =
      .ok ⟨false, .run reading.programChoice reading.settingsChoice .null false⟩ := by
    have words : topGrammar.words ["run", "-e", "+.<"] =
        .ok [⟨"run", .plain⟩, ⟨"-e", .unknown⟩, ⟨"+.<", .plain⟩] := by decide
    have runWords : runGrammar.words ["-e", "+.<"] =
        .ok [⟨"-e", .switch codeSwitch "-e" none⟩, ⟨"+.<", .plain⟩] := by decide
    have command : topGrammar.read ["run", "-e", "+.<"] =
        .ok { operand := some ["run", "-e", "+.<"] } := by
      rw [Grammar.read, words]
      cbv
    have switches : runGrammar.read ["-e", "+.<"] = .ok reading := by
      rw [Grammar.read, runWords]
      cbv
    simp only [readInvocation, command, bind, Except.bind, Option.getD_some, List.headD_cons,
      List.tail_cons, readRequest, switches]
    rfl
  have checkRead : readInvocation ["check", "-e", "+.<"] =
      .ok ⟨false, .check reading.programChoice⟩ := by
    have words : topGrammar.words ["check", "-e", "+.<"] =
        .ok [⟨"check", .plain⟩, ⟨"-e", .unknown⟩, ⟨"+.<", .plain⟩] := by decide
    have checkWords : checkGrammar.words ["-e", "+.<"] =
        .ok [⟨"-e", .switch codeSwitch "-e" none⟩, ⟨"+.<", .plain⟩] := by decide
    have command : topGrammar.read ["check", "-e", "+.<"] =
        .ok { operand := some ["check", "-e", "+.<"] } := by
      rw [Grammar.read, words]
      cbv
    have switches : checkGrammar.read ["-e", "+.<"] = .ok reading := by
      rw [Grammar.read, checkWords]
      cbv
    simp only [readInvocation, command, bind, Except.bind, Option.getD_some, List.headD_cons,
      List.tail_cons, readRequest, switches]
    rfl
  have chosen : reading.settingsChoice.load world = .ok {} :=
    SettingsChoice.load_of_unset rfl (fun field => by cases field <;> rfl) fun _ => rfl
  have ended : (Settings.run? {} 3 none "+.<" (.whole []) .absent).map Report.outcome =
      some ⟨#[1], some (.failed ⟨⟨2, 1, 3⟩, 2, 2, .underflow⟩), 2, 2, false⟩ := by
    decide +kernel
  obtain ⟨report, returned, outcome⟩ := Option.map_eq_some_iff.mp ended
  obtain ⟨tells, -, -⟩ := run_reports_what_happened read world 3
  obtain ⟨told, -, check⟩ := tells "+.<" {} (.whole []) rfl chosen rfl
  rw [returned] at told
  constructor
  · generalize execute 3 world ["run", "-e", "+.<"] = completed at told
    cases told with
    | some told =>
        rw [outcome] at told
        exact ⟨_, rfl, told.stdout, told.diagnosed.mpr ⟨_, rfl⟩⟩
  · obtain ⟨completion, complete, refusal⟩ := check _ _ _ checkRead rfl
    refine ⟨completion, complete, refusal.accepted.mpr ?_⟩
    rintro ⟨rejection, same, again, rejected⟩
    obtain rfl := Option.some.inj (returned.symm.trans again)
    rw [outcome] at rejected
    cases rejected

end CommandLine
end TapeMachine

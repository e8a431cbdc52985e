import TapeMachine.Proofs.CommandLine.Reporting
import TapeMachine.Proofs.Settings.Overriding
import TapeMachine.Proofs.Trace.Telling

/-!
# Limits of runs and traces

A limit on the command line overrides the one of the settings, and a run keeps it.  A trace does not
look at the limit of the settings.  The command that steps through a program gives it the limit of
the command line as its budget, except that zero is taken for a limit that is not given.

So the two commands take up the same commands and come to the same, unless the limit is zero and
there is a command in the program at all.  A run within a smaller budget differs from one within a
larger budget exactly if the smaller budget has stopped it.
-/

namespace TapeMachine

/-! ## Larger budgets -/

namespace Machine

variable {machine : Machine} {budget larger : Nat}

/-- A larger budget comes to the same exactly if the smaller one has not stopped the run. -/
theorem outcome_run_eq_iff (coherent : machine.Coherent) (ordered : budget < larger) :
    (machine.run larger).outcome = (machine.run budget).outcome ↔
      ¬ (machine.run budget).running := by
  constructor
  · intro same runs
    have stillRuns : (machine.run larger).running := by
      rw [← runs]
      exact congrArg Outcome.hitLimit same
    have sameCycles : (machine.run larger).cycles = (machine.run budget).cycles :=
      congrArg Outcome.cycles same
    rw [cycles_run_of_running coherent stillRuns, cycles_run_of_running coherent runs]
      at sameCycles
    omega
  · intro stopped
    obtain ⟨more, rfl⟩ := Nat.exists_eq_add_of_le (Nat.le_of_lt ordered)
    rw [run_add, run_of_not_running stopped]

theorem length_turns_le_iff (ordered : budget < larger) :
    (machine.turns larger).length ≤ budget ↔ ¬ (machine.run budget).running := by
  rw [running_run_iff_lt_length_dispatched ordered, length_turns]
  omega

/-- A machine that has stopped takes no more turns. -/
theorem turns_of_stopped
    (stopped : ¬ (machine.run budget).running)
    (ordered : budget ≤ larger) :
    machine.turns larger = machine.turns budget := by
  obtain ⟨more, rfl⟩ := Nat.exists_eq_add_of_le ordered
  rw [turns_add, turns_of_not_running stopped, List.append_nil]

end Machine

/-! ## What a trace announces -/

/-- The command that an entry announces, with its position. -/
def Entry.announced? : Entry → Option (Char × Nat)
  | .heading _ symbol position => some (symbol, position)
  | _ => none

/-- The commands that a trace announces, in order. -/
def Trace.announced (trace : Trace) : List (Char × Nat) :=
  trace.entries.filterMap Entry.announced?

/-- How a turn is announced. -/
def Turn.announcement (turn : Turn) : Char × Nat :=
  (turn.command.symbol, turn.before.position)

theorem Turn.filterMap_announced?_passage
    (turn : Turn)
    (window : Int)
    (number : Nat) :
    (turn.passage window number).filterMap Entry.announced? = [turn.announcement] := by
  unfold passage
  cases turn.after.failure? with
  | some failure => rfl
  | none => rfl

/-- A trace announces the turns of the run, and nothing else. -/
theorem Machine.announced_trace
    {machine : Machine}
    (coherent : machine.Coherent)
    (window budget : Int) :
    (machine.trace window budget).announced =
      (machine.turns budget.toNat).map Turn.announcement := by
  have told (numbered : Nat → Nat) (turns : List Turn) :
      ((turns.mapIdx fun index turn => turn.passage window (numbered index)).flatten).filterMap
        Entry.announced? = turns.map Turn.announcement := by
    induction turns generalizing numbered with
    | nil => rfl
    | cons turn turns inductionHypothesis =>
        rw [List.mapIdx_cons, List.flatten_cons, List.filterMap_append,
          turn.filterMap_announced?_passage, inductionHypothesis fun index => numbered (index + 1)]
        rfl
  have limit : (if (machine.trace window budget).outcome.hitLimit then [Entry.stopped budget]
      else []).filterMap Entry.announced? = [] := by
    split_ifs <;> rfl
  rw [Trace.announced, entries_trace coherent, List.filterMap_append, List.filterMap_append, limit,
    List.filterMap_cons_none rfl, List.filterMap_cons_none rfl, List.filterMap_nil,
    List.append_nil, List.append_nil]
  exact told (· + 1) _

namespace Settings

/-- The commands that the run of a text takes up within a budget, with their positions. -/
def takenUp (settings : Settings) (budget : Nat) (code : String) (data : List UInt8) :
    List (Char × Nat) :=
  match Program.parse code with
  | .error _ => []
  | .ok program =>
    ((settings.launch program (.whole data) .absent).turns budget).map Turn.announcement

variable {settings : Settings} {fuel budget larger : Nat} {code : String} {data : List UInt8}
  {report : Report}

theorem announced_traceBody (window steps : Int) :
    (settings.traceBody window steps code data).announced =
      settings.takenUp steps.toNat code data := by
  unfold traceBody takenUp
  cases Program.parse code with
  | error rejection => rfl
  | ok program =>
      have coherent := settings.launch_coherent program (.whole data) .absent
      exact Machine.announced_trace coherent window steps

theorem length_takenUp_le : (settings.takenUp budget code data).length ≤ budget := by
  unfold takenUp
  cases Program.parse code with
  | error rejection => exact Nat.zero_le budget
  | ok program =>
      rw [List.length_map, Machine.length_turns]
      exact Machine.length_dispatched_le _ _

/-- A run without a budget of its own keeps the limit of its settings. -/
theorem run?_of_maxSteps
    {limit : Nat}
    (limited : settings.maxSteps = some limit)
    (fuel : Nat)
    (code : String)
    (source : Source)
    (sink : Sink) :
    settings.run? fuel none code source sink =
      settings.run? fuel (some limit) code source sink := by
  have sameBudget : settings.budget none = settings.budget (some limit) := by
    simp only [Settings.budget, limited]
    rfl
  simp only [run?, runProgram?, sameBudget]

/-- The trace of a text comes to the same as its run within the same budget. -/
theorem outcome_traceBody
    (returned : settings.run? fuel (some budget) code (.whole data) .absent = some report)
    (window : Int) :
    (settings.traceBody window budget code data).outcome = report.outcome := by
  have same := settings.outcome_run?_eq_outcome_trace window budget code data fuel
  rw [returned] at same
  exact (Option.some.inj same).symm

/--
A trace within a larger budget agrees with a run exactly if the budget has not stopped the run.
-/
theorem traceBody_agrees_iff
    (returned : settings.run? fuel (some budget) code (.whole data) .absent = some report)
    (ordered : budget < larger)
    (window : Int) :
    let trace := settings.traceBody window larger code data
    (trace.outcome = report.outcome ↔ report.outcome.hitLimit = false) ∧
      (trace.announced = settings.takenUp budget code data ↔ report.outcome.hitLimit = false) ∧
      (trace.announced.length ≤ budget ↔ report.outcome.hitLimit = false) := by
  intro trace
  have announced : trace.announced = settings.takenUp larger code data :=
    announced_traceBody window larger
  cases parsed : Program.parse code with
  | error rejection =>
      have none (steps : Nat) : settings.takenUp steps code data = [] := by
        rw [takenUp, parsed]
      have rejected : trace.outcome = .ofRejection rejection := by
        simp only [trace, traceBody, parsed]
      rw [run?_of_rejected parsed] at returned
      cases returned
      rw [announced, none, none]
      exact ⟨iff_of_true rejected rfl, iff_of_true rfl rfl, iff_of_true (Nat.zero_le budget) rfl⟩
  | ok program =>
      let start := settings.launch program (.whole data) .absent
      have coherent : start.Coherent := settings.launch_coherent program (.whole data) .absent
      have outcome : trace.outcome = (start.run larger).outcome := by
        simp only [trace, traceBody, parsed]
        exact Machine.outcome_trace coherent window larger
      have taken (steps : Nat) : settings.takenUp steps code data =
          (start.turns steps).map Turn.announcement := by
        rw [takenUp, parsed]
      rw [run?_of_budget parsed] at returned
      cases returned
      have few := @Machine.length_turns_le_iff start budget larger ordered
      have stopped : (start.run budget).report.outcome.hitLimit = false ↔
          ¬ (start.run budget).running := by
        rw [Bool.not_eq_true]
        rfl
      rw [stopped, outcome, announced, taken, taken]
      refine ⟨Machine.outcome_run_eq_iff coherent ordered, ?_, ?_⟩
      · constructor
        · intro same
          have sameLength := congrArg List.length same
          rw [List.length_map, List.length_map] at sameLength
          rw [← few, sameLength, Machine.length_turns]
          exact Machine.length_dispatched_le _ _
        · intro ended
          rw [Machine.turns_of_stopped ended (Nat.le_of_lt ordered)]
      · rw [List.length_map]
        exact few

end Settings

namespace CommandLine

/-! ## The limit of the command line -/

theorem eq_ok_of_mapError_eq_ok
    {result : Except ε α}
    {restate : ε → δ}
    {value : α}
    (restated : result.mapError restate = .ok value) :
    result = .ok value := by
  cases result with
  | ok found => exact congrArg Except.ok (Except.ok.inj restated)
  | error fault => cases restated

/-- A limit on the command line is the one of the settings. -/
theorem SettingsChoice.maxSteps_of_load
    {choice : SettingsChoice}
    {world : World}
    {settings : Settings}
    {limit : Nat}
    (chosen : choice.load world = .ok settings)
    (limited : choice.overrides .maxSteps = .int limit) :
    settings.maxSteps = some limit := by
  obtain ⟨base, -, replaced⟩ := Draft.bind_eq_ok_iff.mp chosen
  rw [entries, Settings.replace_fields] at replaced
  have settled := eq_ok_of_mapError_eq_ok replaced
  have yields := Draft.settle_eq_ok_iff.mp settled .maxSteps
  simp only [limited, Value.isNull] at yields
  -- the override is an integer, which is kept as it is
  have same : settings.maxSteps.map (fun number : Nat => (number : Int)) = some (limit : Int) :=
    (Except.ok.inj yields).symm
  obtain ⟨number, found, sameNumber⟩ := Option.map_eq_some_iff.mp same
  rw [found, Int.ofNat.inj sameNumber]

/-- Without a file and variables a limit alone is all that differs from the standard settings. -/
theorem SettingsChoice.load_of_limit
    {choice : SettingsChoice}
    {world : World}
    {limit : Nat}
    (noFile : choice.config = .null)
    (limitAlone : ∀ field, choice.overrides field = if field = .maxSteps then .int limit else .null)
    (noVariables : ∀ name, world.environment name = none) :
    choice.load world = .ok { maxSteps := some limit } := by
  have settled : (Draft.settle fun field => if (choice.overrides field).isNull
      then Settings.get {} field else choice.overrides field) = .ok { maxSteps := some limit } := by
    rw [Draft.settle_eq_ok_iff]
    intro field
    have isHeld : (if (choice.overrides field).isNull then Settings.get {} field
        else choice.overrides field) = Settings.get { maxSteps := some limit } field := by
      rw [limitAlone]
      cases field <;> rfl
    rw [isHeld]
    exact Settings.yields_get _ field
  rw [load_of_overrides noFile noVariables, settled]
  rfl

/-- A completion tells a trace of a program that is shown in some way. -/
structure Completion.TellsTrace
    (completion : Completion)
    (shown : String)
    (trace : Trace) : Prop where
  /-- The standard output has the entries of the trace behind the program. -/
  stdout : completion.stdout = textBytes (entriesText (.opening shown :: trace.entries))
  /-- The status is one exactly if there is a diagnostic. -/
  diagnosed : completion.ending = .exit 1 ↔
    ∃ diagnostic, trace.outcome.diagnostic = some diagnostic
  /-- The status is zero otherwise. -/
  finished : completion.ending = .exit 0 ↔ trace.outcome.diagnostic = none

section Limits

variable {world : World} {program : ProgramChoice} {choice : SettingsChoice} {input window : Value}
  {code : String} {settings : Settings} {data : List UInt8} {width : Int}

/-- What stepping through a program writes and how it ends is determined by a trace. -/
theorem tellsTrace_debugProgram
    (loaded : program.load world = .ok code)
    (chosen : choice.load world = .ok settings)
    (offered : Text.latinBytes (argumentText input) = .ok data)
    (isWidth : traceWindow window = some width)
    (verbose : Bool) :
    (debugProgram world verbose program choice input window).TellsTrace (program.shown code)
      (settings.traceBody width (traceBudget (choice.overrides .maxSteps)) code data) := by
  simp only [debugProgram, loaded, chosen, offered, debugBytes, isWidth, bind, Except.bind]
  generalize settings.traceBody width (traceBudget (choice.overrides .maxSteps)) code data = trace
  cases found : trace.outcome.diagnostic with
  | none => constructor <;> simp [found, statusOk]
  | some diagnostic => constructor <;> simp [found, statusDiagnostic]

end Limits

theorem traceBudget_int (limit : Nat) :
    traceBudget (.int limit) = ((if limit = 0 then 100 else limit : Nat) : Int) := by
  by_cases zero : limit = 0
  · simp [traceBudget, zero, standardTraceBudget]
  · simp [traceBudget, zero]

/--
A limit on the command line is kept alike by the commands that run a program and step through it,
unless it is zero.  With the program, the settings and the input at hand both commands complete.
The run keeps the limit.  The trace has the limit as its budget, or a hundred steps if the limit is
zero.  It comes to the same as the run, announces the commands that the run takes up, and announces
no more than the limit allows, each of them exactly if the limit is not zero or has not stopped the
run.
-/
theorem debug_keeps_limit_like_run_unless_zero
    (fuel : Nat)
    (world : World)
    (verbose debugVerbose : Bool)
    (program : ProgramChoice)
    (choice : SettingsChoice)
    (input window : Value)
    (code : String)
    (settings : Settings)
    (data : List UInt8)
    (width : Int)
    (limit : Nat)
    (loaded : program.load world = .ok code)
    (chosen : choice.load world = .ok settings)
    (limited : choice.overrides .maxSteps = .int limit)
    (offered : Text.latinBytes (argumentText input) = .ok data)
    (isWidth : traceWindow window = some width) :
    ∃ (report : Report) (completion : Completion) (trace : Trace),
      settings.maxSteps = some limit ∧
        settings.run? fuel none code (.whole data) .absent = some report ∧
        runProgram fuel world verbose program choice input false = some completion ∧
        completion.TellsOutcome code
          (shownJournal verbose fun _ => settings.journal fuel none code (.whole data))
          report.outcome ∧
        trace =
          settings.traceBody width ((if limit = 0 then 100 else limit : Nat) : Int) code data ∧
        (debugProgram world debugVerbose program choice input window).TellsTrace
          (program.shown code) trace ∧
        (trace.outcome = report.outcome ↔ limit ≠ 0 ∨ report.outcome.hitLimit = false) ∧
        (trace.announced = settings.takenUp limit code data ↔
          limit ≠ 0 ∨ report.outcome.hitLimit = false) ∧
        (trace.announced.length ≤ limit ↔ limit ≠ 0 ∨ report.outcome.hitLimit = false) := by
  have keeps := choice.maxSteps_of_load chosen limited
  have sameRun := Settings.run?_of_maxSteps keeps fuel code (.whole data) .absent
  obtain ⟨report, returned⟩ : ∃ report,
      settings.run? fuel (some limit) code (.whole data) .absent = some report := by
    obtain ⟨report, returned⟩ := @Settings.exists_run? settings code (.whole data) .absent
      (some limit) (Option.some_ne_none _)
    exact ⟨report, returned fuel⟩
  rw [returned] at sameRun
  have source : runSource world input false = .ok (.whole data) := by
    simp only [runSource, offered]
    rfl
  have needs := runNeeds_eq_ok loaded chosen source
  have tells := tellsTrace_debugProgram loaded chosen offered isWidth debugVerbose
  rw [limited, traceBudget_int] at tells
  refine ⟨report, _, _, keeps, sameRun, ?_, tellsOutcome_of_run? sameRun _, rfl, tells, ?_⟩
  · rw [runProgram_of_runNeeds_eq_ok needs, sameRun]
    rfl
  · by_cases zero : limit = 0
    · subst zero
      have agrees := Settings.traceBody_agrees_iff returned (by decide : 0 < 100) width
      simpa using agrees
    · have kept : limit ≠ 0 ∨ report.outcome.hitLimit = false := Or.inl zero
      rw [if_neg zero, Settings.announced_traceBody, Int.toNat_natCast]
      exact ⟨iff_of_true (Settings.outcome_traceBody returned width) kept, iff_of_true rfl kept,
        iff_of_true Settings.length_takenUp_le kept⟩

/-- Within a limit of one, the first of two commands is run, and it is announced alone. -/
theorem debug_keeps_limit_of_one :
    let world : World := ⟨fun _ => .error .missing, fun _ => none, [], Yaml.read⟩
    let program : ProgramChoice := ⟨.text "++", none⟩
    let choice : SettingsChoice := ⟨.null, fun field => if field = .maxSteps then .int 1 else .null⟩
    let trace := ({ maxSteps := some 1 } : Settings).traceBody 10 1 "++" []
    (∃ completion, runProgram 0 world false program choice .null false = some completion ∧
        completion.ending = .exit 3) ∧
      (debugProgram world false program choice .null .null).TellsTrace "++" trace ∧
      trace.outcome = ⟨#[], none, 1, 1, true⟩ ∧ trace.announced = [('+', 0)] ∧
      trace.announced.length ≤ 1 := by
  intro world program choice trace
  have taken : ({ maxSteps := some 1 } : Settings).takenUp 1 "++" [] = [('+', 0)] := by
    decide +kernel
  have outcome : trace.outcome = ⟨#[], none, 1, 1, true⟩ := by decide +kernel
  have chosen : choice.load world = .ok { maxSteps := some 1 } :=
    SettingsChoice.load_of_limit rfl (fun _ => rfl) fun _ => rfl
  obtain ⟨report, completion, told, -, -, complete, tells, isTold, tellsTrace, agrees, same, few⟩ :=
    debug_keeps_limit_like_run_unless_zero 0 world false false program choice .null .null "++"
      { maxSteps := some 1 } [] 10 1 rfl chosen rfl rfl rfl
  obtain rfl : told = trace := isTold
  have kept : 1 ≠ 0 ∨ report.outcome.hitLimit = false := Or.inl Nat.one_ne_zero
  have sameOutcome : trace.outcome = report.outcome := agrees.mpr kept
  refine ⟨⟨completion, complete, tells.stopped.mpr ?_⟩, tellsTrace, outcome, ?_, few.mpr kept⟩
  · rw [← sameOutcome, outcome]
  · rw [← taken]
    exact same.mpr kept

/-- Within a limit of zero nothing is run, and yet a command is announced and carried out. -/
theorem debug_exceeds_limit_of_zero :
    let world : World := ⟨fun _ => .error .missing, fun _ => none, [], Yaml.read⟩
    let program : ProgramChoice := ⟨.text "+", none⟩
    let choice : SettingsChoice := ⟨.null, fun field => if field = .maxSteps then .int 0 else .null⟩
    let settings : Settings := { maxSteps := some 0 }
    let trace := settings.traceBody 10 100 "+" []
    choice.load world = .ok settings ∧
      (settings.run? 0 none "+" (.whole []) .absent).map Report.outcome =
        some ⟨#[], none, 0, 0, true⟩ ∧
      runProgram 0 world false program choice .null false =
        some ⟨[], "stopped after 0 steps (ip=0)\n", .exit 3⟩ ∧
      (debugProgram world false program choice .null .null).TellsTrace "+" trace ∧
      trace.announced = [('+', 0)] ∧ trace.outcome = ⟨#[], none, 1, 1, false⟩ := by
  intro world program choice settings trace
  have chosen : choice.load world = .ok settings :=
    SettingsChoice.load_of_limit rfl (fun _ => rfl) fun _ => rfl
  have tells : (debugProgram world false program choice .null .null).TellsTrace "+" trace :=
    @tellsTrace_debugProgram world program choice .null .null "+" settings [] 10 rfl chosen rfl rfl
      false
  exact ⟨chosen, by decide +kernel, by decide +kernel, tells, by decide +kernel, by decide +kernel⟩

end CommandLine
end TapeMachine

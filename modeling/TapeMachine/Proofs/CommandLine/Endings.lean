import TapeMachine.CommandLine.Basic
import TapeMachine.Proofs.Settings.Faults
import TapeMachine.Yaml.Reader

/-!
# Endings of a run

A command that runs a program ends with a status, unless something that it needs breaks it off.
The program and the input never do.  The settings do exactly if they hold a value that does not fit
its field and is met when all values before it have been converted.
-/

namespace TapeMachine
namespace CommandLine

/-! ## What a run needs -/

theorem World.not_breaksOff_bytes (world : World) (path : String) :
    ¬ BreaksOff Problem.severity (world.bytes path) := by
  unfold World.bytes
  split
  · simp [Problem.severity]
  · rw [BreaksOff.mapError_iff]
    simp [BreaksOff, Problem.severity]

theorem World.not_breaksOff_text (world : World) (path : String) :
    ¬ BreaksOff Problem.severity (world.text path) := by
  simp only [World.text, BreaksOff.bind_iff, BreaksOff.mapError_iff, BreaksOff.not_ok,
    world.not_breaksOff_bytes]
  simp [BreaksOff, Problem.severity]

/-- A program that cannot be loaded is reported. -/
theorem ProgramChoice.not_breaksOff_load (program : ProgramChoice) (world : World) :
    ¬ BreaksOff Problem.severity (program.load world) := by
  unfold ProgramChoice.load
  split
  · simp
  · simp [Problem.severity]
  · rw [BreaksOff.map_iff]
    exact world.not_breaksOff_text _
  · simp

/-- An input that no bytes stand for is reported. -/
theorem not_breaksOff_runSource (world : World) (input : Value) (stdin : Bool) :
    ¬ BreaksOff Problem.severity (runSource world input stdin) := by
  unfold runSource
  split
  · simp
  · rw [BreaksOff.mapError_iff]
    simp [BreaksOff, Problem.severity]

/-- What a run needs breaks off only by its settings, once there is a program. -/
theorem breaksOff_runNeeds_iff
    (world : World)
    (program : ProgramChoice)
    (choice : SettingsChoice)
    (input : Value)
    (stdin : Bool) :
    BreaksOff Problem.severity (runNeeds world program choice input stdin) ↔
      (∃ code, program.load world = .ok code) ∧
        BreaksOff Problem.severity (choice.load world) := by
  simp only [runNeeds, BreaksOff.bind_iff, program.not_breaksOff_load, not_breaksOff_runSource,
    BreaksOff.not_ok, and_false, exists_false, or_false, false_or, exists_and_right]

/-! ## Endings -/

/-- A command that has met a problem ends with a status exactly if the problem is reported. -/
theorem Completion.ending_ofProblem
    (problem : Problem)
    (written journal : String) :
    (Completion.ofProblem problem written journal).ending =
      if problem.severity = .reported then .exit statusUsage else .aborted problem.severity := by
  unfold Completion.ofProblem
  split
  · rename_i reported
    rw [reported]
    rfl
  · rename_i severity unreported
    rw [if_neg unreported]

/-- The statuses with which a command may end. -/
def statuses : List Nat := [statusOk, statusDiagnostic, statusUsage, statusStepLimit]

theorem runVerdict_mem_statuses
    (settings : Settings)
    (code : String)
    (outcome : Outcome) :
    (runVerdict settings code outcome).2 ∈ statuses := by
  unfold runVerdict
  split
  · simp [statuses]
  · split <;> simp [statuses]

theorem runProgram_of_runNeeds_eq_error
    {world : World}
    {program : ProgramChoice}
    {choice : SettingsChoice}
    {input : Value}
    {stdin : Bool}
    {problem : Problem}
    (needs : runNeeds world program choice input stdin = .error problem)
    (fuel : Nat)
    (verbose : Bool) :
    runProgram fuel world verbose program choice input stdin =
      some (.ofProblem problem "" "") := by
  simp only [runProgram, needs]

/-- A run is broken off exactly by what it needs, and ends with a status otherwise. -/
theorem ending_runProgram
    {fuel : Nat}
    {world : World}
    {verbose : Bool}
    {program : ProgramChoice}
    {choice : SettingsChoice}
    {input : Value}
    {stdin : Bool}
    {completion : Completion}
    (complete : runProgram fuel world verbose program choice input stdin = some completion) :
    (BreaksOff Problem.severity (runNeeds world program choice input stdin) ∧
        ∃ severity, completion.ending = .aborted severity) ∨
      (¬ BreaksOff Problem.severity (runNeeds world program choice input stdin) ∧
        ∃ status ∈ statuses, completion.ending = .exit status) := by
  cases needs : runNeeds world program choice input stdin with
  | error problem =>
      rw [runProgram_of_runNeeds_eq_error needs] at complete
      obtain rfl := Option.some.inj complete
      rw [BreaksOff.error_iff, Completion.ending_ofProblem]
      by_cases reported : problem.severity = .reported
      · exact .inr ⟨not_not_intro reported, statusUsage, by decide, if_pos reported⟩
      · exact .inl ⟨reported, problem.severity, if_neg reported⟩
  | ok needed =>
      simp only [runProgram, needs, Option.map_eq_some_iff] at complete
      obtain ⟨report, -, rfl⟩ := complete
      exact .inr ⟨BreaksOff.not_ok _, _, runVerdict_mem_statuses _ _ _, rfl⟩

/-! ## Settings of a file -/

/-- Settings are chosen that a file holds as a map of fields; what overrides them fits. -/
structure SettingsChoice.IsFile
    (choice : SettingsChoice)
    (world : World)
    (fields : Entries) : Prop where
  /-- The file holds a document whose fields are given by themselves or in their section. -/
  file : ∃ path document content,
    choice.config = .text path ∧ path.isEmpty = false ∧
      world.streamedText path = .ok document ∧ world.readDocument document = .ok (.map content) ∧
        (Entries.find? content Settings.sectionName).getD (.map content) = .map fields
  /-- What is given on the command line fits. -/
  overrides : ∀ field : Field,
    (choice.overrides field).isNull = true ∨ field.fits (choice.overrides field) = true

/-- A map of fields, by themselves or in their section, describes the settings of the fields. -/
theorem ofDocumentValue_map
    {path : String}
    {content fields : Entries}
    (held : (content.find? Settings.sectionName).getD (.map content) = .map fields) :
    Settings.ofDocumentValue path (.map content) =
      (Settings.ofEntries fields).mapError .settings := by
  cases content with
  | nil =>
      obtain rfl : [] = fields := Value.map.inj held
      rfl
  | cons first rest =>
      simp only [Settings.ofDocumentValue, Value.isVoid, List.isEmpty_cons, Bool.false_eq_true,
        if_false, held]
      rfl

theorem SettingsChoice.IsFile.base_eq
    {choice : SettingsChoice}
    {world : World}
    {fields : Entries}
    (isFile : choice.IsFile world fields) :
    choice.base world =
      (Settings.ofEntries fields).mapError fun fault => .document (.settings fault) := by
  obtain ⟨path, document, content, chosen, nonempty, text, read, held⟩ := isFile.file
  simp only [SettingsChoice.base, chosen, nonempty, Bool.false_eq_true, if_false, text,
    Settings.ofDocument, read, ofDocumentValue_map held, bind, Except.bind]
  cases Settings.ofEntries fields with
  | ok settings => rfl
  | error fault => rfl

/-- Settings of a file break off exactly if its fields do. -/
theorem SettingsChoice.IsFile.breaksOff_load_iff
    {choice : SettingsChoice}
    {world : World}
    {fields : Entries}
    (isFile : choice.IsFile world fields) :
    BreaksOff Problem.severity (choice.load world) ↔
      BreaksOff Severity.ofSettings (Settings.ofEntries fields) := by
  have overridden (settings : Settings) : ¬ BreaksOff Problem.severity
      ((settings.replace choice.entries).mapError .settings) := by
    rw [BreaksOff.mapError_iff]
    exact settings.not_breaksOff_replace_fields isFile.overrides
  rw [SettingsChoice.load, BreaksOff.bind_iff, isFile.base_eq, BreaksOff.mapError_iff]
  simp only [overridden, and_false, exists_false, or_false]
  rfl

end CommandLine

namespace Settings

open CommandLine

/--
Fields that are given by texts are accepted in their ranges or reported, unless a value among them
does not fit its field and is met: exactly then they break off.  A command that runs a program under
the fields of a file ends with a status unless there is a program and the fields are such.
-/
theorem bad_settings_break_off_exactly_on_misfits
    {fields : Entries}
    (texts : ∀ entry ∈ fields, entry.1.isText = true) :
    (BreaksOff Severity.ofSettings (ofEntries fields) ↔ Draft.Misfits (get {}) fields) ∧
      (Draft.Misfits (get {}) fields ∨
        (∃ settings, ofEntries fields = .ok settings ∧ 1 ≤ settings.tapeSize.val ∧
          ∀ modulus ∈ settings.modulus, 1 ≤ modulus.val) ∨
        ∃ fault, ofEntries fields = .error fault ∧ Severity.ofSettings fault = .reported) ∧
      ∀ fuel world arguments verbose program choice input stdin completion,
        readInvocation arguments = .ok ⟨verbose, .run program choice input stdin⟩ →
        choice.IsFile world fields →
        execute fuel world arguments = some completion →
        ((∃ severity, completion.ending = .aborted severity) ∧
            (∃ code, program.load world = .ok code) ∧ Draft.Misfits (get {}) fields) ∨
          ((∃ status ∈ statuses, completion.ending = .exit status) ∧
            ¬ ((∃ code, program.load world = .ok code) ∧ Draft.Misfits (get {}) fields)) := by
  have breaks : BreaksOff Severity.ofSettings (ofEntries fields) ↔ Draft.Misfits (get {}) fields :=
    Draft.breaksOff_settleWith_iff (get {}) texts
  refine ⟨breaks, ?_, ?_⟩
  · cases given : ofEntries fields with
    | ok settings =>
        exact .inr (.inl ⟨settings, rfl, settings.tapeSize.property,
          fun modulus _ => modulus.property⟩)
    | error fault =>
        by_cases reported : Severity.ofSettings fault = .reported
        · exact .inr (.inr ⟨fault, rfl, reported⟩)
        · exact .inl (breaks.mp ⟨fault, given, reported⟩)
  · intro fuel world arguments verbose program choice input stdin completion read isFile complete
    simp only [execute, read, perform] at complete
    have ending := ending_runProgram complete
    rw [breaksOff_runNeeds_iff, isFile.breaksOff_load_iff, breaks] at ending
    rcases ending with ⟨misfits, aborted⟩ | ⟨fits, exited⟩
    · exact .inl ⟨aborted, misfits⟩
    · exact .inr ⟨exited, fits⟩

/-- A size that is null is not reported, nor are a modulus that is a list and an infinite limit. -/
theorem some_bad_settings_are_not_reported :
    BreaksOff Severity.ofSettings (ofEntries [(.text "tape_size", .null)]) ∧
      BreaksOff Severity.ofSettings (ofEntries [(.text "modulus", .list [])]) ∧
      BreaksOff Severity.ofSettings
        (ofEntries [(.text "max_steps", .float (.infinite false))]) :=
  ⟨⟨.number (.kind "NoneType"), rfl, by decide⟩, ⟨.number (.kind "list"), rfl, by decide⟩,
    ⟨.number .infinite, rfl, by decide⟩⟩

/-- A file with a size that is null breaks off a run of a program that is otherwise fine. -/
theorem null_size_breaks_off_run :
    let fields : Entries := [(.text "tape_size", .null)]
    let arguments : List String := ["run", "-e", "+", "--config", "s.yaml"]
    let world : World :=
      { file := fun _ => .ok [0x74, 0x61, 0x70, 0x65, 0x5F, 0x73, 0x69, 0x7A, 0x65, 0x3A]
        environment := fun _ => none
        stdin := []
        readDocument := Yaml.read }
    (∀ entry ∈ fields, entry.1.isText = true) ∧ Draft.Misfits (get {}) fields ∧
      ∃ completion severity,
        execute 0 world arguments = some completion ∧ completion.ending = .aborted severity := by
  have broken : ofEntries [(.text "tape_size", .null)] =
      .error (.number (.kind "NoneType")) := rfl
  have tokens : Yaml.tokens? "tape_size:".toList =
      some [.mappingStart, .key, .scalar "tape_size" true, .value, .blockEnd] := by
    decide +kernel
  have document : Yaml.read "tape_size:".toList = .ok (.map [(.text "tape_size", .null)]) := by
    rw [Yaml.read, tokens]
    rfl
  have words : topGrammar.words ["run", "-e", "+", "--config", "s.yaml"] =
      .ok [⟨"run", .plain⟩, ⟨"-e", .unknown⟩, ⟨"+", .plain⟩, ⟨"--config", .unknown⟩,
        ⟨"s.yaml", .plain⟩] := by decide
  have runWords : runGrammar.words ["-e", "+", "--config", "s.yaml"] =
      .ok [⟨"-e", .switch codeSwitch "-e" none⟩, ⟨"+", .plain⟩,
        ⟨"--config", .switch ⟨["--config"], .config, .text⟩ "--config" none⟩,
        ⟨"s.yaml", .plain⟩] := by decide
  intro fields arguments world
  have texts : ∀ entry ∈ fields, entry.1.isText = true := by decide
  obtain ⟨breaks, -, runs⟩ := bad_settings_break_off_exactly_on_misfits texts
  have misfits : Draft.Misfits (get {}) fields := breaks.mp ⟨_, broken, by decide⟩
  let reading : Reading := { given := [(.config, .text "s.yaml"), (.code, .text "+")] }
  have command : topGrammar.read arguments = .ok { operand := some arguments } := by
    rw [Grammar.read, words]
    cbv
  have switches : runGrammar.read ["-e", "+", "--config", "s.yaml"] = .ok reading := by
    rw [Grammar.read, runWords]
    cbv
  have read : readInvocation arguments =
      .ok ⟨false, .run reading.programChoice reading.settingsChoice .null false⟩ := by
    simp only [readInvocation, command, bind, Except.bind, Option.getD_some]
    simp only [arguments, List.headD_cons, List.tail_cons, readRequest, switches, bind, Except.bind]
    rfl
  have isFile : reading.settingsChoice.IsFile world fields := by
    have reader : world.readDocument = Yaml.read := rfl
    refine ⟨⟨"s.yaml", "tape_size:".toList, fields, rfl, by decide, rfl, ?_, ?_⟩, ?_⟩
    · rw [reader]
      exact document
    · rfl
    · exact fun field => .inl (by cases field <;> rfl)
  have complete : execute 0 world arguments =
      some (.ofProblem (.document (.settings (.number (.kind "NoneType")))) "" "") := by
    have program : reading.programChoice.load world = .ok "+" := rfl
    simp only [execute, read, perform, runProgram, runNeeds, program, SettingsChoice.load,
      isFile.base_eq, fields, broken, bind, Except.bind, Except.mapError]
  rcases runs _ _ _ _ _ _ _ _ _ read isFile complete with ⟨⟨severity, aborted⟩, -⟩ | ⟨-, fits⟩
  · exact ⟨texts, misfits, _, severity, complete, aborted⟩
  · exact absurd ⟨⟨"+", rfl⟩, misfits⟩ fits

end Settings
end TapeMachine

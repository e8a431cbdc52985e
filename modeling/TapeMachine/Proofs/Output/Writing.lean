import TapeMachine.Proofs.Machine.Accounting
import TapeMachine.Proofs.Machine.Recording

/-!
# Writing

What a machine has written can be told from its history: one byte for each command to write that it
has executed, in order, namely the byte that was under the cursor then.  The sink has taken the same
bytes.  It cannot be told from the result of a run whether anything has listened.
-/

namespace TapeMachine
namespace Machine

/-- The turns in which a machine has written. -/
def writes (turns : List Turn) : List Turn :=
  turns.filter fun turn => turn.command = .output

theorem writes_concat (turns : List Turn) (turn : Turn) :
    writes (turns ++ [turn]) = writes turns ++ if turn.command = .output then [turn] else [] := by
  rw [writes, List.filter_append, ← writes]
  split_ifs with isWrite
  · rw [List.filter_cons_of_pos (by simpa using isWrite), List.filter_nil]
  · rw [List.filter_cons_of_neg (by simpa using isWrite), List.filter_nil]

/-- A run adds to the output the bytes under the cursor at the writes that it executes. -/
theorem output_run
    {machine : Machine}
    (coherent : machine.Coherent)
    (budget : Nat) :
    (machine.run budget).output.toList =
      machine.output.toList ++
        (writes (executed (machine.turns budget))).map fun turn => turn.before.cell := by
  induction budget with
  | zero =>
      obtain ⟨position, status, settled⟩ := machine.exists_run_zero_eq
      rw [settled]
      exact (List.append_nil _).symm
  | succ budget inductionHypothesis =>
      rcases executed_succ_cases coherent budget with
        ⟨sameTurns, position, status, failure?, settled⟩ |
        ⟨_, command, changed, rfl, effect, oneMore, advanced⟩
      · rw [sameTurns, settled]
        exact inductionHypothesis
      · have written := output_effect effect
        rw [oneMore, advanced, writes_concat, List.map_append, ← List.append_assoc,
          ← inductionHypothesis]
        refine written.trans (congrArg _ ?_)
        split_ifs
        · rfl
        · rfl

end Machine

namespace Settings

/-- Whatever the input is, a run with a sink is the run without one, and the sink has the output. -/
theorem runInput?_eq_runInput?_absent
    (settings : Settings)
    (fuel : Nat)
    (given : Option Int)
    (code : String)
    (input : Input)
    (sink : Sink) :
    settings.runInput? fuel given code input sink =
      (settings.runInput? fuel given code input .absent).map fun result =>
        result.map fun report => { report with sink := sink.having report.outcome.output } := by
  cases opened : input.source with
  | ok source =>
      rw [runInput?_of_source opened, runInput?_of_source opened, run?_eq_run?_absent,
        Option.map_map, Option.map_map]
      rfl
  | error fault =>
      unfold runInput?
      cases Program.parse code with
      | error rejection =>
          exact congrArg (some ∘ Except.ok ∘ Report.ofRejection rejection) sink.having_empty.symm
      | ok program =>
          rw [opened]
          rfl

/--
Sinks take exactly what is recorded.  A run on any input, with any budget, has the same result and
asks its source as often whether nothing listens, a buffer or a stream.  In every state that calls
can reach, the output has one byte for each executed command to write, in order, namely the byte
that was under the cursor; a buffer holds just these bytes behind what it held before, and a stream
has passed on just these bytes and has been flushed once for each newline among them.
-/
theorem sinks_take_recorded_output
    (settings : Settings)
    (sink : Sink) :
    (∀ (fuel : Nat) (given : Option Int) (code : String),
      (∀ source : Source,
        settings.run? fuel given code source sink =
          (settings.run? fuel given code source .absent).map fun report =>
            { report with sink := sink.having report.outcome.output }) ∧
      ∀ input : Input,
        settings.runInput? fuel given code input sink =
          (settings.runInput? fuel given code input .absent).map fun result =>
            result.map fun report => { report with sink := sink.having report.outcome.output }) ∧
    ∀ (program : Program) (source : Source) (fuel : Nat) (calls : List Call) (machine : Machine),
      (settings.launch program source sink).answerAll? fuel calls = some machine →
      let executed :=
        Machine.executed ((settings.launch program source sink).turnsAlong fuel calls)
      machine.output.toList = (Machine.writes executed).map (fun turn => turn.before.cell) ∧
        machine.sink = sink.having machine.output := by
  refine ⟨fun fuel given code => ⟨fun source => ?_, fun input => ?_⟩, ?_⟩
  · exact settings.run?_eq_run?_absent fuel given code source sink
  · exact settings.runInput?_eq_runInput?_absent fuel given code input sink
  · intro program source fuel calls machine reached executed
    obtain ⟨steps, position, status, sameTurns, ran⟩ := exists_run_of_answerAll? reached
    constructor
    · have written := Machine.output_run (settings.launch_coherent program source sink) steps
      rw [← sameTurns, ran] at written
      exact written
    · let silent := settings.launch program source .absent
      have heard : (settings.launch program source sink).run steps =
          (silent.run steps).heardBy sink := silent.run_heardBy sink steps
      have taken : ((silent.run steps).heardBy sink).sink =
          sink.having ((silent.run steps).heardBy sink).output :=
        (silent.run steps).sink_heardBy sink
      rw [← heard, ran] at taken
      exact taken

/--
A letter and a newline are echoed to a stream before a move off the left edge fails: the stream has
passed on both and has been flushed once.
-/
theorem stream_takes_letter_and_newline :
    let program : Program := ⟨#[',', '.', ',', '.', '<', '.'], .empty, rfl⟩
    let start := ({} : Settings).launch program (.whole [65, 10]) (.stream #[] 0)
    let calls := [.run (some 9)]
    start.answerAll? 0 calls = some (start.run 9) ∧
      (start.run 9).failure?.isSome ∧
      ((Machine.writes (Machine.executed (start.turnsAlong 0 calls))).map
        fun turn => turn.before.cell) = [65, 10] ∧
      (start.run 9).output = #[65, 10] ∧
      (start.run 9).sink = .stream #[65, 10] 1 := by
  intro program start calls
  obtain ⟨-, reached⟩ := sinks_take_recorded_output {} (.stream #[] 0)
  obtain ⟨written, taken⟩ := reached program (.whole [65, 10]) 0 calls (start.run 9) rfl
  have cells : ((Machine.writes (Machine.executed (start.turnsAlong 0 calls))).map
      fun turn => turn.before.cell) = [65, 10] := by decide +kernel
  have output : (start.run 9).output = #[65, 10] :=
    Array.toList_inj.mp (written.trans cells)
  refine ⟨rfl, by decide +kernel, cells, output, ?_⟩
  rw [taken, output]
  decide

end Settings
end TapeMachine

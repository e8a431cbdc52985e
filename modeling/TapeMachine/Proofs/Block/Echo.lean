import Mathlib.Data.List.TakeWhile
import TapeMachine.Proofs.Block.Refinement
import TapeMachine.Proofs.Input.Chunks
import TapeMachine.Proofs.Machine.Outcomes

/-!
# The echo program

The program `,[.[-],]` writes what it reads, up to the first zero.  That it does so is shown on the
block that it spells.  Its inner loop clears the current cell.  Its outer loop has an invariant: the
current cell holds the next byte to be written, or zero if there is none, and what follows that byte
is the rest of the input.  Because the cell has been cleared before each read, it is zero at the end
of the input whatever the policy says.

A block that finishes gives the result of every run with a sufficient limit, so what has been shown
of the block is shown of the program, with the number of its cycles.
-/

namespace TapeMachine

/-! ## Results of blocks that finish -/

namespace Machine

/-- With at least the cycles of its block as a budget, a machine finishes. -/
theorem Follows.agrees_of_le
    {program : Program}
    {eof : EofPolicy}
    {source : Source}
    {machine : Machine}
    {total cycles budget : Nat}
    {situation : Situation}
    (follows : machine.Follows program eof source program.length total cycles
      (.finished situation))
    (enough : cycles ≤ budget) :
    (machine.run budget).Agrees source total (.finished situation) := by
  obtain ⟨last, stands, same⟩ := follows
  obtain ⟨left, rfl⟩ := Nat.exists_eq_add_of_le enough
  have finished := stands.agrees_at_end
  have stays := run_add 0 left last
  rw [Nat.zero_add, run_of_not_running finished.stopped] at stays
  rwa [same, stays]

/-- A machine of a program that agrees with an ending without a failure stands at the end. -/
theorem Agrees.outcome_eq
    {program : Program}
    {start : Extent}
    {source : Source}
    {machine : Machine}
    {cycles : Nat}
    {situation : Situation}
    (agrees : machine.Agrees source cycles (.finished situation))
    (sound : machine.Sound program start) :
    machine.outcome =
      { output := situation.output, cycles := cycles, position := program.length } := by
  have noFailure : machine.failure? = none := Option.map_eq_none_iff.mp agrees.cause
  have stopped : machine.running = false := Bool.eq_false_iff.mpr agrees.stopped
  have finished : machine.status = .finished := by
    cases status : machine.status with
    | finished => rfl
    | running => exact absurd ((running_iff machine).mpr status) agrees.stopped
    | failed =>
        have told := sound.coherent.mpr status
        rw [noFailure] at told
        cases told
  rw [outcome, noFailure, stopped, agrees.cycles, agrees.shown.output,
    sound.finished_at_end finished]
  rfl

end Machine

namespace Settings

/-- A run may take a number of steps: its limit allows them, or its fuel if there is no limit. -/
def Allows (settings : Settings) (fuel : Nat) (given : Option Int) (steps : Nat) : Prop :=
  match settings.budget given with
  | some limit => (steps : Int) ≤ limit
  | none => steps ≤ fuel

/-- A program whose block finishes has a result in every run that may take as many steps. -/
theorem exists_run?_of_runs
    {settings : Settings}
    {code : String}
    {block : Block}
    {source : Source}
    {cycles fuel : Nat}
    {given : Option Int}
    {situation : Situation}
    (spelled : Block.Spells code.toList block)
    (runs : Runs settings.eof (.block block) (settings.opening source) cycles
      (.finished situation))
    (allowed : settings.Allows fuel given cycles)
    (sink : Sink) :
    ∃ report, settings.run? fuel given code source sink = some report ∧
      report.outcome =
        { output := situation.output, cycles := cycles, position := code.length } := by
  obtain ⟨program, parsed, sameCode⟩ := Program.exists_parse_of_balanced spelled.balanced
  have length : program.length = 0 + code.toList.length := by
    rw [Program.length_of_parse parsed, String.length_toList, Nat.zero_add]
  have holds : program.Holds 0 code.toList := ⟨[], [], by simp [sameCode], rfl⟩
  have follows := (settings.launch_stands program source sink).follows spelled holds runs
  rw [← length, Nat.zero_add] at follows
  have ends (budget : Nat) (enough : cycles ≤ budget) :
      ¬ ((settings.launch program source sink).run budget).running ∧
        ((settings.launch program source sink).run budget).outcome =
          { output := situation.output, cycles := cycles, position := code.length } := by
    have agrees := follows.agrees_of_le enough
    refine ⟨agrees.stopped, ?_⟩
    rw [agrees.outcome_eq ((settings.launch_sound program source sink).run budget),
      Program.length_of_parse parsed]
  rw [run?, parsed]
  simp only [runProgram?]
  unfold Allows at allowed
  cases limited : settings.budget given with
  | some limit =>
      rw [limited] at allowed
      obtain ⟨-, outcome⟩ := ends limit.toNat (by omega)
      exact ⟨_, rfl, outcome⟩
  | none =>
      rw [limited] at allowed
      obtain ⟨stopped, outcome⟩ := ends fuel allowed
      refine ⟨((settings.launch program source sink).run fuel).report, ?_, outcome⟩
      rw [Machine.runWithin?, Machine.runToStop?_of_not_running stopped (Nat.le_refl fuel)]
      rfl

end Settings

/-! ## Clearing a cell -/

namespace Block

/-- The loop `[-]` clears the current cell, with two cycles for each decrement. -/
theorem exists_clear (eof : EofPolicy) (situation : Situation) :
    ∃ cleared, Runs eof (.again (.act .decrement .done)) situation (2 * situation.cell.toNat)
        (.finished cleared) ∧
      cleared.cell = 0 ∧ cleared.input = situation.input ∧ cleared.output = situation.output := by
  induction value : situation.cell.toNat generalizing situation with
  | zero =>
      have isZero : situation.cell = 0 := UInt8.toNat_inj.mp value
      exact ⟨situation, .stop isZero, isZero, rfl, rfl⟩
  | succ smaller inductionHypothesis =>
      have notZero : situation.cell ≠ 0 := by
        intro isZero
        rw [isZero] at value
        cases value
      let lowered := situation.put (situation.cell - 1)
      have loweredValue : lowered.cell.toNat = smaller := by
        have atLeastOne : (1 : UInt8) ≤ situation.cell := by
          rw [UInt8.le_iff_toNat_le, value]
          exact Nat.le_add_left 1 smaller
        rw [Situation.cell_put, UInt8.toNat_sub_of_le _ _ atLeastOne, value]
        rfl
      obtain ⟨cleared, clears, isZero, sameInput, sameOutput⟩ :=
        inductionHypothesis lowered loweredValue
      have runs := Runs.again notZero (.act rfl .done) clears
      have cycles : 1 + 0 + 1 + 2 * smaller = 2 * (smaller + 1) := by omega
      rw [cycles] at runs
      exact ⟨cleared, runs, isZero, sameInput, sameOutput⟩

end Block

/-! ## Echoing -/

/--
A situation faces some bytes if the first of them, or zero if there is none, is in the current cell
and the others are what is left of the input.
-/
structure Situation.Faces (situation : Situation) (bytes : List UInt8) : Prop where
  /-- The first byte, or zero, is in the current cell. -/
  cell : situation.cell = bytes.headD 0
  /-- The other bytes are left of the input. -/
  input : ∀ index, situation.input index = bytes.tail[index]?

/-- A read into a cell that is zero faces the bytes that were left, whatever the policy says. -/
theorem Situation.faces_read
    {situation : Situation}
    {bytes : List UInt8}
    (isZero : situation.cell = 0)
    (left : ∀ index, situation.input index = bytes[index]?)
    (eof : EofPolicy) :
    (situation.read eof).Faces bytes ∧ (situation.read eof).output = situation.output := by
  have next := left 0
  cases bytes with
  | nil =>
      simp only [List.getElem?_nil] at next
      cases eof with
      | zero =>
          have stored : situation.read .zero = situation.put 0 := by simp only [read, next]
          rw [stored]
          exact ⟨⟨situation.cell_put 0, left⟩, rfl⟩
      | unchanged =>
          have kept : situation.read .unchanged = situation := by simp only [read, next]
          rw [kept]
          exact ⟨⟨isZero, left⟩, rfl⟩
  | cons byte rest =>
      simp only [List.getElem?_cons_zero] at next
      simp only [read, next]
      exact ⟨⟨cell_put _ byte, fun index => left (index + 1)⟩, rfl⟩

namespace Echo

/-- The text of the program. -/
def code : String := ",[.[-],]"

/-- The body of the outer loop: write the byte, clear the cell, read the next byte. -/
def body : Block :=
  .act .output (.loop (.act .decrement .done) (.act .input .done))

theorem spells_code : Block.Spells code.toList (.act .input (.loop body .done)) := by
  have inner : Block.Spells ['-'] (.act .decrement .done) := .act .decrement .done
  have last : Block.Spells [','] (.act .input .done) := .act .input .done
  have middle : Block.Spells ['.', '[', '-', ']', ','] body := .act .output (.loop inner last)
  exact .act .input (.loop middle .done)

/-- The bytes that are echoed: those before the first zero. -/
def echoed (bytes : List UInt8) : List UInt8 :=
  bytes.takeWhile fun byte => byte ≠ 0

/-- The cycles in which some bytes are echoed. -/
def cycles (bytes : List UInt8) : Nat :=
  (bytes.map fun byte => 4 + 2 * byte.toNat).sum

variable (eof : EofPolicy) {situation : Situation}

/-- The body writes the byte that it faces and goes on to face the next. -/
theorem exists_body
    {byte : UInt8}
    {rest : List UInt8}
    (faces : situation.Faces (byte :: rest)) :
    ∃ next, Runs eof (.block body) situation (3 + 2 * byte.toNat) (.finished next) ∧
      next.Faces rest ∧ next.output = situation.output.push byte := by
  have isByte : situation.write.cell = byte := faces.cell
  obtain ⟨cleared, clears, isZero, sameInput, sameOutput⟩ :=
    Block.exists_clear eof situation.write
  have left (index : Nat) : cleared.input index = rest[index]? := by
    rw [sameInput]
    exact faces.input index
  obtain ⟨facesRest, readOutput⟩ := Situation.faces_read isZero left eof
  have runs : Runs eof (.block body) situation _ (.finished (cleared.read eof)) :=
    .act rfl (.loop clears (.act rfl .done))
  have cycles : 1 + (1 + 2 * situation.write.cell.toNat + (1 + 0)) = 3 + 2 * byte.toNat := by
    rw [isByte]
    omega
  rw [cycles] at runs
  refine ⟨_, runs, facesRest, ?_⟩
  rw [readOutput, sameOutput, Situation.output_write]
  exact congrArg _ isByte

/-- The outer loop writes the bytes that it faces up to the first zero. -/
theorem exists_again
    {bytes : List UInt8}
    (faces : situation.Faces bytes) :
    ∃ last, Runs eof (.again body) situation (cycles (echoed bytes)) (.finished last) ∧
      last.output.toList = situation.output.toList ++ echoed bytes := by
  induction bytes generalizing situation with
  | nil => exact ⟨situation, .stop faces.cell, (List.append_nil _).symm⟩
  | cons byte rest inductionHypothesis =>
      by_cases isZero : byte = 0
      · subst isZero
        exact ⟨situation, .stop faces.cell, (List.append_nil _).symm⟩
      · have first : echoed (byte :: rest) = byte :: echoed rest := by
          simp [echoed, isZero]
        obtain ⟨next, runsBody, facesRest, written⟩ := exists_body eof faces
        obtain ⟨last, runsRest, restWritten⟩ := inductionHypothesis facesRest
        have notZero : situation.cell ≠ 0 := by
          rw [faces.cell]
          exact isZero
        have runs := Runs.again notZero runsBody runsRest
        have sum : 3 + 2 * byte.toNat + 1 + cycles (echoed rest) =
            cycles (echoed (byte :: rest)) := by
          simp only [first, cycles, List.map_cons, List.sum_cons]
          omega
        rw [sum] at runs
        refine ⟨last, runs, ?_⟩
        rw [restWritten, written, first, Array.toList_push, List.append_assoc,
          List.singleton_append]

/-- From the start the program writes the bytes of its input up to the first zero. -/
theorem exists_runs
    {source : Source}
    {chunks : List (List UInt8)}
    (delivers : source.Delivers chunks)
    (settings : Settings) :
    ∃ last, Runs settings.eof (.block (.act .input (.loop body .done))) (settings.opening source)
        (2 + cycles (echoed chunks.flatten)) (.finished last) ∧
      last.output = (echoed chunks.flatten).toArray := by
  have blank : (settings.opening source).cell = 0 := Cells.get_blank 0
  obtain ⟨faces, unwritten⟩ := Situation.faces_read blank delivers.byte?_eq settings.eof
  obtain ⟨last, echoes, written⟩ := exists_again settings.eof faces
  have runs : Runs settings.eof (.block (.act .input (.loop body .done)))
      (settings.opening source) _ (.finished last) := .act rfl (.loop echoes .done)
  have sum : 1 + (1 + cycles (echoed chunks.flatten) + 0) =
      2 + cycles (echoed chunks.flatten) := by omega
  rw [sum] at runs
  refine ⟨last, runs, ?_⟩
  rw [unwritten] at written
  exact Array.toList_inj.mp (written.trans (List.nil_append _))

theorem exists_run?
    {settings : Settings}
    {source : Source}
    {chunks : List (List UInt8)}
    {fuel : Nat}
    {given : Option Int}
    (delivers : source.Delivers chunks)
    (allowed : settings.Allows fuel given (2 + cycles (echoed chunks.flatten)))
    (sink : Sink) :
    ∃ report, settings.run? fuel given code source sink = some report ∧
      report.outcome =
        { output := (echoed chunks.flatten).toArray
          cycles := 2 + cycles (echoed chunks.flatten)
          position := 8 } := by
  obtain ⟨last, runs, written⟩ := exists_runs delivers settings
  obtain ⟨report, returned, outcome⟩ :=
    Settings.exists_run?_of_runs spells_code runs allowed sink
  rw [written] at outcome
  exact ⟨report, returned, outcome⟩

/-! ## Texts -/

/-- A text without the character zero is echoed as a whole. -/
theorem echoed_map_toNat
    {characters : List Char}
    (small : ∀ character ∈ characters, 1 ≤ character.toNat ∧ character.toNat ≤ 255) :
    echoed (characters.map fun character => UInt8.ofNat character.toNat) =
      characters.map fun character => UInt8.ofNat character.toNat := by
  rw [echoed, List.takeWhile_eq_self_iff, List.forall_mem_map]
  intro character member
  obtain ⟨positive, bounded⟩ := small character member
  have value : (UInt8.ofNat character.toNat).toNat = character.toNat := by
    rw [UInt8.toNat_ofNat', Nat.mod_eq_of_lt (by omega)]
  rw [decide_eq_true_eq]
  intro isZero
  rw [isZero] at value
  exact absurd value (by rw [UInt8.toNat_zero]; omega)

theorem cycles_map_toNat
    {characters : List Char}
    (small : ∀ character ∈ characters, 1 ≤ character.toNat ∧ character.toNat ≤ 255) :
    cycles (characters.map fun character => UInt8.ofNat character.toNat) =
      (characters.map fun character => 4 + 2 * character.toNat).sum := by
  rw [cycles, List.map_map]
  congr 1
  apply List.map_congr_left
  intro character member
  obtain ⟨-, bounded⟩ := small character member
  rw [Function.comp_apply, UInt8.toNat_ofNat', Nat.mod_eq_of_lt (by omega)]

theorem runText?_eq
    {settings : Settings}
    {text : String}
    {fuel : Nat}
    {given : Option Int}
    (small : ∀ character ∈ text.toList, 1 ≤ character.toNat ∧ character.toNat ≤ 255)
    (allowed : settings.Allows fuel given
      (2 + (text.toList.map fun character => 4 + 2 * character.toNat).sum)) :
    settings.runText? fuel given code text = some (.ok text) := by
  obtain ⟨bytes, encoded, decoded, listed⟩ := Text.exists_latinBytes fun character member =>
    decide_eq_true (Nat.lt_succ_of_le (small character member).2)
  obtain ⟨chunks, delivers, flat⟩ := Source.exists_delivers_whole bytes
  have whole : echoed chunks.flatten = bytes := by
    rw [flat, listed, echoed_map_toNat small]
  have opened : (Input.text text).source = .ok (.whole bytes) := by
    rw [Input.source, encoded]
    rfl
  rw [← cycles_map_toNat small, ← listed, ← whole] at allowed
  obtain ⟨report, returned, outcome⟩ := exists_run? delivers allowed .absent
  rw [Settings.runText?, Settings.runInput?_of_source opened, returned]
  simp only [Option.map_some, Report.finalOutcome, outcome, Outcome.orRaise, whole]
  exact congrArg (some ∘ Except.ok) decoded

end Echo

namespace Source

/-- Every division of bytes into chunks that are not empty is delivered by a call. -/
theorem delivers_answers
    {chunks : List (List UInt8)}
    (nonempty : ∀ chunk ∈ chunks, chunk ≠ []) :
    (answers fun turn => chunks[turn]?).Delivers chunks := by
  induction chunks with
  | nil => exact .nil fun first others => nofun
  | cons chunk rest inductionHypothesis =>
      obtain ⟨notEmpty, others⟩ := List.forall_mem_cons.mp nonempty
      obtain ⟨first, more, rfl⟩ := List.exists_cons_of_ne_nil notEmpty
      exact .cons rfl (inductionHypothesis others)

end Source

namespace Settings

/--
The program `,[.[-],]` echoes its input up to the first zero.  Whatever the settings are, and
however the bytes of the input are divided into chunks, a run without a limit, or with one of at
least two cycles and four for each byte that is echoed and twice its value, finishes: it has written
just these bytes and has taken as many cycles.  Every division into chunks that are not empty is
handed out by some source.  So a text of characters from 1 to 255 is answered with itself.
-/
theorem echo_program_is_correct (settings : Settings) :
    (∀ (data : List UInt8) (chunks : List (List UInt8)) (source : Source) (sink : Sink)
        (fuel : Nat) (given : Option Int),
      chunks.flatten = data → source.Delivers chunks →
      settings.Allows fuel given (2 + Echo.cycles (Echo.echoed data)) →
      ∃ report, settings.run? fuel given ",[.[-],]" source sink = some report ∧
        report.outcome.ok ∧
        report.outcome =
          { output := (Echo.echoed data).toArray
            cycles := 2 + Echo.cycles (Echo.echoed data)
            position := 8 }) ∧
    (∀ chunks : List (List UInt8), (∀ chunk ∈ chunks, chunk ≠ []) →
      ∃ source : Source, source.Delivers chunks) ∧
    ∀ (text : String) (fuel : Nat) (given : Option Int),
      (∀ character ∈ text.toList, 1 ≤ character.toNat ∧ character.toNat ≤ 255) →
      settings.Allows fuel given
        (2 + (text.toList.map fun character => 4 + 2 * character.toNat).sum) →
      settings.runText? fuel given ",[.[-],]" text = some (.ok text) := by
  refine ⟨?_, ?_, ?_⟩
  · rintro data chunks source sink fuel given rfl delivers allowed
    obtain ⟨report, returned, outcome⟩ := Echo.exists_run? delivers allowed sink
    refine ⟨report, returned, ?_, outcome⟩
    rw [outcome]
    rfl
  · intro chunks nonempty
    exact ⟨_, Source.delivers_answers nonempty⟩
  · intro text fuel given small allowed
    exact Echo.runText?_eq small allowed

/--
On a tape with one cell, two bytes that come in different chunks are echoed within a limit of just
twenty cycles, and what follows the zero is not; a text with the last byte is answered with itself.
-/
theorem echo_program_stops_at_zero :
    let settings : Settings := { tapeSize := ⟨1, by decide⟩, eof := .zero }
    let source : Source := .answers fun turn => [[2], [3, 0, 5]][turn]?
    source.Delivers [[2], [3, 0, 5]] ∧
      (∃ report, settings.run? 0 (some 20) ",[.[-],]" source .absent = some report ∧
        report.outcome.ok ∧
        report.outcome = { output := #[2, 3], cycles := 20, position := 8 }) ∧
      settings.runText? 728 none ",[.[-],]" "hÿ" = some (.ok "hÿ") := by
  intro settings source
  have delivers : source.Delivers [[2], [3, 0, 5]] := by
    refine .cons rfl (.cons rfl (.nil ?_))
    simp [Source.Ends, Source.poll, source]
  have letters : "hÿ".toList = ['h', 'ÿ'] := rfl
  obtain ⟨echoes, -, answers⟩ := echo_program_is_correct settings
  refine ⟨delivers, ?_, ?_⟩
  · exact echoes [2, 3, 0, 5] [[2], [3, 0, 5]] source .absent 0 (some 20) rfl delivers
      (Int.le_refl 20)
  · apply answers
    · rw [letters, List.forall_mem_cons, List.forall_mem_singleton]
      decide
    · exact Nat.le_refl 728

end Settings
end TapeMachine

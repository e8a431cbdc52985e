import TapeMachine.Proofs.Block.Simulation
import TapeMachine.Settings.Run

/-!
# Runs of blocks are runs of machines

A machine knows only positions and a table of partners; a block knows only its structure.  This
module shows that they do the same.  Forward, by induction on the text and inside it on the
iterations of a loop, a block that comes to an ending is followed by the machine step for step.
Backward, by induction on the budget, a machine that has stopped has followed a block to its
ending.  So a machine stops if and only if its block comes to an ending, and then the two agree on
everything that can be seen.
-/

namespace TapeMachine
namespace Machine

/-- What a machine has come to is what an ending describes. -/
structure Agrees
    (source : Source)
    (machine : Machine)
    (cycles : Nat)
    (ending : Ending) : Prop where
  /-- The machine has stopped. -/
  stopped : ¬ machine.running
  /-- Both have succeeded, or both have failed for the same cause. -/
  cause : machine.failure?.map Failure.cause = ending.cause?
  /-- The cycles are the same. -/
  cycles : machine.cycles = cycles
  /-- The tape, the cursor, the output and the input are the same. -/
  shown : machine.Shows source ending.situation

/-- A machine follows a task to its ending, which is at a position when nothing fails. -/
def Follows
    (program : Program)
    (eof : EofPolicy)
    (source : Source)
    (machine : Machine)
    (position total cycles : Nat) : Ending → Prop
  | .finished situation =>
      ∃ last : Machine, last.Stands program eof source position total situation ∧
        ∀ budget, machine.run (cycles + budget) = last.run budget
  | .failed situation cause =>
      ∃ last : Machine, last.Agrees source total (.failed situation cause) ∧
        ∀ budget, machine.run (cycles + (1 + budget)) = last

namespace Follows

variable
  {program : Program} {eof : EofPolicy} {source : Source}
  {machine next : Machine} {position total first second : Nat} {ending : Ending}

/-- What follows after a part of the run follows after the whole. -/
theorem prepend
    (follows : next.Follows program eof source position total second ending)
    (reached : ∀ budget, machine.run (first + budget) = next.run budget) :
    machine.Follows program eof source position total (first + second) ending := by
  cases ending with
  | finished situation =>
      obtain ⟨last, stands, same⟩ := follows
      refine ⟨last, stands, ?_⟩
      intro budget
      rw [Nat.add_assoc, reached, same]
  | failed situation cause =>
      obtain ⟨last, agrees, same⟩ := follows
      refine ⟨last, agrees, ?_⟩
      intro budget
      rw [Nat.add_assoc, reached, same]

theorem of_eq
    {otherPosition otherTotal other : Nat}
    (follows : machine.Follows program eof source position total first ending)
    (samePosition : position = otherPosition)
    (sameTotal : total = otherTotal)
    (sameCycles : first = other) :
    machine.Follows program eof source otherPosition otherTotal other ending := by
  subst samePosition sameTotal sameCycles
  exact follows

end Follows

namespace Stands

variable
  {program : Program} {eof : EofPolicy} {source : Source} {machine : Machine}
  {position cycles : Nat} {situation : Situation}

theorem follows_fail
    {action : Action}
    {cause : FailureCause}
    (stop : Nat)
    (stands : machine.Stands program eof source position cycles situation)
    (found : program.command? position = some action.command)
    (effect : action.effect eof situation = .error cause) :
    machine.Follows program eof source stop cycles 0 (.failed situation cause) := by
  refine ⟨machine.fail cause, ⟨?_, rfl, stands.cycles_eq, stands.shown.relocate _ _ _ _⟩, ?_⟩
  · simp [running, Machine.fail]
  · intro budget
    rw [Nat.zero_add, stands.fail found effect]

/-- A machine that follows the body of a loop follows the loop. -/
theorem follows_again
    {inner after : List Char}
    {body : Block}
    (holds : program.Holds position ('[' :: (inner ++ ']' :: after)))
    (balanced : Brackets.Balanced inner)
    (followsBody : ∀ {machine : Machine} {situation : Situation} {total cycles : Nat}
        {ending : Ending},
      machine.Stands program eof source (position + 1) total situation →
        Runs eof (.block body) situation cycles ending →
          machine.Follows program eof source (position + 1 + inner.length) (total + cycles)
            cycles ending)
    {total cycles : Nat}
    {ending : Ending}
    (stands : machine.Stands program eof source (situation.landing position inner) total situation)
    (runs : Runs eof (.again body) situation cycles ending) :
    machine.Follows program eof source (position + inner.length + 2) (total + cycles) cycles
      ending := by
  generalize isAgain : Task.again body = task at runs
  induction runs generalizing machine total with
  | done => cases isAgain
  | act => cases isAgain
  | fail => cases isAgain
  | loop => cases isAgain
  | loopFail => cases isAgain
  | stop isZero =>
      rw [Situation.landing, if_pos isZero] at stands
      exact ⟨machine, stands, fun budget => by rw [Nat.zero_add]⟩
  | @again _ before between bodyCycles moreCycles ending notZero bodyRuns _ _ inductionHypothesis =>
      cases isAgain
      rw [Situation.landing, if_neg notZero] at stands
      obtain ⟨atClose, closeStands, reachesClose⟩ := followsBody stands bodyRuns
      rw [Nat.add_right_comm] at closeStands
      obtain ⟨next, nextStands, reachesNext⟩ := repeatLoop holds balanced closeStands
      have follows := (inductionHypothesis nextStands rfl).prepend reachesNext
      exact (follows.prepend reachesClose).of_eq rfl (by omega) (by omega)
  | againFail notZero bodyRuns _ =>
      cases isAgain
      rw [Situation.landing, if_neg notZero] at stands
      exact followsBody stands bodyRuns

/-- A machine follows the block that the text at its position spells. -/
theorem follows
    {text : List Char}
    {block : Block}
    (spelled : Block.Spells text block)
    (holds : program.Holds position text)
    {total cycles : Nat}
    {ending : Ending}
    (stands : machine.Stands program eof source position total situation)
    (runs : Runs eof (.block block) situation cycles ending) :
    machine.Follows program eof source (position + text.length) (total + cycles) cycles
      ending := by
  induction spelled generalizing machine position total situation cycles ending with
  | done =>
      cases runs
      exact ⟨machine, stands, fun budget => by rw [Nat.zero_add]⟩
  | comment isComment _ inductionHypothesis =>
      obtain ⟨next, nextStands, same⟩ := stands.comment holds isComment
      have reached : ∀ budget, machine.run (0 + budget) = next.run budget := by
        intro budget
        rw [Nat.zero_add, same]
      have follows := (inductionHypothesis holds.tail nextStands runs).prepend reached
      rw [List.length_cons]
      exact follows.of_eq (by omega) rfl (by omega)
  | act action _ inductionHypothesis =>
      have found : program.command? position = some action.command := by
        rw [holds.command?_eq, Command.ofChar?_symbol]
      cases runs with
      | act effect restRuns =>
          obtain ⟨next, nextStands, reached⟩ := stands.act found effect
          have follows := (inductionHypothesis holds.tail nextStands restRuns).prepend reached
          rw [List.length_cons]
          exact follows.of_eq (by omega) (by omega) rfl
      | fail effect => exact stands.follows_fail _ found effect
  | @loop inner after body rest spelledBody _ bodyHypothesis restHypothesis =>
      have balanced := spelledBody.balanced
      obtain ⟨next, nextStands, entered⟩ := stands.enterLoop holds balanced
      obtain ⟨holdsBody, -, holdsRest⟩ := holds.loop_parts
      rw [List.length_cons, List.length_append, List.length_cons]
      cases runs with
      | loop loopRuns restRuns =>
          obtain ⟨behind, behindStands, reached⟩ := follows_again holds balanced
            (fun bodyStands bodyRuns => bodyHypothesis holdsBody bodyStands bodyRuns)
            nextStands loopRuns
          have follows := (restHypothesis holdsRest behindStands restRuns).prepend reached
          exact (follows.prepend entered).of_eq (by omega) (by omega) (by omega)
      | loopFail loopRuns =>
          have follows := follows_again holds balanced
            (fun bodyStands bodyRuns => bodyHypothesis holdsBody bodyStands bodyRuns)
            nextStands loopRuns
          obtain ⟨last, agrees, same⟩ := follows.prepend entered
          have sum := agrees.cycles
          refine ⟨last, ⟨agrees.stopped, agrees.cause, by omega, agrees.shown⟩, same⟩

end Stands

/-! ## From the machine to the block -/

/-- A block comes to an ending within a number of cycles. -/
def EndsWithin (eof : EofPolicy) (block : Block) (situation : Situation) (limit : Nat) : Prop :=
  ∃ cycles ending, cycles ≤ limit ∧ Runs eof (.block block) situation cycles ending

/-- Machines that stand at a position and stop within a limit have completed a block by then. -/
def StopsBehind
    (program : Program)
    (eof : EofPolicy)
    (source : Source)
    (position : Nat)
    (block : Block)
    (limit : Nat) : Prop :=
  ∀ budget ≤ limit, ∀ (machine : Machine) (total : Nat) (situation : Situation),
    machine.Stands program eof source position total situation →
      ¬ (machine.run budget).running → EndsWithin eof block situation budget

namespace Stands

variable
  {program : Program} {eof : EofPolicy} {source : Source} {machine : Machine}
  {position total : Nat} {situation : Situation}

/--
A machine that has stopped after a landing has completed the loop and what follows, if the same
can be said of the body and of the rest for budgets up to a limit.
-/
theorem loop_endsWithin
    {inner after : List Char}
    {body rest : Block}
    {limit : Nat}
    (spelledBody : Block.Spells inner body)
    (holds : program.Holds position ('[' :: (inner ++ ']' :: after)))
    (bodyStops : StopsBehind program eof source (position + 1) body limit)
    (restStops : StopsBehind program eof source (position + inner.length + 2) rest limit)
    (budget : Nat)
    (withinLimit : budget ≤ limit)
    (stands : machine.Stands program eof source (situation.landing position inner) total situation)
    (stopped : ¬ (machine.run budget).running) :
    ∃ cycles ending, cycles ≤ budget ∧
      Runs eof (.block (.loop body rest)) situation (1 + cycles) ending := by
  induction budget using Nat.strong_induction_on generalizing machine total situation with
  | _ budget inductionHypothesis =>
      by_cases isZero : situation.cell = 0
      · rw [Situation.landing, if_pos isZero] at stands
        obtain ⟨cycles, ending, within, restRuns⟩ :=
          restStops budget withinLimit machine total situation stands stopped
        refine ⟨cycles, ending, within, ?_⟩
        simpa using Runs.loop (.stop isZero) restRuns
      · rw [Situation.landing, if_neg isZero] at stands
        obtain ⟨bodyCycles, bodyEnding, bodyWithin, bodyRuns⟩ :=
          bodyStops budget withinLimit machine total situation stands stopped
        cases bodyEnding with
        | failed failedSituation cause =>
            exact ⟨bodyCycles, _, bodyWithin, .loopFail (.againFail isZero bodyRuns)⟩
        | finished between =>
            obtain ⟨holdsBody, holdsClose, -⟩ := holds.loop_parts
            obtain ⟨atClose, closeStands, reachesClose⟩ :=
              follows spelledBody holdsBody stands bodyRuns
            rw [Nat.add_right_comm] at closeStands
            obtain ⟨left, rfl⟩ := Nat.exists_eq_add_of_le bodyWithin
            rw [reachesClose] at stopped
            -- the machine still has to carry out the close, so the budget is not spent yet
            cases left with
            | zero => exact absurd (closeStands.running_run_zero holdsClose.command?_eq) stopped
            | succ left =>
                obtain ⟨next, nextStands, reachesNext⟩ :=
                  repeatLoop holds spelledBody.balanced closeStands
                rw [Nat.add_comm left 1, reachesNext] at stopped
                obtain ⟨cycles, ending, within, loopRuns⟩ :=
                  inductionHypothesis left (by omega) (by omega) nextStands stopped
                exact ⟨bodyCycles + 1 + cycles, ending, by omega,
                  .loop_again isZero bodyRuns loopRuns⟩

/-- A machine that has stopped has followed the block at its position to an ending. -/
theorem endsWithin
    {text : List Char}
    {block : Block}
    (spelled : Block.Spells text block)
    (holds : program.Holds position text)
    (budget : Nat)
    (stands : machine.Stands program eof source position total situation)
    (stopped : ¬ (machine.run budget).running) :
    EndsWithin eof block situation budget := by
  induction budget using Nat.strong_induction_on
    generalizing machine position total situation text block with
  | _ budget inductionHypothesis =>
      -- comments take no part of the budget, so they need an induction of their own
      induction spelled generalizing machine position with
      | done => exact ⟨0, _, Nat.zero_le budget, .done⟩
      | comment isComment _ textHypothesis =>
          obtain ⟨next, nextStands, same⟩ := stands.comment holds isComment
          rw [same] at stopped
          exact textHypothesis holds.tail nextStands stopped
      | act action spelledRest _ =>
          have found : program.command? position = some action.command := by
            rw [holds.command?_eq, Command.ofChar?_symbol]
          cases budget with
          | zero => exact absurd (stands.running_run_zero found) stopped
          | succ left =>
              cases effect : action.effect eof situation with
              | error cause => exact ⟨0, _, Nat.zero_le _, .fail effect⟩
              | ok changed =>
                  obtain ⟨next, nextStands, reached⟩ := stands.act found effect
                  rw [Nat.add_comm left 1, reached] at stopped
                  obtain ⟨cycles, ending, within, restRuns⟩ := inductionHypothesis left
                    (by omega) spelledRest holds.tail nextStands stopped
                  exact ⟨1 + cycles, ending, by omega, .act effect restRuns⟩
      | @loop inner after body rest spelledBody spelledRest _ _ =>
          have found : program.command? position = some .loopOpen := holds.command?_eq
          obtain ⟨holdsBody, -, holdsRest⟩ := holds.loop_parts
          cases budget with
          | zero => exact absurd (stands.running_run_zero found) stopped
          | succ left =>
              obtain ⟨next, nextStands, entered⟩ :=
                stands.enterLoop holds spelledBody.balanced
              rw [Nat.add_comm left 1, entered] at stopped
              have bodyStops : StopsBehind program eof source (position + 1) body left := by
                intro budget within machine total situation bodyStands bodyStopped
                exact inductionHypothesis budget (by omega) spelledBody holdsBody bodyStands
                  bodyStopped
              have restStops :
                  StopsBehind program eof source (position + inner.length + 2) rest left := by
                intro budget within machine total situation restStands restStopped
                exact inductionHypothesis budget (by omega) spelledRest holdsRest restStands
                  restStopped
              obtain ⟨cycles, ending, within, loopRuns⟩ :=
                loop_endsWithin spelledBody holds bodyStops restStops left le_rfl nextStands
                  stopped
              exact ⟨1 + cycles, ending, by omega, loopRuns⟩

/-- A machine that stands at the end of its program is finished when its budget is spent. -/
theorem agrees_at_end
    (stands : machine.Stands program eof source program.length total situation) :
    (machine.run 0).Agrees source total (.finished situation) := by
  have atEnd : machine.program.length ≤ machine.program.nextCommand machine.position := by
    rw [stands.program_eq, stands.position_eq]
    exact Program.le_nextCommand program program.length
  rw [run_zero_of_running stands.runs, skipComments]
  simp only [if_pos atEnd]
  refine ⟨by simp [running], ?_, stands.cycles_eq, stands.shown.relocate _ _ _ _⟩
  rw [stands.unfailed]
  rfl

end Stands

/-- Two budgets that a machine does not exhaust give the same result. -/
theorem run_eq_of_not_running
    {machine : Machine}
    {first second : Nat}
    (firstStopped : ¬ (machine.run first).running)
    (secondStopped : ¬ (machine.run second).running) :
    machine.run first = machine.run second := by
  rcases Nat.le_total first second with shorter | shorter
  · obtain ⟨more, rfl⟩ := Nat.exists_eq_add_of_le shorter
    rw [run_add, run_of_not_running firstStopped]
  · obtain ⟨more, rfl⟩ := Nat.exists_eq_add_of_le shorter
    rw [run_add, run_of_not_running secondStopped]

/-- A machine whose whole program has come to an ending agrees with it for some budget. -/
theorem Follows.exists_agrees
    {program : Program}
    {eof : EofPolicy}
    {source : Source}
    {machine : Machine}
    {total cycles : Nat}
    {ending : Ending}
    (follows : machine.Follows program eof source program.length total cycles ending) :
    ∃ budget, (machine.run budget).Agrees source total ending := by
  cases ending with
  | finished situation =>
      obtain ⟨last, stands, same⟩ := follows
      refine ⟨cycles + 0, ?_⟩
      rw [same]
      exact stands.agrees_at_end
  | failed situation cause =>
      obtain ⟨last, agrees, same⟩ := follows
      refine ⟨cycles + (1 + 0), ?_⟩
      rw [same]
      exact agrees

end Machine

namespace Program

theorem exists_parse_of_balanced
    {code : String}
    (balanced : Brackets.Balanced code.toList) :
    ∃ program, parse code = .ok program ∧ program.code.toList = code.toList := by
  obtain ⟨table, accepted⟩ := (Brackets.exists_matchLoops_iff code.toList).mpr balanced
  unfold parse
  dsimp only
  split
  · exact ⟨_, rfl, List.toList_toArray⟩
  · rename_i rejection matched
    rw [accepted] at matched
    cases matched

end Program

namespace Settings

/-- The situation in which a run begins. -/
def opening (settings : Settings) (source : Source) : Situation where
  tape := settings.newTape
  cursor := 0
  input := source.byte?
  consumed := []
  output := #[]

/-- A machine that is about to run stands at the start of its program in the opening situation. -/
theorem launch_stands
    (settings : Settings)
    (program : Program)
    (source : Source)
    (sink : Sink) :
    (settings.launch program source sink).Stands program settings.eof source 0 0
      (settings.opening source) where
  program_eq := rfl
  eof_eq := rfl
  runs := rfl
  unfailed := rfl
  position_eq := rfl
  cycles_eq := rfl
  shown := by
    refine ⟨rfl, rfl, rfl, ?_, rfl, rfl⟩
    funext index
    simp [Machine.pending, launch, opening]

/--
A balanced text is a program and spells a block, which reading finds.  Whatever the settings, the
input and the sink are, the machine of the program stops for some budget if and only if the block
comes to an ending from the opening situation; and then the machine agrees with the ending on
success or the cause of failure, on the cycles, on the tape and the cursor, on the output, and on
the input that has been read and that is left.
-/
theorem launch_stops_iff_block_ends
    (code : String)
    (balanced : Brackets.Balanced code.toList) :
    ∃ program block,
      Program.parse code = .ok program ∧ Block.ofText? code.toList = some block ∧
        Block.Spells code.toList block ∧
        ∀ (settings : Settings) (source : Source) (sink : Sink),
          ((∃ budget, ¬ ((settings.launch program source sink).run budget).running) ↔
            ∃ cycles ending,
              Runs settings.eof (.block block) (settings.opening source) cycles ending) ∧
          ∀ budget cycles ending,
            ¬ ((settings.launch program source sink).run budget).running →
              Runs settings.eof (.block block) (settings.opening source) cycles ending →
                ((settings.launch program source sink).run budget).Agrees source cycles
                  ending := by
  obtain ⟨program, parsed, sameCode⟩ := Program.exists_parse_of_balanced balanced
  obtain ⟨block, spelled⟩ := Block.exists_spells_of_balanced balanced
  refine ⟨program, block, parsed, spelled.ofText?_eq, spelled, ?_⟩
  intro settings source sink
  have holds : program.Holds 0 code.toList := ⟨[], [], by simp [sameCode], rfl⟩
  have length : program.length = 0 + code.toList.length := by
    rw [Program.length, ← Array.length_toList, sameCode, Nat.zero_add]
  have stands := settings.launch_stands program source sink
  have agreement {cycles : Nat} {ending : Ending}
      (runs : Runs settings.eof (.block block) (settings.opening source) cycles ending) :
      ∃ budget, ((settings.launch program source sink).run budget).Agrees source cycles
        ending := by
    have follows := stands.follows spelled holds runs
    rw [← length, Nat.zero_add] at follows
    exact follows.exists_agrees
  refine ⟨⟨?_, ?_⟩, ?_⟩
  · rintro ⟨budget, stopped⟩
    obtain ⟨cycles, ending, -, runs⟩ := stands.endsWithin spelled holds budget stopped
    exact ⟨cycles, ending, runs⟩
  · rintro ⟨cycles, ending, runs⟩
    obtain ⟨budget, agrees⟩ := agreement runs
    exact ⟨budget, agrees.stopped⟩
  · intro budget cycles ending stopped runs
    obtain ⟨enough, agrees⟩ := agreement runs
    rw [Machine.run_eq_of_not_running stopped agrees.stopped]
    exact agrees

/-- A loop that clears a cell, with a comment: the machine stops, after four cycles. -/
theorem launch_stops_clearing_loop :
    ∃ program, Program.parse "+[a-]" = .ok program ∧
      ∃ budget, ¬ ((({} : Settings).launch program .closed .absent).run budget).running ∧
        ((({} : Settings).launch program .closed .absent).run budget).cycles = 4 := by
  have balanced : Brackets.Balanced "+[a-]".toList := ⟨(0 : DyckWord).nest, rfl⟩
  obtain ⟨program, block, parsed, read, -, equivalent⟩ :=
    launch_stops_iff_block_ends "+[a-]" balanced
  obtain rfl : Block.act .increment (.loop (.act .decrement .done) .done) = block :=
    Option.some.inj read
  obtain ⟨stops, agrees⟩ := equivalent {} .closed .absent
  -- the tree of the program: one increment, then one iteration of the body
  let start := ({} : Settings).opening .closed
  let raised := start.put (start.cell + 1)
  let cleared := raised.put (raised.cell - 1)
  have raisedCell : raised.cell = 1 := by
    simp [raised, start, Situation.cell, Situation.put, opening, newTape, Tape.ofExtent,
      Tape.get, Tape.set]
  have clearedCell : cleared.cell = 0 := by
    simp only [cleared, raisedCell]
    simp [Situation.cell, Situation.put, Tape.get, Tape.set]
  have runs : Runs .unchanged (.block (.act .increment (.loop (.act .decrement .done) .done)))
      start (1 + (1 + (1 + 0 + 1 + 0) + 0)) (.finished cleared) :=
    .act rfl (.loop (.again (by rw [raisedCell]; decide) (.act rfl .done) (.stop clearedCell))
      .done)
  obtain ⟨budget, stopped⟩ := stops.mpr ⟨_, _, runs⟩
  exact ⟨program, parsed, budget, stopped, (agrees _ _ _ stopped runs).cycles⟩

end Settings
end TapeMachine

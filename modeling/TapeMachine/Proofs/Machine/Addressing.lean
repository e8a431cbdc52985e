import TapeMachine.Proofs.Machine.Budget

/-!
# Three ways of addressing

A bounded tape ends on the right, a growable tape does not; a growable tape begins at zero, a sparse
tape without a modulus has no beginning.  Where the stricter of two tapes has a cell, the other one
has the same cell.  So a machine on the stricter tape is followed by the same machine on the other
tape, command by command, until the stricter tape has to refuse a move that the other one allows.

The relation between the two machines is that they differ in their tapes only, and in these only in
the extent.
-/

namespace TapeMachine

/-- An extent is like another one, but it allows the moves that the other refuses for a cause. -/
inductive Extent.Relaxes : FailureCause → Extent → Extent → Prop
  | growable (size room : Nat) : Relaxes .overflow (.bounded size) (.growable room)
  | sparse (room : Nat) : Relaxes .underflow (.growable room) (.sparse none)

namespace Tape

/-- Two tapes hold the same bytes, and the extent of the second relaxes that of the first. -/
structure Relaxes (cause : FailureCause) (strict loose : Tape) : Prop where
  extent : strict.extent.Relaxes cause loose.extent
  cells : loose.cells = strict.cells

namespace Relaxes

variable {cause : FailureCause} {strict loose : Tape}

theorem get_eq
    (relaxes : Relaxes cause strict loose)
    (index : Int) :
    loose.get index = strict.get index := by
  rw [get, get, relaxes.cells]

theorem touched_eq (relaxes : Relaxes cause strict loose) :
    loose.touched = strict.touched := by
  rw [touched, touched, relaxes.cells]

theorem set
    (relaxes : Relaxes cause strict loose)
    (index : Int)
    (byte : UInt8) :
    Relaxes cause (strict.set index byte) (loose.set index byte) where
  extent := relaxes.extent
  cells := by
    rw [Tape.set, Tape.set, relaxes.cells]

/-- A move is refused for the cause, or refused on both tapes, or it ends in the same cell. -/
theorem move_cases
    (relaxes : Relaxes cause strict loose)
    (index distance : Int) :
    (∃ fault, strict.move index distance = .error fault ∧ fault.cause = cause) ∨
      (∃ fault, strict.move index distance = .error fault ∧
        loose.move index distance = .error fault) ∨
      (∃ target strictMoved looseMoved,
        strict.move index distance = .ok (target, strictMoved) ∧
        loose.move index distance = .ok (target, looseMoved) ∧
        Relaxes cause strictMoved looseMoved) := by
  obtain ⟨strictExtent, cells⟩ := strict
  obtain ⟨looseExtent, looseCells⟩ := loose
  obtain ⟨extent, rfl⟩ := relaxes
  cases extent with
  | growable size room =>
      simp only [move]
      by_cases below : index + distance < 0
      · simp only [if_pos below]
        exact Or.inr (Or.inl ⟨_, rfl, rfl⟩)
      · simp only [if_neg below]
        by_cases beyond : (size : Int) ≤ index + distance
        · simp only [if_pos beyond]
          exact Or.inl ⟨_, rfl, rfl⟩
        · simp only [if_neg beyond]
          exact Or.inr (Or.inr ⟨_, _, _, rfl, rfl, .growable size _, rfl⟩)
  | sparse room =>
      simp only [move]
      by_cases below : index + distance < 0
      · simp only [if_pos below]
        exact Or.inl ⟨_, rfl, rfl⟩
      · simp only [if_neg below]
        exact Or.inr (Or.inr ⟨_, _, _, rfl, rfl, .sparse _, rfl⟩)

end Relaxes
end Tape

namespace Machine

/-- The same machine on another tape. -/
def onTape (machine : Machine) (tape : Tape) : Machine :=
  { machine with tape := tape }

section Following

variable {cause : FailureCause} {machine : Machine} {tape : Tape}

theorem cell_onTape (relaxes : machine.tape.Relaxes cause tape) :
    (machine.onTape tape).cell = machine.cell :=
  relaxes.get_eq machine.cursor

theorem target_onTape
    (relaxes : machine.tape.Relaxes cause tape)
    (command : Command) :
    (machine.onTape tape).target command = machine.target command := by
  have sameCell := cell_onTape relaxes
  cases command with
  | loopOpen =>
      rw [target, target, sameCell]
      rfl
  | loopClose =>
      rw [target, target, sameCell]
      rfl
  | increment | decrement | moveLeft | moveRight | output | input => rfl

theorem receive_onTape (machine : Machine) (tape : Tape) :
    (machine.onTape tape).receive =
      machine.receive.onTape (machine.received?.elim tape (tape.set machine.cursor)) := by
  obtain ⟨sameFeed, sameQueue, sameExhausted⟩ :=
    fill_congr (machine.onTape tape) machine rfl rfl rfl
  rw [receive_eq, receive_eq machine, sameFeed, sameQueue, sameExhausted,
    received?_congr (machine.onTape tape) machine rfl rfl rfl rfl]
  rfl

theorem relaxes_receive (relaxes : machine.tape.Relaxes cause tape) :
    machine.receive.tape.Relaxes cause
      (machine.received?.elim tape (tape.set machine.cursor)) := by
  rw [receive_eq]
  cases machine.received? with
  | none => exact relaxes
  | some byte => exact relaxes.set machine.cursor byte

/-- The cursor moves alike on both tapes, unless the stricter one refuses the move for the cause. -/
theorem shift_onTape_cases
    (relaxes : machine.tape.Relaxes cause tape)
    (distance : Int) :
    machine.shift distance = .error cause ∨
      (∃ other, machine.shift distance = .error other ∧
        (machine.onTape tape).shift distance = .error other) ∨
      (∃ changed moved, machine.shift distance = .ok changed ∧
        (machine.onTape tape).shift distance = .ok (changed.onTape moved) ∧
        changed.tape.Relaxes cause moved) := by
  rcases relaxes.move_cases machine.cursor distance with ⟨fault, refused, isCause⟩ |
    ⟨fault, refused, refusedToo⟩ | ⟨target, strictMoved, looseMoved, moved, movedToo, still⟩
  · rw [← isCause]
    exact Or.inl (shift_of_error refused)
  · exact Or.inr (Or.inl ⟨fault.cause, shift_of_error refused, shift_of_error refusedToo⟩)
  · exact Or.inr (Or.inr ⟨_, looseMoved, shift_of_ok moved, shift_of_ok movedToo, still⟩)

/-- A command has the same effect on both tapes, unless the stricter one fails for the cause. -/
theorem effect_onTape_cases
    (relaxes : machine.tape.Relaxes cause tape)
    (command : Command) :
    machine.effect command = .error cause ∨
      (∃ other, machine.effect command = .error other ∧
        (machine.onTape tape).effect command = .error other) ∨
      (∃ changed moved, machine.effect command = .ok changed ∧
        (machine.onTape tape).effect command = .ok (changed.onTape moved) ∧
        changed.tape.Relaxes cause moved) := by
  have sameCell := cell_onTape relaxes
  cases command with
  | increment =>
      refine Or.inr (Or.inr ⟨_, _, rfl, ?_, relaxes.set machine.cursor (machine.cell + 1)⟩)
      rw [effect, sameCell]
      rfl
  | decrement =>
      refine Or.inr (Or.inr ⟨_, _, rfl, ?_, relaxes.set machine.cursor (machine.cell - 1)⟩)
      rw [effect, sameCell]
      rfl
  | moveLeft => exact shift_onTape_cases relaxes (-1)
  | moveRight => exact shift_onTape_cases relaxes 1
  | output =>
      refine Or.inr (Or.inr ⟨machine.emit, tape, rfl, ?_, relaxes⟩)
      rw [effect, emit, sameCell]
      rfl
  | input =>
      refine Or.inr (Or.inr ⟨_, _, rfl, ?_, relaxes_receive relaxes⟩)
      rw [effect, receive_onTape]
  | loopOpen | loopClose => exact Or.inr (Or.inr ⟨machine, tape, rfl, rfl, relaxes⟩)

/-- One more step keeps the machines alike, unless the stricter one fails for the cause. -/
theorem run_one_onTape_cases
    (settled : machine.Settled)
    (relaxes : machine.tape.Relaxes cause tape) :
    (machine.running ∧ machine.run 1 = machine.fail cause) ∨
      ∃ moved, (machine.onTape tape).run 1 = (machine.run 1).onTape moved ∧
        (machine.run 1).tape.Relaxes cause moved := by
  by_cases runs : machine.running
  · obtain ⟨command, found⟩ := settled runs
    have runsToo : (machine.onTape tape).running := runs
    have foundToo : (machine.onTape tape).command? = some command := found
    rcases effect_onTape_cases relaxes command with failed | ⟨other, failed, failedToo⟩ |
      ⟨changed, moved, changes, changesToo, still⟩
    · exact Or.inl ⟨runs, run_one_of_error runs found failed⟩
    · refine Or.inr ⟨tape, ?_, ?_⟩
      · rw [run_one_of_error runs found failed, run_one_of_error runsToo foundToo failedToo]
        rfl
      · rw [run_one_of_error runs found failed]
        exact relaxes
    · refine Or.inr ⟨moved, ?_, ?_⟩
      · rw [run_one_of_ok runs found changes, run_one_of_ok runsToo foundToo changesToo,
          target_onTape relaxes]
        rfl
      · rw [run_one_of_ok runs found changes]
        exact still
  · have stoppedToo : ¬ (machine.onTape tape).running := runs
    rw [run_of_not_running runs, run_of_not_running stoppedToo]
    exact Or.inr ⟨tape, rfl, relaxes⟩

theorem run_zero_onTape (machine : Machine) (tape : Tape) :
    (machine.onTape tape).run 0 = (machine.run 0).onTape tape := by
  by_cases runs : machine.running
  · have runsToo : (machine.onTape tape).running := runs
    rw [run_zero_of_running runs, run_zero_of_running runsToo]
    rfl
  · have stoppedToo : ¬ (machine.onTape tape).running := runs
    rw [run_of_not_running runs, run_of_not_running stoppedToo]

/--
A machine on the looser tape follows one on the stricter tape until that one fails for the cause.
-/
theorem run_onTape_cases
    (coherent : machine.Coherent)
    (relaxes : machine.tape.Relaxes cause tape)
    (budget : Nat) :
    (∃ failure, (machine.run budget).failure? = some failure ∧ failure.cause = cause) ∨
      ∃ moved, (machine.onTape tape).run budget = (machine.run budget).onTape moved ∧
        (machine.run budget).tape.Relaxes cause moved := by
  induction budget with
  | zero =>
      have same := run_zero_onTape machine tape
      by_cases runs : machine.running
      · rw [run_zero_of_running runs] at same ⊢
        exact Or.inr ⟨tape, same, relaxes⟩
      · rw [run_of_not_running runs] at same ⊢
        exact Or.inr ⟨tape, same, relaxes⟩
  | succ budget inductionHypothesis =>
      rw [run_succ_right budget machine, run_succ_right budget (machine.onTape tape)]
      rcases inductionHypothesis with ⟨failure, failed, isCause⟩ | ⟨moved, same, still⟩
      · rw [run_of_not_running ((coherent.run budget).not_running_of_failure? failed)]
        exact Or.inl ⟨failure, failed, isCause⟩
      · rw [same]
        rcases run_one_onTape_cases (machine.settled_run budget) still with
          ⟨-, failed⟩ | follows
        · rw [failed]
          exact Or.inl ⟨_, rfl, rfl⟩
        · exact Or.inr follows

/-- A run that does not fail for the cause comes to the same on the looser tape. -/
theorem runWithin?_onTape
    {fuel : Nat}
    {budget : Option Int}
    {ended : Machine}
    (coherent : machine.Coherent)
    (relaxes : machine.tape.Relaxes cause tape)
    (ends : machine.runWithin? fuel budget = some ended)
    (otherwise : ∀ failure, ended.failure? = some failure → failure.cause ≠ cause) :
    ∃ moved, (machine.onTape tape).runWithin? fuel budget = some (ended.onTape moved) ∧
      ended.tape.Relaxes cause moved := by
  have follows (steps : Nat) (led : machine.run steps = ended) :
      ∃ moved, (machine.onTape tape).run steps = ended.onTape moved ∧
        ended.tape.Relaxes cause moved := by
    rcases run_onTape_cases coherent relaxes steps with ⟨failure, failed, isCause⟩ | alike
    · rw [led] at failed
      exact absurd isCause (otherwise failure failed)
    · rwa [led] at alike
  cases budget with
  | some limit =>
      obtain ⟨moved, same, still⟩ := follows limit.toNat (Option.some.inj ends)
      exact ⟨moved, congrArg some same, still⟩
  | none =>
      simp only [runWithin?, runToStop?] at ends
      split_ifs at ends with unfinished
      have led := Option.some.inj ends
      obtain ⟨moved, same, still⟩ := follows fuel led
      rw [led] at unfinished
      refine ⟨moved, ?_, still⟩
      simp only [runWithin?, runToStop?, same]
      exact if_neg unfinished

/-- Up to a failure for the cause, the machine on the looser tape has come just as far. -/
theorem exists_run_onTape_of_failure
    {budget : Nat}
    {failure : Failure}
    (coherent : machine.Coherent)
    (runs : machine.running)
    (relaxes : machine.tape.Relaxes cause tape)
    (failed : (machine.run budget).failure? = some failure)
    (isCause : failure.cause = cause) :
    ∃ fewer moved, (machine.run budget).cycles = machine.cycles + fewer ∧
      (machine.run fewer).running ∧ machine.run budget = (machine.run fewer).fail cause ∧
      (machine.onTape tape).run fewer = (machine.run fewer).onTape moved ∧
      (machine.run fewer).tape.Relaxes cause moved := by
  obtain ⟨fewer, stillRuns, atFailure⟩ := exists_run_eq_fail coherent runs failed
  rw [isCause] at atFailure
  rcases run_onTape_cases coherent relaxes fewer with
    ⟨other, failedBefore, -⟩ | ⟨moved, same, still⟩
  · exact absurd stillRuns ((coherent.run fewer).not_running_of_failure? failedBefore)
  · refine ⟨fewer, moved, ?_, stillRuns, atFailure, same, still⟩
    rw [atFailure]
    exact cycles_run_of_running coherent stillRuns

theorem outcome_of_running
    (coherent : machine.Coherent)
    (runs : machine.running) :
    machine.outcome =
      { output := machine.output
        cycles := machine.cycles
        position := machine.position
        hitLimit := true } := by
  simp only [outcome, coherent.failure?_of_running runs, runs, Option.map_none]

end Following
end Machine

namespace Settings

/--
The three ways of addressing agree until one of them has to fail.  A run that does not end beyond
the last cell of a bounded tape has the same outcome and the same cells on a growable tape, and a
run without a diagnostic on a growable tape has them on a sparse tape without a modulus.  A run that
does end beyond the last cell has come as far on a growable tape when as many cycles are allowed:
there it is stopped by its budget, at the same position, with the same output and cells.  A text
that is rejected is rejected whatever the addressing is.
-/
theorem addressing_policies_agree
    (settings : Settings)
    (code : String)
    (source : Source)
    (sink : Sink)
    (fuel : Nat)
    (given : Option Int) :
    let bounded := { settings with addressing := .bounded }
    let growable := { settings with addressing := .growable }
    let sparse := { settings with addressing := .sparse, modulus := none }
    let budget := settings.budget given
    (∀ rejection, Program.parse code = .error rejection →
      bounded.run? fuel given code source sink = some (.ofRejection rejection sink) ∧
        growable.run? fuel given code source sink = some (.ofRejection rejection sink) ∧
        sparse.run? fuel given code source sink = some (.ofRejection rejection sink)) ∧
      ∀ program, Program.parse code = .ok program →
        (∀ ended,
          (bounded.launch program source sink).runWithin? fuel budget = some ended →
          (∀ failure, ended.failure? = some failure → failure.cause ≠ .overflow) →
          ∃ other, (growable.launch program source sink).runWithin? fuel budget = some other ∧
            other.outcome = ended.outcome ∧ other.tape.touched = ended.tape.touched) ∧
        (∀ ended,
          (growable.launch program source sink).runWithin? fuel budget = some ended →
          ended.outcome.diagnostic = none →
          ∃ other, (sparse.launch program source sink).runWithin? fuel budget = some other ∧
            other.outcome = ended.outcome ∧ other.tape.touched = ended.tape.touched) ∧
        (∀ ended failure,
          (bounded.launch program source sink).runWithin? fuel budget = some ended →
          ended.failure? = some failure → failure.cause = .overflow →
          ∃ other,
            (growable.launch program source sink).runWithin? fuel (some ended.cycles) =
                some other ∧
              other.outcome = { ended.outcome with diagnostic := none, hitLimit := true } ∧
              other.tape.touched = ended.tape.touched) := by
  intro bounded growable sparse budget
  refine ⟨fun rejection rejected => ⟨?_, ?_, ?_⟩, fun program _ => ⟨?_, ?_, ?_⟩⟩
  · exact run?_of_rejected rejected bounded fuel given source sink
  · exact run?_of_rejected rejected growable fuel given source sink
  · exact run?_of_rejected rejected sparse fuel given source sink
  · intro ended ends otherwise
    have relaxes : (bounded.launch program source sink).tape.Relaxes .overflow
        growable.newTape := ⟨.growable _ _, rfl⟩
    obtain ⟨moved, follows, still⟩ :=
      Machine.runWithin?_onTape (bounded.launch_coherent program source sink) relaxes ends otherwise
    exact ⟨_, follows, rfl, still.touched_eq⟩
  · intro ended ends undiagnosed
    have relaxes : (growable.launch program source sink).tape.Relaxes .underflow
        sparse.newTape := ⟨.sparse _, rfl⟩
    have otherwise (failure : Failure) (failed : ended.failure? = some failure) :
        failure.cause ≠ .underflow := by
      simp only [Machine.outcome, failed, Option.map_some] at undiagnosed
      cases undiagnosed
    obtain ⟨moved, follows, still⟩ :=
      Machine.runWithin?_onTape (growable.launch_coherent program source sink) relaxes ends
        otherwise
    exact ⟨_, follows, rfl, still.touched_eq⟩
  · intro ended failure ends failed isOverflow
    have relaxes : (bounded.launch program source sink).tape.Relaxes .overflow
        growable.newTape := ⟨.growable _ _, rfl⟩
    have coherent := bounded.launch_coherent program source sink
    obtain ⟨steps, rfl⟩ := Machine.exists_eq_run_of_runWithin? ends
    obtain ⟨fewer, moved, cycles, stillRuns, atFailure, follows, still⟩ :=
      Machine.exists_run_onTape_of_failure coherent rfl relaxes failed isOverflow
    rw [show (bounded.launch program source sink).cycles = 0 from rfl, Nat.zero_add] at cycles
    refine ⟨((bounded.launch program source sink).run fewer).onTape moved, ?_, ?_, ?_⟩
    · rw [cycles]
      exact congrArg some follows
    · rw [atFailure]
      have still : (((bounded.launch program source sink).run fewer).onTape moved).Coherent :=
        coherent.run fewer
      exact Machine.outcome_of_running still stillRuns
    · rw [atFailure]
      exact still.touched_eq

/-- A move off a tape of one cell, after one cycle: a growable tape has come as far by then. -/
theorem addressing_policies_agree_at_right_edge :
    ∃ program other, Program.parse "+>" = .ok program ∧
      (({ addressing := .growable } : Settings).launch program .closed .absent).runWithin? 0
          (some 1) = some other ∧
        other.outcome.hitLimit ∧ other.outcome.cycles = 1 ∧ other.outcome.position = 1 := by
  let settings : Settings := { tapeSize := ⟨1, by decide⟩ }
  let program : Program := ⟨#['+', '>'], .empty, rfl⟩
  let start := settings.launch program .closed .absent
  let raised := start.perform .increment
  have raisedRuns : raised.running := rfl
  have ended : start.runWithin? 0 (some 2) = some (raised.fail .overflow) := by
    change some (start.run (1 + (1 + 0))) = _
    rw [Machine.run_of_command? rfl (show start.command? = some .increment from rfl),
      Machine.run_of_command? raisedRuns (show raised.command? = some .moveRight from rfl)]
    rfl
  obtain ⟨-, accepted⟩ := addressing_policies_agree settings "+>" .closed .absent 0 (some 2)
  obtain ⟨-, -, overflows⟩ := accepted program rfl
  obtain ⟨other, follows, outcome, -⟩ := overflows _ _ ended rfl rfl
  refine ⟨program, other, rfl, follows, ?_⟩
  rw [outcome]
  exact ⟨rfl, rfl, rfl⟩

end Settings
end TapeMachine

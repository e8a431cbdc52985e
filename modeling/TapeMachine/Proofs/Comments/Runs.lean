import TapeMachine.Proofs.Comments.Matching
import TapeMachine.Proofs.Machine.Dispatch
import TapeMachine.Settings.Run

/-!
# Comments are inert

Two programs with the same sequence of commands run alike.  Whenever the runs have taken up equally
many commands, either both machines stand at the same command, or both have finished at the end of
their programs, or both have failed at the same command.  Apart from the program and the position
there is nothing in which they differ.

A command does not look at the text: its effect does not depend on the program or the position, and
the partners of its brackets are the same commands.  Behind the same command there come comments,
and then the same command again, or in both programs none.
-/

namespace TapeMachine
namespace Program

open Command (SamePlace StandsAt sequence)

/-- Two positions are at the same command of two programs, or each is at the end of its program. -/
def Corresponds (left right : Program) (position other : Nat) : Prop :=
  SamePlace left.code.toList right.code.toList position other ∨
    (position = left.length ∧ other = right.length)

theorem command?_of_symbol
    {program : Program}
    {position : Nat}
    {command : Command}
    (found : program.code.toList[position]? = some command.symbol) :
    program.command? position = some command := by
  rw [Array.getElem?_toList] at found
  rw [command?, found, Option.bind_some, Command.ofChar?_symbol]

theorem lt_length_of_standsAt
    {program : Program}
    {number position : Nat}
    (stands : StandsAt program.code.toList number position) :
    position < program.length := by
  obtain ⟨command, -, found⟩ := stands.getElem?_eq
  exact lt_length_of_command? (command?_of_symbol found)

/-- From a position on, the next command is the first one that has not come before, if any. -/
theorem nextCommand_cases
    {program : Program}
    {done : List Char}
    (rest : List Char)
    (split : program.code.toList = done ++ rest) :
    (sequence rest = [] ∧ program.nextCommand done.length = program.length) ∨
      (sequence rest ≠ [] ∧
        StandsAt program.code.toList (sequence done).length
          (program.nextCommand done.length)) := by
  induction rest generalizing done with
  | nil =>
      have atEnd : done.length = program.length := by
        rw [length, ← Array.length_toList, split, List.append_nil]
      rw [nextCommand_of_length_le (Nat.le_of_eq atEnd.symm)]
      exact Or.inl ⟨Command.sequence_nil, atEnd⟩
  | cons character rest inductionHypothesis =>
      have here : program.code.toList[done.length]? = some character := by
        rw [split, List.getElem?_append_right (Nat.le_refl _), Nat.sub_self]
        rfl
      cases meaning : Command.ofChar? character with
      | none =>
          have inside : done.length < program.length := by
            rw [length, ← Array.length_toList, split, List.length_append, List.length_cons]
            omega
          have comment : program.command? done.length = none := by
            rw [Array.getElem?_toList] at here
            rw [command?, here, Option.bind_some, meaning]
          have longer : program.code.toList = (done ++ [character]) ++ rest := by simp [split]
          have further := inductionHypothesis longer
          rw [Command.sequence_append, Command.sequence_comment meaning, Command.sequence_nil,
            List.append_nil, List.length_append, List.length_singleton] at further
          rw [nextCommand_of_comment inside comment, Command.sequence_comment meaning]
          exact further
      | some command =>
          obtain rfl := Command.ofChar?_eq_some_iff.mp meaning
          rw [nextCommand_of_command? (command?_of_symbol here), Command.sequence_symbol]
          exact Or.inr ⟨List.cons_ne_nil _ _, done, command, rest, split, rfl, rfl⟩

section SameCommands

variable {left right : Program} {position other : Nat}

/-- The same command is found at the same place of both programs. -/
theorem exists_command?_of_samePlace
    (same : sequence left.code.toList = sequence right.code.toList)
    (place : SamePlace left.code.toList right.code.toList position other) :
    ∃ command, left.command? position = some command ∧ right.command? other = some command := by
  obtain ⟨number, leftStands, rightStands⟩ := place
  obtain ⟨command, numbered, found⟩ := leftStands.getElem?_eq
  obtain ⟨commandToo, numberedToo, foundToo⟩ := rightStands.getElem?_eq
  rw [same, numberedToo] at numbered
  obtain rfl := Option.some.inj numbered
  exact ⟨commandToo, command?_of_symbol found, command?_of_symbol foundToo⟩

/-- After equally many commands, what comes next corresponds. -/
theorem corresponds_nextCommand
    {done rest doneToo restToo : List Char}
    (same : sequence left.code.toList = sequence right.code.toList)
    (split : left.code.toList = done ++ rest)
    (splitToo : right.code.toList = doneToo ++ restToo)
    (equallyMany : (sequence done).length = (sequence doneToo).length) :
    left.Corresponds right (left.nextCommand done.length)
      (right.nextCommand doneToo.length) := by
  have sameRest : sequence rest = sequence restToo := by
    rw [split, splitToo, Command.sequence_append, Command.sequence_append] at same
    exact (List.append_inj same equallyMany).2
  rcases nextCommand_cases rest split with ⟨noMore, atEnd⟩ | ⟨more, stands⟩
  · rcases nextCommand_cases restToo splitToo with ⟨-, atEndToo⟩ | ⟨moreToo, -⟩
    · exact Or.inr ⟨atEnd, atEndToo⟩
    · exact absurd (sameRest.symm.trans noMore) moreToo
  · rcases nextCommand_cases restToo splitToo with ⟨noMoreToo, -⟩ | ⟨-, standsToo⟩
    · exact absurd (sameRest.trans noMoreToo) more
    · rw [← equallyMany] at standsToo
      exact Or.inl ⟨_, stands, standsToo⟩

theorem corresponds_nextCommand_zero
    (same : sequence left.code.toList = sequence right.code.toList) :
    left.Corresponds right (left.nextCommand 0) (right.nextCommand 0) :=
  corresponds_nextCommand same (List.nil_append _).symm (List.nil_append _).symm rfl

theorem corresponds_nextCommand_succ
    (same : sequence left.code.toList = sequence right.code.toList)
    (place : SamePlace left.code.toList right.code.toList position other) :
    left.Corresponds right (left.nextCommand (position + 1)) (right.nextCommand (other + 1)) := by
  obtain ⟨_, ⟨before, command, after, split, rfl, rfl⟩,
    ⟨beforeToo, commandToo, afterToo, splitToo, rfl, equallyMany⟩⟩ := place
  have through : left.code.toList = (before ++ [command.symbol]) ++ after := by simp [split]
  have throughToo : right.code.toList = (beforeToo ++ [commandToo.symbol]) ++ afterToo := by
    simp [splitToo]
  have behind := corresponds_nextCommand same through throughToo (by simp [equallyMany])
  simpa only [List.length_append, List.length_singleton] using behind

/-- The brackets of both programs have the same partners. -/
theorem samePlace_partner
    (same : sequence left.code.toList = sequence right.code.toList)
    (place : SamePlace left.code.toList right.code.toList position other) :
    SamePlace left.code.toList right.code.toList ((left.partner? position).getD position)
      ((right.partner? other).getD other) := by
  rcases Brackets.matchLoops_cases_of_sequence_eq same with
    ⟨plain, table, tableToo, matched, matchedToo, mirrors, mirrorsToo⟩ | ⟨_, _, _, rejected, -⟩
  · obtain rfl : left.loops = table := Except.ok.inj (left.matched.symm.trans matched)
    obtain rfl : right.loops = tableToo := Except.ok.inj (right.matched.symm.trans matchedToo)
    obtain ⟨number, stands, standsToo⟩ := place
    unfold partner?
    rcases mirrors number position stands with ⟨alone, absent⟩ |
      ⟨partner, target, paired, found, targetStands⟩
    · rcases mirrorsToo number other standsToo with ⟨-, absentToo⟩ | ⟨_, _, pairedToo, -⟩
      · rw [absent, absentToo]
        exact ⟨number, stands, standsToo⟩
      · rw [alone] at pairedToo
        cases pairedToo
    · rcases mirrorsToo number other standsToo with ⟨aloneToo, -⟩ |
        ⟨partnerToo, targetToo, pairedToo, foundToo, targetStandsToo⟩
      · rw [aloneToo] at paired
        cases paired
      · rw [paired] at pairedToo
        obtain rfl : partner = partnerToo := Int.ofNat.inj (Option.some.inj pairedToo)
        rw [found, foundToo]
        exact ⟨partner, targetStands, targetStandsToo⟩
  · rw [left.matched] at rejected
    cases rejected

end SameCommands
end Program

namespace Machine

open Command (SamePlace sequence)

/-- A machine in another program, at a position there. -/
def transplant (machine : Machine) (program : Program) (position : Nat) : Machine :=
  { machine with program := program, position := position }

section Transplanting

variable {machine : Machine} {program : Program} {position : Nat}

theorem receive_transplant :
    (machine.transplant program position).receive =
      machine.receive.transplant program position := by
  obtain ⟨sameFeed, sameQueue, sameExhausted⟩ :=
    fill_congr (machine.transplant program position) machine rfl rfl rfl
  rw [receive_eq, receive_eq machine, sameFeed, sameQueue, sameExhausted,
    received?_congr (machine.transplant program position) machine rfl rfl rfl rfl]
  rfl

theorem shift_transplant (distance : Int) :
    (machine.transplant program position).shift distance =
      (machine.shift distance).map (·.transplant program position) := by
  have sameMove : (machine.transplant program position).tape.move
      (machine.transplant program position).cursor distance =
        machine.tape.move machine.cursor distance := rfl
  cases moved : machine.tape.move machine.cursor distance with
  | ok reached =>
      obtain ⟨cursor, tape⟩ := reached
      rw [shift_of_ok moved, shift_of_ok (sameMove.trans moved)]
      rfl
  | error fault =>
      rw [shift_of_error moved, shift_of_error (sameMove.trans moved)]
      rfl

/-- The effect of a command does not depend on the program or the position. -/
theorem effect_transplant (command : Command) :
    (machine.transplant program position).effect command =
      (machine.effect command).map (·.transplant program position) := by
  cases command with
  | moveLeft => exact shift_transplant (-1)
  | moveRight => exact shift_transplant 1
  | input => exact congrArg Except.ok receive_transplant
  | increment | decrement | output | loopOpen | loopClose => rfl

end Transplanting

/--
Settled machines of two programs that differ in nothing but the program and the position: both are
about to take up the same command, or they have finished, or they have failed at the same command.
-/
inductive Alike (left right : Program) : Machine → Machine → Prop
  | running
      {machine : Machine}
      {other : Nat}
      (program : machine.program = left)
      (runs : machine.running)
      (clean : machine.failure? = none)
      (place : SamePlace left.code.toList right.code.toList machine.position other) :
      Alike left right machine (machine.transplant right other)
  | finished
      {machine : Machine}
      (atEnd : machine.position = left.length)
      (status : machine.status = .finished)
      (clean : machine.failure? = none) :
      Alike left right machine (machine.transplant right right.length)
  | failed
      {machine : Machine}
      {other : Nat}
      (cause : FailureCause)
      (place : SamePlace left.code.toList right.code.toList machine.position other) :
      Alike left right (machine.fail cause) ((machine.transplant right other).fail cause)

theorem skipComments_of_lt
    {machine : Machine}
    (inside : machine.program.nextCommand machine.position < machine.program.length) :
    machine.skipComments =
      { machine with position := machine.program.nextCommand machine.position } := by
  rw [skipComments, if_neg (Nat.not_le.mpr inside)]

theorem skipComments_of_eq
    {machine : Machine}
    (atEnd : machine.program.nextCommand machine.position = machine.program.length) :
    machine.skipComments =
      { machine with position := machine.program.length, status := .finished } := by
  rw [skipComments, atEnd, if_pos (Nat.le_refl _)]

section Following

variable {left right : Program} {machine : Machine} {position other : Nat}

/-- Machines before corresponding commands are alike once they have skipped the comments. -/
theorem alike_skipComments
    (program : machine.program = left)
    (runs : machine.running)
    (clean : machine.failure? = none)
    (corresponds : left.Corresponds right (left.nextCommand machine.position)
      (right.nextCommand other)) :
    Alike left right machine.skipComments (machine.transplant right other).skipComments := by
  subst program
  rcases corresponds with place | ⟨atEnd, atEndToo⟩
  · obtain ⟨number, stands, standsToo⟩ := place
    have inside := Program.lt_length_of_standsAt stands
    have insideToo := Program.lt_length_of_standsAt standsToo
    rw [skipComments_of_lt inside, skipComments_of_lt insideToo]
    exact Alike.running rfl runs clean ⟨number, stands, standsToo⟩
  · rw [skipComments_of_eq atEnd, skipComments_of_eq atEndToo]
    exact Alike.finished rfl rfl clean

/-- The targets of a command in both programs are the same command. -/
theorem samePlace_target
    (same : sequence left.code.toList = sequence right.code.toList)
    (program : machine.program = left)
    (place : SamePlace left.code.toList right.code.toList machine.position other)
    (command : Command) :
    SamePlace left.code.toList right.code.toList (machine.target command)
      ((machine.transplant right other).target command) := by
  have jumps (taken : Bool) :
      SamePlace left.code.toList right.code.toList (machine.landing taken)
        ((machine.transplant right other).landing taken) := by
    cases taken with
    | true =>
        rw [← program] at same place ⊢
        exact Program.samePlace_partner same place
    | false => exact place
  cases command with
  | loopOpen => exact jumps (machine.cell == 0)
  | loopClose => exact jumps (machine.cell != 0)
  | increment | decrement | moveLeft | moveRight | output | input => exact place

/-- One more step keeps machines alike. -/
theorem Alike.run_one
    {counterpart : Machine}
    (same : sequence left.code.toList = sequence right.code.toList)
    (alike : Alike left right machine counterpart) :
    Alike left right (machine.run 1) (counterpart.run 1) := by
  cases alike with
  | @running _ other program runs clean place =>
      subst program
      have runsToo : (machine.transplant right other).running := runs
      obtain ⟨command, found, foundToo⟩ := Program.exists_command?_of_samePlace same place
      have effectToo := @effect_transplant machine right other command
      cases effect : machine.effect command with
      | ok changed =>
          have control := sameControl_effect effect
          rw [effect] at effectToo
          rw [run_one_of_ok runs found effect, run_one_of_ok runsToo foundToo effectToo]
          exact alike_skipComments control.program (control.running runs)
            (control.failure?.trans clean) (Program.corresponds_nextCommand_succ same
              (samePlace_target same rfl place command))
      | error cause =>
          rw [effect] at effectToo
          rw [run_one_of_error runs found effect, run_one_of_error runsToo foundToo effectToo]
          exact Alike.failed cause place
  | finished atEnd status clean =>
      have stopped : ¬ machine.running := by simp [Machine.running, status]
      have stoppedToo : ¬ (machine.transplant right right.length).running := stopped
      rw [run_of_not_running stopped, run_of_not_running stoppedToo]
      exact Alike.finished atEnd status clean
  | @failed machine other cause place =>
      rw [run_of_not_running (not_running_fail _ cause),
        run_of_not_running (not_running_fail _ cause)]
      exact Alike.failed cause place

/-- Machines that start alike in both programs stay alike for every budget. -/
theorem alike_run
    (same : sequence left.code.toList = sequence right.code.toList)
    (program : machine.program = left)
    (runs : machine.running)
    (clean : machine.failure? = none)
    (atStart : machine.position = 0)
    (budget : Nat) :
    Alike left right (machine.run budget) ((machine.transplant right 0).run budget) := by
  induction budget with
  | zero =>
      have runsToo : (machine.transplant right 0).running := runs
      rw [run_zero_of_running runs, run_zero_of_running runsToo]
      apply alike_skipComments program runs clean
      rw [atStart]
      exact Program.corresponds_nextCommand_zero same
  | succ budget inductionHypothesis =>
      rw [run_succ_right budget machine, run_succ_right budget (machine.transplant right 0)]
      exact inductionHypothesis.run_one same

end Following

/-! ## What runs come to -/

/-- The same command of two texts has failed for the same cause after equally many cycles. -/
structure SameFailure (left right : List Char) (failure counterpart : Failure) : Prop where
  /-- The causes are equal. -/
  cause : failure.cause = counterpart.cause
  /-- The cycles are equally many. -/
  cycles : failure.cycles = counterpart.cycles
  /-- The positions and the offsets are those of the same command. -/
  place : ∃ position other : Nat,
    failure.position = position ∧ failure.location.offset = position ∧
      counterpart.position = other ∧ counterpart.location.offset = other ∧
      SamePlace left right position other

/-- Runs of two programs have come to the same, apart from where the commands stand. -/
structure SameEnd (left right : Program) (ended counterpart : Machine) : Prop where
  /-- The same bytes have been written. -/
  output : ended.outcome.output = counterpart.outcome.output
  /-- Equally many commands have been completed. -/
  cycles : ended.outcome.cycles = counterpart.outcome.cycles
  /-- Both were stopped by their budget, or neither was. -/
  hitLimit : ended.outcome.hitLimit = counterpart.outcome.hitLimit
  /-- The tapes are the same. -/
  tape : ended.tape = counterpart.tape
  /-- The cursors are at the same cell. -/
  cursor : ended.cursor = counterpart.cursor
  /-- The positions are at the same command, or at the ends of the programs. -/
  position : left.Corresponds right ended.outcome.position counterpart.outcome.position
  /-- Neither has a diagnostic, or both have one, for the same command. -/
  diagnostic :
    (ended.outcome.diagnostic = none ∧ counterpart.outcome.diagnostic = none) ∨
      ∃ failure failureToo, ended.outcome.diagnostic = some (.failed failure) ∧
        counterpart.outcome.diagnostic = some (.failed failureToo) ∧
        SameFailure left.code.toList right.code.toList failure failureToo

namespace Alike

variable {left right : Program} {machine counterpart : Machine}

theorem running_eq (alike : Alike left right machine counterpart) :
    machine.running = counterpart.running := by
  cases alike with
  | running program runs clean place => rfl
  | finished atEnd status clean => rfl
  | failed cause place => rfl

theorem sameEnd (alike : Alike left right machine counterpart) :
    SameEnd left right machine counterpart := by
  cases alike with
  | running program runs clean place =>
      have undiagnosed : machine.outcome.diagnostic = none := by
        rw [outcome, clean, Option.map_none]
      exact ⟨rfl, rfl, rfl, rfl, rfl, Or.inl place, Or.inl ⟨undiagnosed, undiagnosed⟩⟩
  | finished atEnd status clean =>
      have undiagnosed : machine.outcome.diagnostic = none := by
        rw [outcome, clean, Option.map_none]
      exact ⟨rfl, rfl, rfl, rfl, rfl, Or.inr ⟨atEnd, rfl⟩, Or.inl ⟨undiagnosed, undiagnosed⟩⟩
  | failed cause place =>
      exact ⟨rfl, rfl, rfl, rfl, rfl, Or.inl place,
        Or.inr ⟨_, _, rfl, rfl, rfl, rfl, _, _, rfl, rfl, rfl, rfl, place⟩⟩

end Alike

/-- Machines that stay alike have alike answers, with a limit or without one, or both have none. -/
theorem runWithin?_of_alike
    {left right : Program}
    {machine counterpart : Machine}
    (alike : ∀ budget, Alike left right (machine.run budget) (counterpart.run budget))
    (fuel : Nat)
    (budget : Option Int) :
    (machine.runWithin? fuel budget = none ∧ counterpart.runWithin? fuel budget = none) ∨
      ∃ ended endedToo, machine.runWithin? fuel budget = some ended ∧
        counterpart.runWithin? fuel budget = some endedToo ∧ Alike left right ended endedToo := by
  cases budget with
  | some limit => exact Or.inr ⟨_, _, rfl, rfl, alike limit.toNat⟩
  | none =>
      have sameRunning := (alike fuel).running_eq
      simp only [runWithin?, runToStop?, ← sameRunning]
      by_cases runs : (machine.run fuel).running
      · rw [if_pos runs, if_pos runs]
        exact Or.inl ⟨rfl, rfl⟩
      · rw [if_neg runs, if_neg runs]
        exact Or.inr ⟨_, _, rfl, rfl, alike fuel⟩

end Machine

theorem Program.code_of_parse
    {text : String}
    {program : Program}
    (accepted : Program.parse text = .ok program) :
    program.code.toList = text.toList := by
  simp only [Program.parse] at accepted
  split at accepted
  · cases accepted
    rfl
  · cases accepted

namespace Settings

open Command (SamePlace sequence)

/--
Comments are inert.  Of two texts with the same commands both are rejected or neither is, and then
for the same cause and the same command.  When they are accepted, then under all settings, on every
input and within every budget or without one, their runs come to the same.
-/
theorem comments_are_inert
    {left right : String}
    (same : sequence left.toList = sequence right.toList) :
    ((∃ rejection, matchLoops left.toList = .error rejection) ↔
      ∃ rejection, matchLoops right.toList = .error rejection) ∧
    (∀ rejection rejectionToo,
      matchLoops left.toList = .error rejection →
      matchLoops right.toList = .error rejectionToo →
      rejection.cause = rejectionToo.cause ∧
        ∃ position other : Nat, rejection.location.offset = position ∧
          rejectionToo.location.offset = other ∧
          SamePlace left.toList right.toList position other) ∧
    ∀ program programToo,
      Program.parse left = .ok program → Program.parse right = .ok programToo →
      ∀ (settings : Settings) (source : Source) (sink : Sink) (fuel : Nat) (given : Option Int),
        let machine := settings.launch program source sink
        let machineToo := settings.launch programToo source sink
        let budget := settings.budget given
        (machine.runWithin? fuel budget = none ∧ machineToo.runWithin? fuel budget = none) ∨
          ∃ ended endedToo, machine.runWithin? fuel budget = some ended ∧
            machineToo.runWithin? fuel budget = some endedToo ∧
            Machine.SameEnd program programToo ended endedToo := by
  refine ⟨?_, ?_, ?_⟩
  · rcases Brackets.matchLoops_cases_of_sequence_eq same with
      ⟨_, table, tableToo, accepted, acceptedToo, -⟩ | ⟨_, _, _, rejected, rejectedToo, -⟩
    · simp only [accepted, acceptedToo, reduceCtorEq]
    · simp only [rejected, rejectedToo, Except.error.injEq, exists_eq']
  · intro rejection rejectionToo found foundToo
    rcases Brackets.matchLoops_cases_of_sequence_eq same with
      ⟨_, _, _, accepted, -⟩ | ⟨position, other, cause, rejected, rejectedToo, place⟩
    · rw [accepted] at found
      cases found
    · rw [rejected] at found
      rw [rejectedToo] at foundToo
      cases found
      cases foundToo
      exact ⟨rfl, position, other, rfl, rfl, place⟩
  · intro program programToo accepted acceptedToo settings source sink fuel given machine
      machineToo budget
    rw [← Program.code_of_parse accepted, ← Program.code_of_parse acceptedToo] at same
    have alike := Machine.alike_run same (show machine.program = program from rfl) rfl rfl rfl
    rcases Machine.runWithin?_of_alike alike fuel budget with unanswered |
      ⟨ended, endedToo, ends, endsToo, alikeEnds⟩
    · exact Or.inl unanswered
    · exact Or.inr ⟨ended, endedToo, ends, endsToo, alikeEnds.sameEnd⟩

/-- A comment before a move off the left edge: both runs fail at the move. -/
theorem comments_are_inert_before_move :
    ∃ program programToo ended endedToo,
      Program.parse "a<" = .ok program ∧ Program.parse "<" = .ok programToo ∧
      (({} : Settings).launch program .closed .absent).runWithin? 0 (some 1) = some ended ∧
      (({} : Settings).launch programToo .closed .absent).runWithin? 0 (some 1) =
        some endedToo ∧
      Machine.SameEnd program programToo ended endedToo := by
  obtain ⟨-, -, runs⟩ :=
    comments_are_inert (show sequence "a<".toList = sequence "<".toList from rfl)
  rcases runs ⟨#['a', '<'], .empty, rfl⟩ ⟨#['<'], .empty, rfl⟩ rfl rfl {} .closed .absent 0 (some 1)
    with ⟨unanswered, -⟩ | ⟨ended, endedToo, ends, endsToo, same⟩
  · cases unanswered
  · exact ⟨_, _, ended, endedToo, rfl, rfl, ends, endsToo, same⟩

end Settings
end TapeMachine

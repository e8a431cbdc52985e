import TapeMachine.Proofs.Machine.History
import TapeMachine.Proofs.Machine.Lockstep

/-!
# Reading

Of everything that a machine does only the command to read touches its input.  It stores the byte
that is pending next, or leaves it to the policy when none is pending, and what is pending moves up
by one.  So the input of a machine matters only through the bytes that are pending: a machine that
is fed in another way, and would read the same bytes, does the same.

Along a run the number of reads says how far the pending input has moved, and which byte each of
the reads has stored.
-/

namespace TapeMachine

/-- What reading stores when no byte is left: nothing, or zero. -/
def EofPolicy.supply : EofPolicy → Option UInt8
  | .unchanged => none
  | .zero => some 0

namespace Machine

/-! ## One read -/

/-- Reading stores the byte that is pending next, or what the policy supplies. -/
theorem received?_eq (machine : Machine) :
    machine.received? = (machine.pending 0).or machine.eof.supply := by
  rw [received?, ← pending_fill]
  cases queue : machine.fill.queue with
  | cons byte rest => simp [pending, queue]
  | nil =>
      have exhausted := exhausted_of_queue_fill_eq_nil queue
      have nothing : machine.fill.pending 0 = none := by simp [pending, queue, exhausted]
      rw [nothing, Option.none_or]
      cases machine.eof <;> rfl

/-- Reading moves the pending input up by one. -/
theorem pending_receive (machine : Machine) (index : Nat) :
    machine.receive.pending index = machine.pending (index + 1) := by
  rw [← pending_fill machine, receive_eq]
  cases queue : machine.fill.queue with
  | cons byte rest => simp [pending, queue]
  | nil =>
      have exhausted := exhausted_of_queue_fill_eq_nil queue
      simp [pending, queue, exhausted]

/-- The current cell after reading. -/
theorem cell_perform_input (machine : Machine) :
    (machine.perform .input).cell = machine.received?.getD machine.cell := by
  change machine.receive.cell = _
  rw [receive_eq]
  cases machine.received? with
  | none => rfl
  | some byte => exact Cells.get_set_self _ _ byte

/-! ## Everything but reading -/

/-- A change that leaves the input as it is. -/
structure SameIntake (changed machine : Machine) : Prop where
  /-- The source has not been asked. -/
  feed : changed.feed = machine.feed
  /-- The same bytes wait. -/
  queue : changed.queue = machine.queue
  /-- The source is no more and no less exhausted. -/
  exhausted : changed.exhausted = machine.exhausted

theorem SameIntake.pending_eq
    {changed machine : Machine}
    (same : changed.SameIntake machine) :
    changed.pending = machine.pending := by
  funext index
  rw [pending, pending, same.feed, same.queue, same.exhausted]

/-- Only reading has an effect on the input. -/
theorem sameIntake_effect
    {machine changed : Machine}
    {command : Command}
    (notInput : command ≠ .input)
    (effect : machine.effect command = .ok changed) :
    changed.SameIntake machine := by
  cases command with
  | input => exact absurd rfl notInput
  | moveLeft | moveRight =>
      obtain ⟨cursor, tape, rfl⟩ := exists_of_shift_eq_ok effect
      exact ⟨rfl, rfl, rfl⟩
  | increment | decrement | output | loopOpen | loopClose =>
      cases effect
      exact ⟨rfl, rfl, rfl⟩

/-- A step that does not read leaves the input as it is. -/
theorem sameIntake_perform
    (machine : Machine)
    {command : Command}
    (notInput : command ≠ .input) :
    (machine.perform command).SameIntake machine := by
  rw [perform_eq]
  cases effect : machine.effect command with
  | ok changed =>
      have same := sameIntake_effect notInput effect
      exact ⟨same.feed, same.queue, same.exhausted⟩
  | error cause => exact ⟨rfl, rfl, rfl⟩

/-- As long as bytes wait, and once the source is exhausted, it is not asked. -/
theorem feed_step_of_waiting
    {machine : Machine}
    (waiting : machine.queue ≠ [] ∨ machine.exhausted) :
    machine.step.feed = machine.feed := by
  rcases step_cases machine with ⟨-, stepped⟩ | ⟨-, -, stepped⟩ | ⟨-, -, command, -, stepped⟩
  · rw [stepped]
  · rw [stepped]
    rfl
  · rw [stepped]
    by_cases isInput : command = .input
    · subst isInput
      change machine.skipComments.receive.feed = machine.feed
      rw [receive_eq]
      rcases fill_cases machine.skipComments with ⟨same, -⟩ | ⟨empty, notExhausted, -⟩ |
        ⟨empty, notExhausted, -⟩
      · rw [same]
        rfl
      · exact absurd waiting (not_or.mpr ⟨not_not_intro empty, notExhausted⟩)
      · exact absurd waiting (not_or.mpr ⟨not_not_intro empty, notExhausted⟩)
    · exact (sameIntake_perform _ isInput).feed

/-- A source that has said that it is exhausted stays so. -/
theorem exhausted_step
    {machine : Machine}
    (exhausted : machine.exhausted) :
    machine.step.exhausted := by
  rcases step_cases machine with ⟨-, stepped⟩ | ⟨-, -, stepped⟩ | ⟨-, -, command, -, stepped⟩
  · rwa [stepped]
  · rwa [stepped]
  · rw [stepped]
    by_cases isInput : command = .input
    · subst isInput
      change machine.skipComments.receive.exhausted
      rw [receive_eq]
      rcases fill_cases machine.skipComments with ⟨same, -⟩ | ⟨-, notExhausted, -⟩ |
        ⟨-, notExhausted, -⟩
      · rwa [same]
      · exact absurd exhausted notExhausted
      · exact absurd exhausted notExhausted
    · rw [(sameIntake_perform _ isInput).exhausted]
      exact exhausted

/-- Once the source is exhausted no calls make a machine ask it again. -/
theorem feed_of_exhausted
    {fuel : Nat}
    {calls : List Call}
    {machine last : Machine}
    (exhausted : machine.exhausted)
    (reached : machine.answerAll? fuel calls = some last) :
    last.feed = machine.feed := by
  let property (later : Machine) : Prop := later.exhausted ∧ later.feed = machine.feed
  have keptByStep (later : Machine) (holds : property later) : property later.step :=
    ⟨exhausted_step holds.1, (feed_step_of_waiting (Or.inr holds.1)).trans holds.2⟩
  have kept {later next : Machine} {call : Call} (holds : property later)
      (answered : later.answer? fuel call = some next) : property next := by
    rcases answer?_cases answered with rfl | rfl | ⟨budget, rfl⟩
    · exact keptByStep later holds
    · exact holds
    · exact run_induction keptByStep (fun _ holds => holds) holds budget
  have atEnd : property last := answerAll?_induction kept ⟨exhausted, rfl⟩ reached
  exact atEnd.2

/-! ## The reads of a run -/

/-- The turns in which a machine has read. -/
def reads (turns : List Turn) : List Turn :=
  turns.filter fun turn => turn.command = .input

/-- With one more step a machine leaves its input as it is, or it reads once. -/
theorem reads_succ_cases (machine : Machine) (budget : Nat) :
    (reads (machine.turns (budget + 1)) = reads (machine.turns budget) ∧
        (machine.run (budget + 1)).SameIntake (machine.run budget)) ∨
      ∃ standing, standing = machine.run budget ∧
        reads (machine.turns (budget + 1)) =
          reads (machine.turns budget) ++ [⟨.input, standing, standing.perform .input⟩] ∧
        (machine.run (budget + 1)).SameIntake standing.receive := by
  rw [turns_succ, run_succ_right, reads, List.filter_append]
  rcases (machine.settled_run budget).run_one_cases with ⟨stopped, same⟩ |
    ⟨runs, command, changed, found, effect, advanced⟩ |
    ⟨runs, command, cause, found, effect, failed⟩
  · rw [turn?_of_not_running stopped, same]
    exact Or.inl ⟨by simp [reads], rfl, rfl, rfl⟩
  · rw [turn?_of_command? runs found, advanced]
    by_cases isInput : command = .input
    · subst isInput
      cases effect
      exact Or.inr ⟨_, rfl, by simp [reads], rfl, rfl, rfl⟩
    · have same := sameIntake_effect isInput effect
      exact Or.inl ⟨by simp [reads, isInput], same.feed, same.queue, same.exhausted⟩
  · have notInput : command ≠ .input := by
      rintro rfl
      cases effect
    rw [turn?_of_command? runs found, failed]
    exact Or.inl ⟨by simp [reads, notInput], rfl, rfl, rfl⟩

theorem eof_run (machine : Machine) (budget : Nat) : (machine.run budget).eof = machine.eof := by
  induction budget with
  | zero =>
      obtain ⟨position, status, settled⟩ := machine.exists_run_zero_eq
      rw [settled]
  | succ budget inductionHypothesis =>
      rw [run_succ_right, ← inductionHypothesis]
      rcases (machine.settled_run budget).run_one_cases with ⟨-, same⟩ |
        ⟨-, command, changed, -, effect, advanced⟩ | ⟨-, -, cause, -, -, failed⟩
      · rw [same]
      · rw [advanced]
        exact (sameControl_effect effect).eof
      · rw [failed]
        rfl

/-- The pending input has moved up by one for each read. -/
theorem pending_run (machine : Machine) (budget index : Nat) :
    (machine.run budget).pending index =
      machine.pending (index + (reads (machine.turns budget)).length) := by
  induction budget generalizing index with
  | zero =>
      obtain ⟨position, status, settled⟩ := machine.exists_run_zero_eq
      rw [settled]
      rfl
  | succ budget inductionHypothesis =>
      rcases machine.reads_succ_cases budget with ⟨sameReads, same⟩ |
        ⟨_, rfl, oneMore, same⟩
      · rw [same.pending_eq, sameReads, inductionHypothesis]
      · rw [same.pending_eq, pending_receive, inductionHypothesis, oneMore, List.length_append,
          List.length_singleton, Nat.add_assoc, Nat.add_comm 1]

/-- Each read is a turn of a machine that a run has led to, and the reads before it are numbered. -/
theorem exists_of_getElem?_reads
    {machine : Machine}
    {budget index : Nat}
    {turn : Turn}
    (found : (reads (machine.turns budget))[index]? = some turn) :
    ∃ earlier, turn = ⟨.input, machine.run earlier, (machine.run earlier).perform .input⟩ ∧
      index = (reads (machine.turns earlier)).length := by
  induction budget with
  | zero => cases found
  | succ budget inductionHypothesis =>
      rcases machine.reads_succ_cases budget with ⟨sameReads, -⟩ | ⟨_, rfl, oneMore, -⟩
      · rw [sameReads] at found
        exact inductionHypothesis found
      · rw [oneMore, List.getElem?_append] at found
        split_ifs at found with earlier
        · exact inductionHypothesis found
        · rw [List.getElem?_singleton] at found
          split_ifs at found with isLast
          cases found
          exact ⟨budget, rfl, by omega⟩

/-- What each read receives: the pending bytes in order, and then what the policy supplies. -/
theorem received?_of_getElem?_reads
    {machine : Machine}
    {budget index : Nat}
    {turn : Turn}
    (found : (reads (machine.turns budget))[index]? = some turn) :
    turn.before.received? = (machine.pending index).or machine.eof.supply := by
  obtain ⟨earlier, rfl, rfl⟩ := exists_of_getElem?_reads found
  rw [received?_eq, eof_run, pending_run, Nat.zero_add]

/-- What each read has stored: the pending bytes in order, and then what the policy supplies. -/
theorem cell_of_getElem?_reads
    {machine : Machine}
    {budget index : Nat}
    {turn : Turn}
    (found : (reads (machine.turns budget))[index]? = some turn) :
    turn.after.cell =
      ((machine.pending index).or machine.eof.supply).getD turn.before.cell := by
  rw [← received?_of_getElem?_reads found]
  obtain ⟨earlier, rfl, -⟩ := exists_of_getElem?_reads found
  exact cell_perform_input _

/-! ## Fed in another way -/

/-- A machine with the input and the policy of another one. -/
def fedBy (machine input : Machine) : Machine :=
  { machine with
    eof := input.eof
    feed := input.feed
    queue := input.queue
    exhausted := input.exhausted }

/-- A machine is like another one that is fed in another way, but would read the same bytes. -/
structure ReadsLike (machine other : Machine) : Prop where
  /-- The machines differ in what they are fed by. -/
  fed : other = machine.fedBy other
  /-- The policies are the same. -/
  eof : other.eof = machine.eof
  /-- The same bytes are pending. -/
  pending : other.pending = machine.pending

section Feeding

variable {machine input : Machine}

theorem shift_fedBy (distance : Int) :
    (machine.fedBy input).shift distance = (machine.shift distance).map (·.fedBy input) :=
  shift_map (·.fedBy input) (fun _ _ _ => rfl) machine distance

/-- Except for reading, an effect does not depend on the input. -/
theorem effect_fedBy
    {command : Command}
    (notInput : command ≠ .input) :
    (machine.fedBy input).effect command = (machine.effect command).map (·.fedBy input) := by
  cases command with
  | input => exact absurd rfl notInput
  | moveLeft => exact shift_fedBy (-1)
  | moveRight => exact shift_fedBy 1
  | increment | decrement | output | loopOpen | loopClose => rfl

/-- Except for reading, a command fails on a machine fed in another way or has the same effect. -/
theorem effect_cases_of_fed
    {other : Machine}
    {command : Command}
    (fed : other = machine.fedBy other)
    (notInput : command ≠ .input) :
    (∃ cause, machine.effect command = .error cause ∧ other.effect command = .error cause) ∨
      ∃ changed, machine.effect command = .ok changed ∧
        other.effect command = .ok (changed.fedBy other) := by
  have otherEffect := @effect_fedBy machine other command notInput
  rw [← fed] at otherEffect
  cases effect : machine.effect command with
  | error cause =>
      rw [effect] at otherEffect
      exact Or.inl ⟨cause, rfl, otherEffect⟩
  | ok changed =>
      rw [effect] at otherEffect
      exact Or.inr ⟨changed, rfl, otherEffect⟩

/-- Reading depends on the input only through what is received. -/
theorem receive_fedBy
    (same : (machine.fedBy input).received? = machine.received?) :
    (machine.fedBy input).receive = machine.receive.fedBy (machine.fedBy input).receive := by
  rw [receive_eq, receive_eq machine, same]
  rfl

/-- Machines that would read the same bytes run in lockstep. -/
theorem lockstep_readsLike : Lockstep (fun _ => True) ReadsLike where
  abreast like := by
    rw [like.fed]
    exact ⟨rfl, rfl, rfl, rfl, rfl⟩
  steer like position cycles status failure? := by
    refine ⟨?_, like.eof, like.pending⟩
    rw [like.fed]
    rfl
  cell like _ := by
    rw [like.fed]
    rfl
  effect := by
    intro machine other command like _ _
    have fed := like.fed
    by_cases isInput : command = .input
    · subst isInput
      have same : (machine.fedBy other).received? = machine.received? := by
        rw [← fed, received?_eq, received?_eq, like.pending, like.eof]
      refine Or.inr ⟨machine.receive, other.receive, rfl, rfl, ?_, ?_, ?_⟩
      · rw [fed]
        exact receive_fedBy same
      · rw [(sameControl_receive _).eof, (sameControl_receive _).eof]
        exact like.eof
      · funext index
        rw [pending_receive, pending_receive, like.pending]
    · rcases effect_cases_of_fed fed isInput with failed | ⟨changed, effect, otherEffect⟩
      · exact Or.inl failed
      · refine Or.inr ⟨changed, changed.fedBy other, effect, otherEffect, rfl, ?_, ?_⟩
        · rw [(sameControl_effect effect).eof]
          exact like.eof
        · rw [(sameIntake_effect isInput effect).pending_eq]
          exact like.pending

end Feeding
end Machine
end TapeMachine

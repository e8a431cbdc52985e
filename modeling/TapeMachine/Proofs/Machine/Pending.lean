import TapeMachine.Proofs.Machine.Stepping

/-!
# Pending input

A source hands out its input in chunks and a machine keeps what it has fetched in a queue.  Seen
from a program there are only bytes: the pending input of a machine is the sequence of bytes that
it would read next, first those in the queue and then those that the source has yet to deliver.
Fetching moves bytes from the source to the queue, so it does not change the pending input.
-/

namespace TapeMachine
namespace Source

/-- The byte that a source delivers at an index before it is exhausted, if it delivers so many. -/
def byte? (source : Source) (index : Nat) : Option UInt8 :=
  match source.poll with
  | (some (first :: others), rest) =>
      if index < others.length + 1 then (first :: others)[index]?
      else rest.byte? (index - (others.length + 1))
  | _ => none
  termination_by index

/-- A chunk is delivered before what the rest of the source delivers. -/
theorem byte?_of_chunk
    {source : Source}
    {first : UInt8}
    {others : List UInt8}
    (answer : source.poll.1 = some (first :: others))
    (index : Nat) :
    source.byte? index =
      ((first :: others)[index]?).or
        (source.poll.2.byte? (index - (first :: others).length)) := by
  have polled : source.poll = (some (first :: others), source.poll.2) := by
    rw [← answer]
  rw [byte?, polled]
  by_cases inside : index < others.length + 1
  · have found : (first :: others)[index]? = some (first :: others)[index] :=
      List.getElem?_eq_getElem inside
    simp only [if_pos inside, found]
    rfl
  · have missing : (first :: others)[index]? = none :=
      List.getElem?_eq_none (by rw [List.length_cons]; omega)
    simp only [if_neg inside, missing, Option.none_or, List.length_cons]

/-- A source that answers without a byte delivers nothing. -/
theorem byte?_of_exhausted
    {source : Source}
    (answer : ∀ first others, source.poll.1 ≠ some (first :: others))
    (index : Nat) :
    source.byte? index = none := by
  rw [byte?]
  split
  · rename_i first others rest polled
    exact absurd (by rw [polled]) (answer first others)
  · rfl

/-- What is left of a source after it has been asked a number of times. -/
def after : Nat → Source → Source
  | 0, source => source
  | times + 1, source => after times source.poll.2

/-- The bytes that asking a number of times delivers. -/
def fetched (source : Source) (times : Nat) : List UInt8 :=
  ((source.pollTimes times).filterMap id).flatten

theorem after_succ (times : Nat) (source : Source) :
    source.after (times + 1) = (source.after times).poll.2 := by
  induction times generalizing source with
  | zero => rfl
  | succ times inductionHypothesis =>
      rw [after, inductionHypothesis, after]

/-- The first answer comes before what the rest of the source delivers. -/
theorem fetched_succ_left (times : Nat) (source : Source) :
    source.fetched (times + 1) = source.poll.1.getD [] ++ source.poll.2.fetched times := by
  unfold fetched
  rw [pollTimes, List.filterMap_cons]
  cases source.poll.1 with
  | none => rfl
  | some chunk => rfl

theorem fetched_succ (times : Nat) (source : Source) :
    source.fetched (times + 1) =
      source.fetched times ++ ((source.after times).poll.1).getD [] := by
  induction times generalizing source with
  | zero =>
      rw [fetched_succ_left]
      simp [fetched, pollTimes, after]
  | succ times inductionHypothesis =>
      rw [fetched_succ_left, inductionHypothesis, fetched_succ_left, after, List.append_assoc]

end Source

namespace Machine

/-- The bytes that a machine would read next, by their distance from the next one. -/
def pending (machine : Machine) (index : Nat) : Option UInt8 :=
  (machine.queue[index]?).or
    (if machine.exhausted then none
      else machine.feed.source.byte? (index - machine.queue.length))

/-- Everything that fetching can do: nothing, filling the queue, or noticing the exhaustion. -/
theorem fill_cases (machine : Machine) :
    (machine.fill = machine ∧ (machine.queue ≠ [] ∨ machine.exhausted)) ∨
      (machine.queue = [] ∧ ¬ machine.exhausted ∧
        ∃ first others, machine.feed.source.poll.1 = some (first :: others) ∧
          machine.fill = { machine with
            feed := ⟨machine.feed.source.poll.2, machine.feed.polls + 1⟩
            queue := first :: others }) ∨
      (machine.queue = [] ∧ ¬ machine.exhausted ∧
        (∀ first others, machine.feed.source.poll.1 ≠ some (first :: others)) ∧
        machine.fill = { machine with
          feed := ⟨machine.feed.source.poll.2, machine.feed.polls + 1⟩
          exhausted := true }) := by
  unfold fill
  split_ifs with asks
  · simp only [Bool.and_eq_true, List.isEmpty_iff, Bool.not_eq_true'] at asks
    obtain ⟨empty, notExhausted⟩ := asks
    simp only [Feed.poll]
    split
    · rename_i first others answer
      exact Or.inr (Or.inl ⟨empty, by simp [notExhausted], first, others, answer, rfl⟩)
    · rename_i noChunk
      exact Or.inr (Or.inr ⟨empty, by simp [notExhausted], noChunk, rfl⟩)
  · simp only [Bool.and_eq_true, List.isEmpty_iff, Bool.not_eq_true', not_and,
      Bool.not_eq_false] at asks
    by_cases empty : machine.queue = []
    · exact Or.inl ⟨rfl, Or.inr (asks empty)⟩
    · exact Or.inl ⟨rfl, Or.inl empty⟩

/-- Fetching does not change the pending input. -/
theorem pending_fill (machine : Machine) : machine.fill.pending = machine.pending := by
  funext index
  rcases fill_cases machine with ⟨same, -⟩ |
    ⟨empty, notExhausted, first, others, answer, filled⟩ |
    ⟨empty, notExhausted, noChunk, filled⟩
  · rw [same]
  · rw [filled]
    simp only [pending, empty, notExhausted, Source.byte?_of_chunk answer]
    simp
  · rw [filled]
    simp only [pending, empty, notExhausted, Source.byte?_of_exhausted noChunk]
    simp

/-- A queue that is empty after fetching stands for an exhausted source. -/
theorem exhausted_of_queue_fill_eq_nil
    {machine : Machine}
    (empty : machine.fill.queue = []) :
    machine.fill.exhausted := by
  rcases fill_cases machine with ⟨same, nonempty | exhausted⟩ |
    ⟨-, -, first, others, -, filled⟩ | ⟨-, -, -, filled⟩
  · rw [same] at empty
    exact absurd empty nonempty
  · rwa [same]
  · rw [filled] at empty
    cases empty
  · rw [filled]

/-- Everything that reading can do: store the next byte, or leave it to the policy. -/
theorem receive_cases (machine : Machine) :
    (∃ byte rest, machine.fill.queue = byte :: rest ∧
        machine.receive = { machine.fill with queue := rest }.store byte) ∨
      (machine.fill.queue = [] ∧ machine.fill.eof = .zero ∧
        machine.receive = machine.fill.store 0) ∨
      (machine.fill.queue = [] ∧ machine.fill.eof = .unchanged ∧
        machine.receive = machine.fill) := by
  unfold receive
  cases queue : machine.fill.queue with
  | cons byte rest => exact Or.inl ⟨byte, rest, rfl, by simp only [queue]⟩
  | nil =>
      cases policy : machine.fill.eof with
      | zero => exact Or.inr (Or.inl ⟨rfl, rfl, by simp only [queue, policy]⟩)
      | unchanged => exact Or.inr (Or.inr ⟨rfl, rfl, by simp only [queue, policy]⟩)

theorem sameControl_fill (machine : Machine) : machine.fill.SameControl machine := by
  rcases fill_cases machine with ⟨same, -⟩ | ⟨-, -, _, _, -, same⟩ | ⟨-, -, -, same⟩
  · rw [same]
    exact ⟨rfl, rfl, rfl, rfl, rfl, rfl⟩
  · rw [same]
    exact ⟨rfl, rfl, rfl, rfl, rfl, rfl⟩
  · rw [same]
    exact ⟨rfl, rfl, rfl, rfl, rfl, rfl⟩

theorem sameControl_receive (machine : Machine) : machine.receive.SameControl machine := by
  have filled := sameControl_fill machine
  rcases receive_cases machine with ⟨_, _, -, same⟩ | ⟨-, -, same⟩ | ⟨-, -, same⟩
  · rw [same]
    exact ⟨filled.program, filled.eof, filled.position, filled.cycles, filled.status,
      filled.failure?⟩
  · rw [same]
    exact ⟨filled.program, filled.eof, filled.position, filled.cycles, filled.status,
      filled.failure?⟩
  · rw [same]
    exact filled

end Machine
end TapeMachine

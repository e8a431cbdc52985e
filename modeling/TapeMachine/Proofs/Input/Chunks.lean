import Mathlib.Data.Nat.Find
import TapeMachine.Proofs.Machine.Pending

/-!
# Chunks

The chunks of a source are its answers before the first one without a byte.  A source offers some
chunks when these are the first that it hands out, and it delivers them when there are no others.
Bytes in memory and lines of a stream are delivered by finitely many chunks; a call may go on
answering for ever, and then it offers as many chunks as one likes.

What a source hands out at an index, before it is exhausted, is the byte of its chunks at that
index.
-/

namespace TapeMachine
namespace Source

/-- The next answer of a source has no byte, so that it counts as exhausted. -/
def Ends (source : Source) : Prop :=
  ∀ first others, source.poll.1 ≠ some (first :: others)

/-- A source hands out some chunks first, none of which is empty. -/
inductive Offers : Source → List (List UInt8) → Prop
  | nil (source : Source) : Offers source []
  | cons
      {source : Source}
      {first : UInt8}
      {others : List UInt8}
      {chunks : List (List UInt8)}
      (answer : source.poll.1 = some (first :: others))
      (rest : Offers source.poll.2 chunks) :
      Offers source ((first :: others) :: chunks)

/-- A source hands out some chunks and then no more. -/
structure Delivers (source : Source) (chunks : List (List UInt8)) : Prop where
  /-- The chunks are handed out first. -/
  offers : source.Offers chunks
  /-- The answer after them has no byte. -/
  ends : (source.after chunks.length).Ends

/-- A source never ends: it offers as many bytes as one likes. -/
def Endless (source : Source) : Prop :=
  ∀ count, ∃ chunks, source.Offers chunks ∧ count ≤ chunks.flatten.length

variable {source : Source} {chunks : List (List UInt8)}

/-! ## Which chunks there are -/

theorem exists_answer_of_not_ends (more : ¬ source.Ends) :
    ∃ first others, source.poll.1 = some (first :: others) := by
  simpa only [Ends, not_forall, not_not] using more

/-- Chunks that are offered have at least as many bytes as there are chunks. -/
theorem Offers.length_le (offers : source.Offers chunks) :
    chunks.length ≤ chunks.flatten.length := by
  induction offers with
  | nil source => exact Nat.le_refl 0
  | cons answer rest inductionHypothesis =>
      rw [List.flatten_cons, List.length_append, List.length_cons, List.length_cons]
      omega

/-- A source that has not ended before a number of answers offers as many chunks. -/
theorem exists_offers_of_forall_not_ends
    (count : Nat)
    (source : Source)
    (more : ∀ earlier < count, ¬ (source.after earlier).Ends) :
    ∃ chunks, source.Offers chunks ∧ chunks.length = count := by
  induction count generalizing source with
  | zero => exact ⟨[], .nil source, rfl⟩
  | succ count inductionHypothesis =>
      obtain ⟨first, others, answer⟩ :=
        exists_answer_of_not_ends (more 0 (Nat.succ_pos count))
      obtain ⟨chunks, offers, length⟩ := inductionHypothesis source.poll.2
        fun earlier small => more (earlier + 1) (Nat.succ_lt_succ small)
      exact ⟨_, .cons answer offers, congrArg (· + 1) length⟩

/-- Every source delivers some chunks or never ends. -/
theorem exists_delivers_or_endless (source : Source) :
    (∃ chunks, source.Delivers chunks) ∨ source.Endless := by
  classical
  by_cases ends : ∃ count, (source.after count).Ends
  · left
    obtain ⟨chunks, offers, length⟩ :=
      exists_offers_of_forall_not_ends (Nat.find ends) source fun _ => Nat.find_min ends
    refine ⟨chunks, offers, ?_⟩
    rw [length]
    exact Nat.find_spec ends
  · right
    intro count
    obtain ⟨chunks, offers, length⟩ := exists_offers_of_forall_not_ends count source
      fun earlier _ endsThere => ends ⟨earlier, endsThere⟩
    refine ⟨chunks, offers, ?_⟩
    rw [← length]
    exact offers.length_le

theorem Delivers.nil (ends : source.Ends) : source.Delivers [] :=
  ⟨.nil source, ends⟩

theorem Delivers.cons
    {first : UInt8}
    {others : List UInt8}
    (answer : source.poll.1 = some (first :: others))
    (rest : source.poll.2.Delivers chunks) :
    source.Delivers ((first :: others) :: chunks) :=
  ⟨.cons answer rest.offers, rest.ends⟩

/-- Bytes in memory are delivered as they are. -/
theorem exists_delivers_whole (data : List UInt8) :
    ∃ chunks, (whole data).Delivers chunks ∧ chunks.flatten = data := by
  have empty : (whole []).Ends := by simp [Ends, poll, chunk?]
  cases data with
  | nil => exact ⟨[], .nil empty, rfl⟩
  | cons first others =>
      refine ⟨[first :: others], .cons ?_ (.nil empty), ?_⟩
      · simp [poll, chunk?]
      · simp

/-- The lines of a stream, put together, are the bytes of the stream. -/
theorem exists_delivers_lines (bytes : List UInt8) :
    ∃ chunks, (lines bytes).Delivers chunks ∧ chunks.flatten = bytes := by
  induction hypothesis : bytes.length using Nat.strong_induction_on generalizing bytes with
  | _ length inductionHypothesis =>
    subst hypothesis
    have whole := Text.splitChunk_append bytes
    cases line : (Text.splitChunk bytes).1 with
    | nil =>
        refine ⟨[], .nil ?_, ?_⟩
        · simp [Ends, poll, chunk?, line]
        · -- only an empty stream has an empty first line
          cases bytes with
          | nil => rfl
          | cons byte rest =>
              unfold Text.splitChunk at line
              split at line <;> cases line
    | cons first others =>
        rw [line] at whole
        have shorter : (Text.splitChunk bytes).2.length < bytes.length := by
          rw [← congrArg List.length whole, List.length_append, List.length_cons]
          omega
        obtain ⟨chunks, delivers, flat⟩ := inductionHypothesis _ shorter _ rfl
        refine ⟨(first :: others) :: chunks, .cons ?_ delivers, ?_⟩
        · simp [poll, chunk?, line]
        · rw [List.flatten_cons, flat, whole]

/-! ## Polling -/

/-- A chunk is handed out when those before it have been, and it is not empty. -/
theorem Offers.poll_after
    {index : Nat}
    {chunk : List UInt8}
    (offers : source.Offers chunks)
    (found : chunks[index]? = some chunk) :
    chunk ≠ [] ∧ (source.after index).poll.1 = some chunk := by
  induction offers generalizing index with
  | nil source => cases found
  | @cons source first others chunks answer rest inductionHypothesis =>
      cases index with
      | zero =>
          cases found
          exact ⟨List.cons_ne_nil first others, answer⟩
      | succ index => exact inductionHypothesis found

/-- The number of bytes in the first of some chunks. -/
def covered (chunks : List (List UInt8)) (count : Nat) : Nat :=
  (chunks.take count).flatten.length

/-- One more chunk covers its own bytes as well. -/
theorem covered_succ
    {count : Nat}
    {chunk : List UInt8}
    (found : chunks[count]? = some chunk) :
    covered chunks (count + 1) = covered chunks count + chunk.length := by
  rw [covered, List.take_add_one, found]
  simp [covered]

theorem covered_of_length_le
    {count : Nat}
    (enough : chunks.length ≤ count) :
    covered chunks count = chunks.flatten.length := by
  rw [covered, List.take_of_length_le enough]

theorem covered_mono
    (chunks : List (List UInt8))
    {fewer more : Nat}
    (ordered : fewer ≤ more) :
    covered chunks fewer ≤ covered chunks more := by
  have split := List.take_append_drop fewer (chunks.take more)
  rw [List.take_take, Nat.min_eq_left ordered] at split
  rw [covered, covered, ← split, List.flatten_append, List.length_append]
  exact Nat.le_add_right _ _

/-- All the chunks of an offer are needed to cover their bytes. -/
theorem Offers.covered_lt
    {fewer : Nat}
    (offers : source.Offers chunks)
    (missing : fewer < chunks.length) :
    covered chunks fewer < chunks.flatten.length := by
  have found := List.getElem?_eq_getElem missing
  have nonempty := List.length_pos_iff.mpr (offers.poll_after found).1
  calc
    covered chunks fewer < covered chunks (fewer + 1) := by
      rw [covered_succ found]
      omega
    _ ≤ covered chunks chunks.length := covered_mono chunks missing
    _ = chunks.flatten.length := covered_of_length_le (Nat.le_refl _)

/-! ## Bytes -/

/-- A source hands out the bytes of the chunks that it offers, and then what comes after them. -/
theorem Offers.byte?_eq
    (offers : source.Offers chunks)
    (index : Nat) :
    source.byte? index =
      (chunks.flatten[index]?).or
        ((source.after chunks.length).byte? (index - chunks.flatten.length)) := by
  induction offers generalizing index with
  | nil source => rfl
  | @cons source first others chunks answer rest inductionHypothesis =>
      rw [byte?_of_chunk answer, inductionHypothesis, List.flatten_cons, List.length_append,
        ← Nat.sub_sub, List.getElem?_append]
      split_ifs with here
      · rw [List.getElem?_eq_getElem here, Option.some_or, Option.some_or]
      · rw [List.getElem?_eq_none (Nat.le_of_not_lt here), Option.none_or]
        rfl

theorem Offers.byte?_of_lt
    {index : Nat}
    (offers : source.Offers chunks)
    (inside : index < chunks.flatten.length) :
    source.byte? index = chunks.flatten[index]? := by
  rw [offers.byte?_eq, List.getElem?_eq_getElem inside, Option.some_or]

/-- A source that delivers some chunks hands out their bytes and nothing else. -/
theorem Delivers.byte?_eq
    (delivers : source.Delivers chunks)
    (index : Nat) :
    source.byte? index = chunks.flatten[index]? := by
  rw [delivers.offers.byte?_eq, byte?_of_exhausted delivers.ends, Option.or_none]

/-- Bytes in memory are handed out as they are. -/
theorem byte?_whole (data : List UInt8) (index : Nat) :
    (whole data).byte? index = data[index]? := by
  obtain ⟨chunks, delivers, flat⟩ := exists_delivers_whole data
  rw [delivers.byte?_eq, flat]

end Source
end TapeMachine

import Mathlib.Order.Bounds.Defs
import TapeMachine.Proofs.Input.Chunks
import TapeMachine.Proofs.Input.Reading

/-!
# Polling

How a source cuts its bytes into chunks cannot be seen in what a run comes to.  It decides how often
the source is asked, and that is as seldom as possible: when so many reads have been made, the
source has been asked for the fewest chunks that cover them, and once more if the reads went beyond
the last chunk.  It is not asked while bytes wait, and not again once it has answered without a
byte.

The invariant behind this counts the reads.  Either the chunks that have been fetched cover the
reads and the bytes that wait, and fewer of them would not cover the reads; or the source is
exhausted.
-/

namespace TapeMachine
namespace Machine

open Source (covered)

/-- How much of some chunks a machine has fetched after a number of reads. -/
inductive Intake
    (source : Source)
    (chunks : List (List UInt8))
    (count : Nat)
    (machine : Machine) : Prop
  /-- The chunks fetched so far cover the reads and the bytes that wait, and none is superfluous. -/
  | fetching
      (polled : machine.feed.source = source.after machine.feed.polls)
      (within : machine.feed.polls ≤ chunks.length)
      (notExhausted : ¬ machine.exhausted)
      (fetched : covered chunks machine.feed.polls = count + machine.queue.length)
      (needed : ∀ fewer < machine.feed.polls, covered chunks fewer < count)
  /-- The reads have gone beyond the last chunk, and the source has been asked once more. -/
  | exhausted
      (polls : machine.feed.polls = chunks.length + 1)
      (noticed : machine.exhausted)
      (empty : machine.queue = [])
      (beyond : chunks.flatten.length < count)

namespace Intake

variable {source : Source} {chunks : List (List UInt8)} {count : Nat} {machine : Machine}

theorem congr
    {changed : Machine}
    (intake : machine.Intake source chunks count)
    (same : changed.SameIntake machine) :
    changed.Intake source chunks count := by
  obtain ⟨feed, queue, exhausted⟩ := same
  cases intake with
  | fetching polled within notExhausted fetched needed =>
      apply fetching
      · rw [feed, polled]
      · rw [feed]
        exact within
      · rw [exhausted]
        exact notExhausted
      · rw [feed, queue, fetched]
      · rw [feed]
        exact needed
  | exhausted polls noticed empty beyond =>
      apply Intake.exhausted
      · rw [feed, polls]
      · rw [exhausted]
        exact noticed
      · rw [queue, empty]
      · exact beyond

/-- A read takes a byte that waits, or fetches the next chunk, or notices that there is none. -/
theorem receive
    (offers : source.Offers chunks)
    (enough : count + 1 ≤ chunks.flatten.length ∨ source.Delivers chunks)
    (intake : machine.Intake source chunks count) :
    machine.receive.Intake source chunks (count + 1) := by
  rw [receive_eq]
  cases intake with
  | exhausted polls noticed empty beyond =>
      rcases fill_cases machine with ⟨same, -⟩ | ⟨-, notExhausted, -⟩ | ⟨-, notExhausted, -⟩
      · rw [same]
        refine Intake.exhausted polls noticed ?_ (Nat.lt_succ_of_lt beyond)
        rw [empty, List.tail_nil]
      · exact absurd noticed notExhausted
      · exact absurd noticed notExhausted
  | fetching polled within notExhausted fetched needed =>
      have stillNeeded : ∀ fewer < machine.feed.polls, covered chunks fewer < count + 1 :=
        fun fewer small => Nat.lt_succ_of_lt (needed fewer small)
      rcases fill_cases machine with ⟨same, waiting⟩ |
        ⟨empty, -, first, others, answer, filled⟩ | ⟨empty, -, noChunk, filled⟩
      · rw [same]
        obtain ⟨byte, rest, queue⟩ :=
          List.exists_cons_of_ne_nil (waiting.resolve_right notExhausted)
        refine fetching polled within notExhausted ?_ stillNeeded
        change covered chunks machine.feed.polls = count + 1 + machine.queue.tail.length
        rw [fetched, queue, List.tail_cons, List.length_cons]
        omega
      · rw [filled]
        rw [empty, List.length_nil, Nat.add_zero] at fetched
        rw [polled] at answer
        -- an answer with a byte is the next chunk, since the chunks are not used up
        have more : machine.feed.polls < chunks.length := by
          refine Nat.lt_of_le_of_ne within fun all => ?_
          rw [all, Source.covered_of_length_le (Nat.le_refl _)] at fetched
          rcases enough with more | delivers
          · omega
          · rw [all] at answer
            exact delivers.ends first others answer
        have found := List.getElem?_eq_getElem more
        have sameChunk := (offers.poll_after found).2.symm.trans answer
        rw [Option.some.inj sameChunk] at found
        apply fetching
        · exact (congrArg (·.poll.2) polled).trans (Source.after_succ _ _).symm
        · exact more
        · exact notExhausted
        · change covered chunks (machine.feed.polls + 1) = count + 1 + others.length
          rw [Source.covered_succ found, fetched, List.length_cons]
          omega
        · intro fewer small
          have bound := Source.covered_mono chunks (Nat.le_of_lt_succ small)
          omega
      · rw [filled]
        rw [empty, List.length_nil, Nat.add_zero] at fetched
        -- no chunk is left over
        have all : machine.feed.polls = chunks.length := by
          refine Nat.le_antisymm within (Nat.le_of_not_lt fun more => ?_)
          obtain ⟨nonempty, answer⟩ := offers.poll_after (List.getElem?_eq_getElem more)
          obtain ⟨first, others, chunk⟩ := List.exists_cons_of_ne_nil nonempty
          rw [← polled, chunk] at answer
          exact noChunk first others answer
        rw [all, Source.covered_of_length_le (Nat.le_refl _)] at fetched
        apply Intake.exhausted
        · exact congrArg (· + 1) all
        · rfl
        · exact congrArg List.tail empty
        · omega

/--
The source has been asked for the fewest chunks that cover the reads, and once more at the end.
-/
theorem exists_isLeast
    (offers : source.Offers chunks)
    (intake : machine.Intake source chunks count) :
    ∃ least,
      IsLeast { polls | min count chunks.flatten.length ≤ covered chunks polls } least ∧
        machine.feed.polls = least + if chunks.flatten.length < count then 1 else 0 := by
  cases intake with
  | fetching polled within notExhausted fetched needed =>
      have bound := Source.covered_mono chunks within
      rw [Source.covered_of_length_le (Nat.le_refl _)] at bound
      have small : count ≤ chunks.flatten.length := by omega
      refine ⟨machine.feed.polls, ⟨?_, ?_⟩, ?_⟩
      · change min count chunks.flatten.length ≤ covered chunks machine.feed.polls
        omega
      · intro polls enough
        change min count chunks.flatten.length ≤ covered chunks polls at enough
        refine Nat.le_of_not_lt fun fewer => ?_
        have missing := needed polls fewer
        omega
      · rw [if_neg (Nat.not_lt.mpr small), Nat.add_zero]
  | exhausted polls noticed empty beyond =>
      refine ⟨chunks.length, ⟨?_, ?_⟩, ?_⟩
      · change min count chunks.flatten.length ≤ covered chunks chunks.length
        rw [Source.covered_of_length_le (Nat.le_refl _)]
        exact Nat.min_le_right _ _
      · intro polls enough
        change min count chunks.flatten.length ≤ covered chunks polls at enough
        refine Nat.le_of_not_lt fun fewer => ?_
        have missing := offers.covered_lt fewer
        omega
      · rw [if_pos beyond, polls]

end Intake

/-- Along a run the reads that have been made say how much has been fetched. -/
theorem intake_run
    {source : Source}
    {chunks : List (List UInt8)}
    {machine : Machine}
    {budget : Nat}
    (offers : source.Offers chunks)
    (fresh : machine.Intake source chunks 0)
    (enough : (reads (machine.turns budget)).length ≤ chunks.flatten.length ∨
      source.Delivers chunks) :
    (machine.run budget).Intake source chunks (reads (machine.turns budget)).length := by
  induction budget with
  | zero =>
      obtain ⟨position, status, settled⟩ := machine.exists_run_zero_eq
      rw [settled]
      exact fresh.congr ⟨rfl, rfl, rfl⟩
  | succ budget inductionHypothesis =>
      rcases machine.reads_succ_cases budget with ⟨sameReads, same⟩ | ⟨_, rfl, oneMore, same⟩
      · rw [sameReads] at enough ⊢
        exact (inductionHypothesis enough).congr same
      · rw [oneMore, List.length_append, List.length_singleton] at enough ⊢
        have before := inductionHypothesis (enough.imp_left Nat.le_of_succ_le)
        exact (before.receive offers enough).congr same

/-- What reads have made of some chunks, and how often the source has been asked for them. -/
structure ReadExactly
    (eof : EofPolicy)
    (chunks : List (List UInt8))
    (reads : List Turn)
    (polls : Nat) : Prop where
  /-- The bytes have been stored in order, none is left out and none is stored twice. -/
  stored :
    (reads.take chunks.flatten.length).map (fun turn => turn.after.cell) =
      chunks.flatten.take reads.length
  /-- After the last byte the policy decides. -/
  beyond : ∀ turn ∈ reads.drop chunks.flatten.length,
    turn.after.cell = eof.supply.getD turn.before.cell
  /-- The source has been asked for the fewest chunks that cover the reads, and once at the end. -/
  asked : ∃ least,
    IsLeast { count | min reads.length chunks.flatten.length ≤ covered chunks count } least ∧
      polls = least + if chunks.flatten.length < reads.length then 1 else 0

/-- The reads of a run are exact if the bytes pending at its start are those of some chunks. -/
theorem readExactly_run
    {source : Source}
    {chunks : List (List UInt8)}
    {machine : Machine}
    {budget : Nat}
    (offers : source.Offers chunks)
    (fresh : machine.Intake source chunks 0)
    (pending : machine.pending = source.byte?)
    (enough : (reads (machine.turns budget)).length ≤ chunks.flatten.length ∨
      source.Delivers chunks) :
    ReadExactly machine.eof chunks (reads (machine.turns budget))
      (machine.run budget).feed.polls where
  stored := by
    apply List.ext_getElem?
    intro index
    rw [List.getElem?_map, List.getElem?_take, List.getElem?_take]
    by_cases offered : index < chunks.flatten.length
    · rw [if_pos offered]
      cases read : (reads (machine.turns budget))[index]? with
      | none =>
          rw [if_neg (Nat.not_lt.mpr (List.getElem?_eq_none_iff.mp read)), Option.map_none]
      | some turn =>
          rw [if_pos (List.getElem?_eq_some_iff.mp read).1, Option.map_some,
            cell_of_getElem?_reads read, pending, offers.byte?_of_lt offered,
            List.getElem?_eq_getElem offered]
          rfl
    · rw [if_neg offered, List.getElem?_eq_none (Nat.le_of_not_lt offered)]
      simp
  beyond := by
    intro turn late
    obtain ⟨index, read⟩ := List.mem_iff_getElem?.mp late
    rw [List.getElem?_drop] at read
    have inside := (List.getElem?_eq_some_iff.mp read).1
    have delivers := enough.resolve_left (by omega)
    rw [cell_of_getElem?_reads read, pending, delivers.byte?_eq,
      List.getElem?_eq_none (Nat.le_add_right _ _), Option.none_or]
  asked := (intake_run offers fresh enough).exists_isLeast offers

end Machine

namespace Settings

variable {settings : Settings} {program : Program} {source : Source} {sink : Sink}

theorem pending_launch : (settings.launch program source sink).pending = source.byte? := by
  funext index
  simp [Machine.pending, launch]

theorem intake_launch (chunks : List (List UInt8)) :
    (settings.launch program source sink).Intake source chunks 0 := by
  apply Machine.Intake.fetching
  · rfl
  · exact Nat.zero_le _
  · exact Bool.false_ne_true
  · rfl
  · exact fun fewer small => absurd small (Nat.not_lt_zero fewer)

/-- A launch on chunks would read what a launch on their bytes would read. -/
theorem readsLike_launch
    {chunks : List (List UInt8)}
    (delivers : source.Delivers chunks) :
    (settings.launch program (.whole chunks.flatten) sink).ReadsLike
      (settings.launch program source sink) where
  fed := rfl
  eof := rfl
  pending := by
    funext index
    rw [pending_launch, pending_launch, Source.byte?_whole, delivers.byte?_eq]

/-- A run on chunks has the outcome and the tape of the run on their bytes, if it has any. -/
theorem runWithin?_of_delivers
    {chunks : List (List UInt8)}
    (delivers : source.Delivers chunks)
    (fuel : Nat)
    (budget : Option Int) :
    ((settings.launch program source sink).runWithin? fuel budget).map
        (fun ended => (ended.outcome, ended.tape)) =
      ((settings.launch program (.whole chunks.flatten) sink).runWithin? fuel budget).map
        fun ended => (ended.outcome, ended.tape) := by
  apply Machine.lockstep_readsLike.map_runWithin? (readsLike_launch delivers)
  · exact fun _ _ => trivial
  · intro machine other like
    rw [like.fed]
    rfl

theorem outcome_run?_of_delivers
    {chunks : List (List UInt8)}
    (delivers : source.Delivers chunks)
    (fuel : Nat)
    (given : Option Int)
    (code : String) :
    (settings.run? fuel given code source sink).map Report.outcome =
      (settings.run? fuel given code (.whole chunks.flatten) sink).map Report.outcome := by
  unfold run?
  cases Program.parse code with
  | error rejection => rfl
  | ok program =>
      have same := congrArg (Option.map Prod.fst)
        (@runWithin?_of_delivers settings program source sink chunks delivers fuel
          (settings.budget given))
      simp only [runProgram?, Option.map_map] at same ⊢
      exact same

/--
How input is cut into chunks cannot be observed, and the source is asked no more often than needed.
Every source delivers some chunks or never ends; bytes in memory and the lines of a stream are
always delivered.  A run on chunks has the outcome and the tape of the run on their bytes, put
together.  In every state that calls can reach, the reads so far have stored the first bytes of the
chunks in order, and after the last of them what the policy supplies; the source has been asked for
the fewest chunks that cover these bytes, and once more if the reads have gone beyond them.  It is
not asked while bytes wait, nor ever again once it is exhausted.
-/
theorem chunks_are_unobservable_and_polls_exact
    (settings : Settings)
    (source : Source)
    (sink : Sink) :
    ((∃ chunks, source.Delivers chunks) ∨ source.Endless) ∧
    (∀ data, source = .whole data ∨ source = .lines data →
      ∃ chunks, source.Delivers chunks ∧ chunks.flatten = data) ∧
    (∀ chunks, source.Delivers chunks →
      (∀ (fuel : Nat) (given : Option Int) (code : String),
        (settings.run? fuel given code source sink).map Report.outcome =
          (settings.run? fuel given code (.whole chunks.flatten) sink).map Report.outcome) ∧
      ∀ (program : Program) (fuel : Nat) (budget : Option Int),
        ((settings.launch program source sink).runWithin? fuel budget).map
            (fun ended => (ended.outcome, ended.tape)) =
          ((settings.launch program (.whole chunks.flatten) sink).runWithin? fuel budget).map
            fun ended => (ended.outcome, ended.tape)) ∧
    ∀ (program : Program) (fuel : Nat) (calls : List Call) (machine : Machine),
      (settings.launch program source sink).answerAll? fuel calls = some machine →
      let reads := Machine.reads ((settings.launch program source sink).turnsAlong fuel calls)
      (∀ chunks, source.Offers chunks →
        reads.length ≤ chunks.flatten.length ∨ source.Delivers chunks →
        Machine.ReadExactly settings.eof chunks reads machine.feed.polls) ∧
      (machine.queue ≠ [] → machine.step.feed = machine.feed) ∧
      (machine.exhausted → ∀ (more : List Call) (last : Machine),
        machine.answerAll? fuel more = some last → last.feed = machine.feed) := by
  refine ⟨source.exists_delivers_or_endless, ?_, ?_, ?_⟩
  · rintro data (rfl | rfl)
    · exact Source.exists_delivers_whole data
    · exact Source.exists_delivers_lines data
  · intro chunks delivers
    refine ⟨fun fuel given code => ?_, fun program fuel budget => ?_⟩
    · exact outcome_run?_of_delivers delivers fuel given code
    · exact runWithin?_of_delivers delivers fuel budget
  · intro program fuel calls machine reached reads
    refine ⟨?_, fun waiting => Machine.feed_step_of_waiting (Or.inl waiting),
      fun exhausted more last => Machine.feed_of_exhausted exhausted⟩
    intro chunks offers enough
    -- the machine has the history of a run, and the feed to which that run leads
    obtain ⟨steps, position, status, sameTurns, ran⟩ := exists_run_of_answerAll? reached
    simp only [reads, sameTurns] at enough ⊢
    have exactly :=
      Machine.readExactly_run offers (intake_launch chunks) pending_launch enough
    rw [ran] at exactly
    exact exactly

/--
Four reads from a call that answers with two single bytes, then with none, and would go on after
that: it is asked three times.
-/
theorem polls_exact_of_two_bytes :
    let source : Source :=
      .answers fun turn => ([some [97], some [98], some [], some [99]][turn]?).join
    let start := ({} : Settings).launch ⟨#[',', ',', ',', ','], .empty, rfl⟩ source .absent
    let reads := Machine.reads (start.turnsAlong 0 [.run (some 4)])
    reads.length = 4 ∧ (start.run 4).feed.polls = 3 ∧
      Machine.ReadExactly .unchanged [[97], [98]] reads (start.run 4).feed.polls := by
  intro source start reads
  have delivers : source.Delivers [[97], [98]] := by
    refine .cons rfl (.cons rfl (.nil ?_))
    simp [Source.Ends, Source.poll, source]
  obtain ⟨-, -, -, reached⟩ := chunks_are_unobservable_and_polls_exact {} source .absent
  obtain ⟨exactly, -, -⟩ := reached ⟨#[',', ',', ',', ','], .empty, rfl⟩ 0 [.run (some 4)] _ rfl
  refine ⟨by decide +kernel, by decide +kernel, ?_⟩
  exact exactly _ delivers.offers (Or.inr delivers)

end Settings
end TapeMachine

import TapeMachine.Proofs.Input.Polling

/-!
# Causality

A run depends on the bytes that it has read and on nothing that comes after them.  Two machines may
be fed by inputs that differ behind a common beginning, and have different policies for the end of
the input: they run in lockstep as long as the first of them reads bytes of that beginning only.

How much of the beginning is left can be told from the first machine alone.  The bytes behind the
beginning are its reserve, and a byte belongs to the beginning if at least the reserve is pending
after it.  A state is safe if no read takes place there, or if more than the reserve is pending.
-/

namespace TapeMachine
namespace Machine

/-- A machine that has stopped does not stand at a command to read. -/
theorem Sound.running_of_input
    {program : Program}
    {start : Extent}
    {machine : Machine}
    (sound : machine.Sound program start)
    (found : machine.command? = some .input) :
    machine.running := by
  rw [command?, sound.program_eq] at found
  cases status : machine.status with
  | running => exact (running_iff machine).mpr status
  | finished =>
      have inside := Program.lt_length_of_command? found
      rw [sound.finished_at_end status] at inside
      exact absurd inside (Nat.lt_irrefl _)
  | failed =>
      rcases sound.failed_at_move status with move | move
      · rw [move] at found
        cases found
      · rw [move] at found
        cases found

/-- A machine is like another one whose input is the same as far as a reserve is left behind. -/
structure SharesInput (reserve : Nat) (machine other : Machine) : Prop where
  /-- The machines differ in what they are fed by. -/
  fed : other = machine.fedBy other
  /-- The bytes with at least the reserve after them are the same. -/
  shared : ∀ index, machine.pending (index + reserve) ≠ none →
    ∃ byte, machine.pending index = some byte ∧ other.pending index = some byte

namespace SharesInput

variable {reserve : Nat} {machine other : Machine}

/-- Reading a shared byte leaves machines behind that share the rest. -/
theorem receive
    (shares : SharesInput reserve machine other)
    (more : machine.pending reserve ≠ none) :
    SharesInput reserve machine.receive other.receive := by
  have fed := shares.fed
  obtain ⟨byte, next, otherNext⟩ := shares.shared 0 (by rwa [Nat.zero_add])
  have same : (machine.fedBy other).received? = machine.received? := by
    rw [← fed, received?_eq, received?_eq, next, otherNext]
    rfl
  refine ⟨?_, ?_⟩
  · rw [fed]
    exact receive_fedBy same
  · intro index
    rw [pending_receive, pending_receive, pending_receive, Nat.add_right_comm]
    exact shares.shared (index + 1)

end SharesInput

/-- Machines that share their input run in lockstep while more than the reserve is pending. -/
theorem lockstep_sharesInput (reserve : Nat) :
    Lockstep (fun machine => machine.command? = some .input → machine.pending reserve ≠ none)
      (SharesInput reserve) where
  abreast shares := by
    rw [shares.fed]
    exact ⟨rfl, rfl, rfl, rfl, rfl⟩
  steer shares position cycles status failure? := by
    refine ⟨?_, shares.shared⟩
    rw [shares.fed]
    rfl
  cell shares _ := by
    rw [shares.fed]
    rfl
  effect := by
    intro machine other command shares safely found
    by_cases isInput : command = .input
    · subst isInput
      exact Or.inr ⟨_, _, rfl, rfl, shares.receive (safely found)⟩
    · rcases effect_cases_of_fed shares.fed isInput with failed | ⟨changed, effect, otherEffect⟩
      · exact Or.inl failed
      · refine Or.inr ⟨changed, changed.fedBy other, effect, otherEffect, rfl, ?_⟩
        rw [(sameIntake_effect isInput effect).pending_eq]
        exact shares.shared

/-- A longer run has made at least the reads of a shorter one. -/
theorem length_reads_le
    {shorter longer : Nat}
    (ordered : shorter ≤ longer)
    (machine : Machine) :
    (reads (machine.turns shorter)).length ≤ (reads (machine.turns longer)).length := by
  obtain ⟨more, rfl⟩ := Nat.exists_eq_add_of_le ordered
  rw [turns_add, reads, reads, List.filter_append, List.length_append]
  exact Nat.le_add_right _ _

/-- A run that will have made few reads has more than a reserve pending before each of them. -/
theorem pending_ne_none_of_few_reads
    {program : Program}
    {start : Extent}
    {machine : Machine}
    {budget taken count reserve : Nat}
    (sound : machine.Sound program start)
    (few : (reads (machine.turns budget)).length ≤ count)
    (plenty : ∀ index < count + reserve, machine.pending index ≠ none)
    (earlier : taken < budget)
    (found : (machine.run taken).command? = some .input) :
    (machine.run taken).pending reserve ≠ none := by
  have runs := (sound.run taken).running_of_input found
  have oneMore : (reads (machine.turns (taken + 1))).length =
      (reads (machine.turns taken)).length + 1 := by
    rw [turns_succ, turn?_of_command? runs found, reads, List.filter_append, List.length_append]
    rfl
  have bound := length_reads_le earlier machine
  rw [Nat.succ_eq_add_one, oneMore] at bound
  rw [pending_run]
  exact plenty _ (by omega)

end Machine

namespace Settings

/-- The settings with a policy for the end of the input. -/
def withEof (settings : Settings) (policy : EofPolicy) : Settings :=
  { settings with eof := policy }

variable {settings : Settings} {policy : EofPolicy} {program : Program} {sink : Sink}
  {common unread other : List UInt8}

theorem sharesInput_launch :
    Machine.SharesInput unread.length
      (settings.launch program (.whole (common ++ unread)) sink)
      ((settings.withEof policy).launch program (.whole (common ++ other)) sink) where
  fed := rfl
  shared := by
    intro index pending
    rw [pending_launch, Source.byte?_whole, Ne, List.getElem?_eq_none_iff, List.length_append]
      at pending
    have inside : index < common.length := by omega
    refine ⟨common[index], ?_, ?_⟩
    · rw [pending_launch, Source.byte?_whole, List.getElem?_append_left inside,
        List.getElem?_eq_getElem inside]
    · rw [pending_launch, Source.byte?_whole, List.getElem?_append_left inside,
        List.getElem?_eq_getElem inside]

/-- A run that reads only what two inputs have in common ends alike on both of them. -/
theorem runWithin?_of_few_reads
    {fuel : Nat}
    {budget : Option Int}
    (few : (Machine.reads ((settings.launch program (.whole (common ++ unread)) sink).turns
      ((Call.run budget).allowance fuel))).length ≤ common.length) :
    (((settings.withEof policy).launch program (.whole (common ++ other)) sink).runWithin?
        fuel budget).map (fun ended => (ended.outcome, ended.tape)) =
      ((settings.launch program (.whole (common ++ unread)) sink).runWithin?
        fuel budget).map fun ended => (ended.outcome, ended.tape) := by
  have plenty : ∀ index < common.length + unread.length,
      (settings.launch program (.whole (common ++ unread)) sink).pending index ≠ none := by
    intro index inside
    rw [pending_launch, Source.byte?_whole, Ne, List.getElem?_eq_none_iff, List.length_append]
    omega
  apply (Machine.lockstep_sharesInput unread.length).map_runWithin? sharesInput_launch
  · intro taken earlier found
    have sound := settings.launch_sound program (.whole (common ++ unread)) sink
    exact Machine.pending_ne_none_of_few_reads sound few plenty earlier found
  · intro machine other shares
    rw [shares.fed]
    rfl

/--
Input that a run does not read has no influence on it, and neither has the policy for the end of the
input.  If a run makes at most as many reads as two inputs have bytes in common at their beginning,
the run on the other input and under the other policy has the same outcome and the same tape.
-/
theorem unread_input_has_no_influence
    (settings : Settings)
    (policy : EofPolicy)
    (code : String)
    (program : Program)
    (parsed : Program.parse code = .ok program)
    (sink : Sink)
    (common unread other : List UInt8)
    (fuel : Nat)
    (given : Option Int)
    (few : (Machine.reads ((settings.launch program (.whole (common ++ unread)) sink).turns
      ((Call.run (settings.budget given)).allowance fuel))).length ≤ common.length) :
    ((settings.withEof policy).run? fuel given code (.whole (common ++ other)) sink).map
          Report.outcome =
        (settings.run? fuel given code (.whole (common ++ unread)) sink).map Report.outcome ∧
      (((settings.withEof policy).launch program (.whole (common ++ other)) sink).runWithin?
          fuel (settings.budget given)).map (fun ended => (ended.outcome, ended.tape)) =
        ((settings.launch program (.whole (common ++ unread)) sink).runWithin?
          fuel (settings.budget given)).map fun ended => (ended.outcome, ended.tape) := by
  have sameEnd := @runWithin?_of_few_reads settings policy program sink common unread other fuel
    (settings.budget given) few
  refine ⟨?_, sameEnd⟩
  have sameOutcome := congrArg (Option.map Prod.fst) sameEnd
  simp only [Option.map_map] at sameOutcome
  simp only [run?, parsed, runProgram?, Option.map_map]
  exact sameOutcome

/--
Of the two reads in a program only one is made: a second byte or the end behind it is not seen.
-/
theorem unread_input_has_no_influence_on_one_read :
    let settings : Settings := {}
    let program : Program := ⟨#[',', '.', ','], .empty, rfl⟩
    let reads := Machine.reads ((settings.launch program (.whole [65, 66]) .absent).turns 2)
    reads.length = 1 ∧
      ((settings.withEof .zero).run? 0 (some 2) ",.," (.whole [65]) .absent).map Report.outcome =
        (settings.run? 0 (some 2) ",.," (.whole [65, 66]) .absent).map Report.outcome := by
  intro settings program reads
  have few : reads.length = 1 := by decide +kernel
  refine ⟨few, ?_⟩
  exact (unread_input_has_no_influence settings .zero ",.," program rfl .absent [65] [66] [] 0
    (some 2) (Nat.le_of_eq few)).1

end Settings
end TapeMachine

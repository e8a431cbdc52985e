import TapeMachine.Proofs.Machine.Lockstep

/-!
# What a sink has taken

A machine writes every byte twice: it records the byte, and it passes the byte to its sink.  No
command looks at the sink.  So a run with a sink is the run without one, and at its end the sink has
taken the recorded bytes, one after the other.
-/

namespace TapeMachine
namespace Sink

/-- Takes bytes, one after the other. -/
def acceptAll (sink : Sink) (bytes : List UInt8) : Sink :=
  bytes.foldl accept sink

theorem acceptAll_append_singleton
    (sink : Sink)
    (bytes : List UInt8)
    (byte : UInt8) :
    sink.acceptAll (bytes ++ [byte]) = (sink.acceptAll bytes).accept byte := by
  simp only [acceptAll, List.foldl_append, List.foldl_cons, List.foldl_nil]

/--
A sink that has taken bytes beside what it held.  A buffer keeps them behind the others; a stream
has passed them on, and it has been flushed once more for each newline among them.
-/
def having (sink : Sink) (bytes : Array UInt8) : Sink :=
  match sink with
  | absent => absent
  | buffer held => buffer (held ++ bytes)
  | stream held flushes => stream (held ++ bytes) (flushes + bytes.count 0x0A)

theorem having_empty (sink : Sink) : sink.having #[] = sink := by
  cases sink with
  | absent => rfl
  | buffer held => rw [having, Array.append_empty]
  | stream held flushes => rw [having, Array.append_empty, Array.count_empty, Nat.add_zero]

/-- One more byte is kept or passed on, and only a newline flushes. -/
theorem accept_having
    (sink : Sink)
    (bytes : Array UInt8)
    (byte : UInt8) :
    (sink.having bytes).accept byte = sink.having (bytes.push byte) := by
  cases sink with
  | absent => rfl
  | buffer held => rw [having, accept, having, Array.append_push]
  | stream held flushes =>
      rw [having, accept, having, Array.append_push, Array.count_push]
      by_cases isNewline : byte = 0x0A
      · simp [isNewline, Nat.add_assoc]
      · simp [isNewline]

/-- Taking bytes one after the other is having them all. -/
theorem acceptAll_eq_having (sink : Sink) (bytes : List UInt8) :
    sink.acceptAll bytes = sink.having bytes.toArray := by
  induction bytes using List.reverseRecOn with
  | nil => exact sink.having_empty.symm
  | append_singleton bytes byte inductionHypothesis =>
      rw [acceptAll_append_singleton, inductionHypothesis, accept_having, List.push_toArray]

theorem data_close (sink : Sink) : sink.close.data = sink.data := by
  cases sink with
  | absent | buffer | stream => rfl

end Sink

namespace Machine

/-- The machine if a sink had taken the bytes that it has recorded. -/
def heardBy (machine : Machine) (sink : Sink) : Machine :=
  { machine with sink := sink.acceptAll machine.output.toList }

section Hearing

variable (machine : Machine) (sink : Sink)

theorem sink_heardBy : (machine.heardBy sink).sink = sink.having machine.output :=
  Sink.acceptAll_eq_having sink machine.output.toList

/-- The sink takes the byte that is recorded. -/
theorem emit_heardBy : (machine.heardBy sink).emit = machine.emit.heardBy sink := by
  have taken : sink.acceptAll (machine.output.push machine.cell).toList =
      (sink.acceptAll machine.output.toList).accept machine.cell := by
    rw [Array.toList_push, Sink.acceptAll_append_singleton]
  simp only [emit, heardBy, taken]
  rfl

theorem receive_heardBy : (machine.heardBy sink).receive = machine.receive.heardBy sink := by
  obtain ⟨feed, queue, exhausted⟩ := fill_congr (machine.heardBy sink) machine rfl rfl rfl
  have received : (machine.heardBy sink).received? = machine.received? :=
    received?_congr _ _ rfl rfl rfl rfl
  rw [receive_eq, receive_eq machine, feed, queue, exhausted, received]
  rfl

/-- Effects do not depend on the sink, and keep it up with the record. -/
theorem effect_heardBy (command : Command) :
    (machine.heardBy sink).effect command = (machine.effect command).map (·.heardBy sink) := by
  cases command with
  | output => exact congrArg Except.ok (machine.emit_heardBy sink)
  | input => exact congrArg Except.ok (machine.receive_heardBy sink)
  | moveLeft | moveRight => exact shift_map (·.heardBy sink) (fun _ _ _ => rfl) machine _
  | increment | decrement | loopOpen | loopClose => rfl

end Hearing

/-- A machine runs in lockstep with the one whose sink has taken its record. -/
theorem lockstep_heardBy (sink : Sink) :
    Lockstep (fun _ => True) fun machine other => other = machine.heardBy sink where
  abreast := by
    rintro machine other rfl
    exact ⟨rfl, rfl, rfl, rfl, rfl⟩
  steer := by
    rintro machine other rfl position cycles status failure?
    rfl
  cell := by
    rintro machine other rfl -
    rfl
  effect := by
    rintro machine other command rfl - -
    rw [effect_heardBy]
    cases machine.effect command with
    | error cause => exact .inl ⟨cause, rfl, rfl⟩
    | ok changed => exact .inr ⟨changed, _, rfl, rfl, rfl⟩

theorem run_heardBy
    (machine : Machine)
    (sink : Sink)
    (budget : Nat) :
    (machine.heardBy sink).run budget = (machine.run budget).heardBy sink :=
  (lockstep_heardBy sink).run rfl fun _ _ => trivial

theorem runWithin?_heardBy
    (machine : Machine)
    (sink : Sink)
    (fuel : Nat)
    (budget : Option Int) :
    (machine.heardBy sink).runWithin? fuel budget =
      (machine.runWithin? fuel budget).map (·.heardBy sink) := by
  cases budget with
  | some limit => exact congrArg some (machine.run_heardBy sink limit.toNat)
  | none =>
      have sameRunning : ((machine.run fuel).heardBy sink).running = (machine.run fuel).running :=
        rfl
      simp only [runWithin?, runToStop?, run_heardBy, sameRunning]
      split_ifs
      · rfl
      · rfl

end Machine

namespace Settings

/-- A run with a sink is the run without one, except that the sink has taken the output. -/
theorem run?_eq_run?_absent
    (settings : Settings)
    (fuel : Nat)
    (given : Option Int)
    (code : String)
    (source : Source)
    (sink : Sink) :
    settings.run? fuel given code source sink =
      (settings.run? fuel given code source .absent).map fun report =>
        { report with sink := sink.having report.outcome.output } := by
  unfold run?
  cases Program.parse code with
  | error rejection => exact congrArg (some ∘ Report.ofRejection rejection) sink.having_empty.symm
  | ok program =>
      have heard : settings.launch program source sink =
          (settings.launch program source .absent).heardBy sink := rfl
      simp only [runProgram?, heard, Machine.runWithin?_heardBy, Option.map_map]
      congr 1
      funext ended
      simp only [Function.comp_apply, Machine.report, Machine.sink_heardBy]
      rfl

end Settings
end TapeMachine

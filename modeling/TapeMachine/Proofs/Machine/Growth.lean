import TapeMachine.Proofs.Machine.Edges
import TapeMachine.Proofs.Tape.Growth

/-!
# Room for the cursor

On a growable tape a machine writes only where its cursor stands, and there is room for the cursor
already.  So the tape grows only when the cursor moves, and since the cursor moves by one cell at a
time the tape then doubles.  In every state of a run its size is the least power of two that exceeds
the farthest cursor so far.
-/

namespace TapeMachine
namespace Machine

/-- The cursors of a machine: the one with which it begins, and one after each of its turns. -/
def cursors (machine : Machine) (turns : List Turn) : List Int :=
  machine.cursor :: turns.map fun turn => turn.after.cursor

/-- The farthest of the cursors of a machine. -/
def farthest (machine : Machine) (turns : List Turn) : Int :=
  (turns.map fun turn => turn.after.cursor).foldl max machine.cursor

theorem max?_cursors (machine : Machine) (turns : List Turn) :
    (machine.cursors turns).max? = some (machine.farthest turns) :=
  rfl

theorem farthest_concat (machine : Machine) (turns : List Turn) (turn : Turn) :
    machine.farthest (turns ++ [turn]) = max (machine.farthest turns) turn.after.cursor := by
  rw [farthest, List.map_append, List.map_singleton, List.foldl_concat, farthest]

/-- A command makes room for the cursor that it leaves behind. -/
theorem extent_effect
    {machine changed : Machine}
    {command : Command}
    (contained : machine.tape.extent.Contains machine.cursor)
    (effect : machine.effect command = .ok changed) :
    changed.tape.extent = machine.tape.extent.ensure changed.cursor := by
  have roomy := Extent.ensure_of_contains contained
  have moves {distance : Int} (shifted : machine.shift distance = .ok changed) :
      changed.tape.extent = machine.tape.extent.ensure changed.cursor := by
    cases moved : machine.tape.move machine.cursor distance with
    | ok reached =>
        rw [shift_of_ok moved] at shifted
        cases shifted
        exact Tape.extent_move moved
    | error fault =>
        rw [shift_of_error moved] at shifted
        cases shifted
  cases command with
  | moveLeft | moveRight => exact moves effect
  | input =>
      cases effect
      rw [receive_eq]
      cases machine.received? with
      | none => exact roomy.symm
      | some byte => exact roomy.symm
  | increment | decrement | output | loopOpen | loopClose =>
      cases effect
      exact roomy.symm

/-- On a growable tape the cursor goes at most one cell further with a command. -/
theorem cursor_effect_le
    {machine changed : Machine}
    {command : Command}
    {size : Nat}
    (growable : machine.tape.extent = .growable size)
    (contained : machine.tape.extent.Contains machine.cursor)
    (effect : machine.effect command = .ok changed) :
    changed.cursor ≤ machine.cursor + 1 := by
  have grown := extent_effect contained effect
  rw [growable, Extent.ensure] at grown
  have standing : machine.cursor = machine.tape.extent.wrap machine.cursor := by
    rw [growable]
    rfl
  have moved := cursor_effect effect standing
  rw [grown] at moved
  have reached : changed.cursor = machine.cursor + stride command := moved
  have bound := (stride_le_one command).2
  omega

/--
A growable tape is snug for a machine whose cursor has come as far as an index: it has as many cells
as the least power of two that exceeds the index.
-/
structure Snug (farthest : Int) (machine : Machine) : Prop where
  /-- The cursor has come no further. -/
  cursor_le : machine.cursor ≤ farthest
  /-- The tape has no more cells than it takes, up to a power of two. -/
  isLeast : ∃ size, machine.tape.extent = .growable size ∧
    IsLeast {power : Nat | power.isPowerOfTwo ∧ farthest < power} size

/-- A command keeps the tape snug. -/
theorem Snug.effect
    {farthest : Int}
    {machine changed : Machine}
    {command : Command}
    (snug : machine.Snug farthest)
    (contained : machine.tape.extent.Contains machine.cursor)
    (effect : machine.effect command = .ok changed) :
    changed.Snug (max farthest changed.cursor) := by
  obtain ⟨cursorLe, size, growable, least⟩ := snug
  have near := cursor_effect_le growable contained effect
  have grown := extent_effect contained effect
  rw [growable] at grown
  refine ⟨le_max_right _ _, Extent.grownSize size changed.cursor, grown, ?_⟩
  exact Extent.isLeast_grownSize least (by omega)

/-- A run keeps the tape snug for the farthest cursor of its turns. -/
theorem snug_run
    {program : Program}
    {start : Extent}
    {machine : Machine}
    (sound : machine.Sound program start)
    (snug : machine.Snug machine.cursor)
    (budget : Nat) :
    (machine.run budget).Snug (machine.farthest (machine.turns budget)) := by
  induction budget with
  | zero =>
      obtain ⟨position, status, settled⟩ := machine.exists_run_zero_eq
      rw [settled]
      exact ⟨snug.cursor_le, snug.isLeast⟩
  | succ budget inductionHypothesis =>
      rw [turns_succ, run_succ_right]
      rcases (machine.settled_run budget).run_one_cases with ⟨stopped, same⟩ |
        ⟨runs, command, changed, found, effect, advanced⟩ |
        ⟨runs, command, cause, found, effect, failed⟩
      · rw [turn?_of_not_running stopped, same, Option.toList_none, List.append_nil]
        exact inductionHypothesis
      · have next := inductionHypothesis.effect (sound.run budget).cursor_contained effect
        rw [turn?_of_command? runs found, Option.toList_some, farthest_concat, perform_eq, effect,
          advanced]
        exact ⟨next.cursor_le, next.isLeast⟩
      · -- the command that fails leaves the cursor where it is
        rw [turn?_of_command? runs found, Option.toList_some, farthest_concat, perform_eq, effect,
          failed]
        have stays : max (machine.farthest (machine.turns budget)) (machine.run budget).cursor =
            machine.farthest (machine.turns budget) :=
          max_eq_left inductionHypothesis.cursor_le
        simp only [fail, stays]
        exact ⟨inductionHypothesis.cursor_le, inductionHypothesis.isLeast⟩

end Machine

namespace Settings

/-- A growable tape starts with one cell, which suits the cursor at its first index. -/
theorem snug_launch
    {settings : Settings}
    (growable : settings.addressing = .growable)
    (program : Program)
    (source : Source)
    (sink : Sink) :
    (settings.launch program source sink).Snug (settings.launch program source sink).cursor where
  cursor_le := le_refl _
  isLeast := by
    refine ⟨1, ?_, ⟨Nat.isPowerOfTwo_one, Int.zero_lt_one⟩, ?_⟩
    · change settings.extent = _
      rw [extent, growable]
    · rintro power ⟨isPower, -⟩
      exact Nat.pos_of_isPowerOfTwo isPower

/--
A growable tape grows as much as it has to and not much more.  Whatever accesses it has been
through, it has more cells than the largest index at which it was written to or to which a move has
led, and not more than twice that index unless it began with more; it has the cells with which it
began as long as there is no such index.  No access takes cells away, and one that adds cells at
least doubles their number.

The tape of a machine starts with one cell.  In every state that calls can reach, its size is the
least power of two that exceeds the largest of the cursors so far.
-/
theorem growth_is_sufficient_and_bounded :
    (∀ given : Int, 1 ≤ given →
      ∃ start, Tape.growable? given = .ok start ∧
        ∀ accesses : List Access,
          let tape := start.afterAll accesses
          ∃ size : Nat, tape.extent.size? = some size ∧
            (∀ farthest, (start.destinations accesses).max? = some farthest →
              farthest < size ∧ (size : Int) ≤ max given (2 * farthest)) ∧
            (start.destinations accesses = [] → (size : Int) = given) ∧
            ∀ access, ∃ next : Nat, (tape.after access).extent.size? = some next ∧
              size ≤ next ∧ (next ≠ size → 2 * size ≤ next)) ∧
      ∀ settings : Settings, settings.addressing = .growable →
        ∀ (program : Program) (source : Source) (sink : Sink) (fuel : Nat) (calls : List Call)
          (machine : Machine),
          let start := settings.launch program source sink
          start.answerAll? fuel calls = some machine →
            ∃ (farthest : Int) (size : Nat),
              (start.cursors (start.turnsAlong fuel calls)).max? = some farthest ∧
                machine.tape.extent.size? = some size ∧
                IsLeast {power : Nat | power.isPowerOfTwo ∧ farthest < power} size := by
  constructor
  · intro given positive
    obtain ⟨initial, rfl⟩ := Int.eq_ofNat_of_zero_le (Int.le_trans (by decide) positive)
    have made : Tape.growable? initial = .ok (.ofExtent (.growable initial)) := by
      simp [Tape.growable?, Extent.growable?, Int.not_lt.mpr positive, Except.map]
    refine ⟨.ofExtent (.growable initial), made, ?_⟩
    intro accesses tape
    have initialPositive : 0 < initial := by omega
    have blank : (Tape.ofExtent (.growable initial)).extent = .growable initial := rfl
    obtain ⟨size, growable, suits⟩ := Tape.exists_size_afterAll blank initialPositive accesses
    refine ⟨size, by rw [growable]; rfl, fun farthest => suits.bounds_of_max?, ?_, ?_⟩
    · intro none
      rcases suits.needed with same | ⟨index, member, -⟩
      · rw [same]
      · rw [none] at member
        cases member
    · intro access
      obtain ⟨next, nextGrowable, suitsNext, doubles⟩ :=
        Tape.exists_size_after growable (Nat.lt_of_lt_of_le initialPositive suits.le_size) access
      exact ⟨next, by rw [nextGrowable]; rfl, suitsNext.le_size, doubles⟩
  · intro settings growable program source sink fuel calls machine start reached
    obtain ⟨steps, position, status, sameTurns, ran⟩ := exists_run_of_answerAll? reached
    have snug := Machine.snug_run (settings.launch_sound program source sink)
      (snug_launch growable program source sink) steps
    rw [ran, ← sameTurns] at snug
    obtain ⟨-, size, hasSize, least⟩ := snug
    have same : machine.tape.extent = .growable size := hasSize
    exact ⟨_, size, start.max?_cursors _, by rw [same]; rfl, least⟩

/--
A tape of three cells is written to behind its last cell and left by a move far beyond it, and a
machine walks to the third cell and back.
-/
theorem growth_suits_leap_and_walk :
    let accesses : List Access := [.write 2 1, .write 3 7, .move 3 20, .move 0 (-1)]
    let settings : Settings := { addressing := .growable }
    let program : Program := ⟨#['>', '>', '+', '<'], .empty, rfl⟩
    let launched := settings.launch program .closed .absent
    let calls : List Call := [.step, .run (some 3)]
    (∃ start size, Tape.growable? 3 = .ok start ∧
      (start.destinations accesses).max? = some 23 ∧
      (start.afterAll accesses).extent.size? = some size ∧ 23 < size ∧ size ≤ 46) ∧
      ∃ machine size, launched.answerAll? 0 calls = some machine ∧
        machine.cursor = 1 ∧
        (launched.cursors (launched.turnsAlong 0 calls)).max? = some 2 ∧
        machine.tape.extent.size? = some size ∧
        IsLeast {power : Nat | power.isPowerOfTwo ∧ (2 : Int) < power} size := by
  intro accesses settings program launched calls
  obtain ⟨ofAccesses, ofCalls⟩ := growth_is_sufficient_and_bounded
  constructor
  · obtain ⟨start, made, grows⟩ := ofAccesses 3 (by decide)
    have isBlank : start = .ofExtent (.growable 3) := (Except.ok.inj made).symm
    have largest : (start.destinations accesses).max? = some 23 := by
      rw [isBlank]
      decide +kernel
    obtain ⟨size, hasSize, bounds, -, -⟩ := grows accesses
    obtain ⟨beyond, within⟩ := bounds 23 largest
    exact ⟨start, size, made, largest, hasSize, Int.ofNat_lt.mp beyond, Int.ofNat_le.mp within⟩
  · have largest : (launched.cursors (launched.turnsAlong 0 calls)).max? = some 2 := by
      decide +kernel
    obtain ⟨farthest, size, isFarthest, hasSize, least⟩ :=
      ofCalls settings rfl program .closed .absent 0 calls (launched.step.run 3) rfl
    obtain rfl : 2 = farthest := Option.some.inj (largest.symm.trans isFarthest)
    exact ⟨_, size, rfl, by decide +kernel, largest, hasSize, least⟩

end Settings
end TapeMachine

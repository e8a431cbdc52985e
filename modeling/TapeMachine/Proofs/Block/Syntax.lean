import TapeMachine.Command
import TapeMachine.Proofs.Brackets.Balance

/-!
# Blocks

A program with nested loops instead of brackets: a block is a sequence of actions and loops, and
the body of a loop is a block again.  Comments are left out.

A text spells a block when it is the block with comments in between.  A text spells a block
exactly when it is balanced, and reading it gives the block that it spells.
-/

namespace TapeMachine

/-- A command that is no bracket. -/
inductive Action
  | increment
  | decrement
  | moveLeft
  | moveRight
  | output
  | input
  deriving DecidableEq, Repr

/-- The command of an action. -/
def Action.command : Action → Command
  | increment => .increment
  | decrement => .decrement
  | moveLeft => .moveLeft
  | moveRight => .moveRight
  | output => .output
  | input => .input

/-- A sequence of actions and loops. -/
inductive Block
  | done
  | act (action : Action) (rest : Block)
  | loop (body rest : Block)
  deriving DecidableEq, Repr

namespace Block

/-- One block after another. -/
def append : Block → Block → Block
  | done, last => last
  | act action rest, last => act action (rest.append last)
  | loop body rest, last => loop body (rest.append last)

@[simp] theorem append_done (block : Block) : block.append done = block := by
  induction block with
  | done => rfl
  | act action rest inductionHypothesis => rw [append, inductionHypothesis]
  | loop body rest _ inductionHypothesis => rw [append, inductionHypothesis]

/--
Puts a command in front of a block that stands inside other loops.  What follows each of these
loops comes innermost first.  A close begins the body of another loop; an open ends the innermost.
-/
def extend : Command → Block × List Block → Option (Block × List Block)
  | .increment, (block, behind) => some (act .increment block, behind)
  | .decrement, (block, behind) => some (act .decrement block, behind)
  | .moveLeft, (block, behind) => some (act .moveLeft block, behind)
  | .moveRight, (block, behind) => some (act .moveRight block, behind)
  | .output, (block, behind) => some (act .output block, behind)
  | .input, (block, behind) => some (act .input block, behind)
  | .loopClose, (block, behind) => some (done, block :: behind)
  | .loopOpen, (body, rest :: behind) => some (loop body rest, behind)
  | .loopOpen, (_, []) => none

/-- Reads a text from its end.  Loops that are closed and not yet opened are kept apart. -/
def read : List Char → Option (Block × List Block)
  | [] => some (done, [])
  | character :: text =>
      match Command.ofChar? character with
      | none => read text
      | some command => (read text).bind (extend command)

/-- The block that a text stands for, if every loop is opened and closed. -/
def ofText? (text : List Char) : Option Block :=
  match read text with
  | some (block, []) => some block
  | _ => none

/-- A text is a block with comments in between. -/
inductive Spells : List Char → Block → Prop
  /-- Nothing spells the empty block. -/
  | done : Spells [] .done
  /-- A comment may stand anywhere. -/
  | comment {character : Char} {text : List Char} {block : Block}
      (isComment : Command.ofChar? character = none)
      (spelled : Spells text block) :
      Spells (character :: text) block
  /-- The symbol of an action comes before the rest. -/
  | act {text : List Char} {rest : Block}
      (action : Action)
      (spelled : Spells text rest) :
      Spells (action.command.symbol :: text) (.act action rest)
  /-- The body of a loop stands in brackets. -/
  | loop {inner after : List Char} {body rest : Block}
      (spelledBody : Spells inner body)
      (spelledRest : Spells after rest) :
      Spells ('[' :: (inner ++ ']' :: after)) (.loop body rest)

/-- A text that spells a block and is followed by another is read as the block and what follows. -/
theorem Spells.read_append
    {text : List Char}
    {block : Block}
    (spelled : Spells text block)
    (more : List Char) :
    read (text ++ more) =
      (read more).map fun found => (block.append found.1, found.2) := by
  induction spelled generalizing more with
  | done =>
      rw [List.nil_append]
      cases read more with
      | none => rfl
      | some found => rfl
  | comment isComment _ inductionHypothesis =>
      rw [List.cons_append, read, isComment]
      exact inductionHypothesis more
  | act action _ inductionHypothesis =>
      rw [List.cons_append, read, Command.ofChar?_symbol, inductionHypothesis]
      cases read more with
      | none => rfl
      | some found =>
          cases action <;> rfl
  | @loop inner after body rest _ _ bodyHypothesis restHypothesis =>
      have opened : Command.ofChar? '[' = some .loopOpen := rfl
      have closed : Command.ofChar? ']' = some .loopClose := rfl
      have shape : '[' :: (inner ++ ']' :: after) ++ more =
          '[' :: (inner ++ (']' :: (after ++ more))) := by simp
      rw [shape, read, opened]
      simp only
      rw [bodyHypothesis, read, closed]
      simp only
      rw [restHypothesis]
      cases read more with
      | none => rfl
      | some found =>
          simp [extend, append]

/-- Reading a text gives the block that it spells. -/
theorem Spells.ofText?_eq
    {text : List Char}
    {block : Block}
    (spelled : Spells text block) :
    ofText? text = some block := by
  have found := spelled.read_append []
  rw [List.append_nil] at found
  rw [ofText?, found]
  simp [read]

/-- A balanced text spells a block. -/
theorem exists_spells_of_balanced
    {text : List Char}
    (balanced : Brackets.Balanced text) :
    ∃ block, Spells text block := by
  -- the body of a loop is shorter than the text, but it is no tail of it
  induction size : text.length using Nat.strong_induction_on generalizing text with
  | _ size inductionHypothesis =>
      cases text with
      | nil => exact ⟨.done, .done⟩
      | cons character rest =>
          rw [List.length_cons] at size
          have notClose := balanced.head_ne_close
          by_cases isOpen : character = '['
          · subst isOpen
            obtain ⟨inner, after, rfl, innerBalanced, afterBalanced⟩ := balanced.exists_close
            rw [List.length_append, List.length_cons] at size
            obtain ⟨body, spelledBody⟩ :=
              inductionHypothesis inner.length (by omega) innerBalanced rfl
            obtain ⟨remainder, spelledRest⟩ :=
              inductionHypothesis after.length (by omega) afterBalanced rfl
            exact ⟨.loop body remainder, .loop spelledBody spelledRest⟩
          · have single : Brackets.Balanced ([character] ++ rest) := balanced
            have restBalanced := single.of_append
              (Brackets.Balanced.singleton isOpen notClose).level_eq_zero
            obtain ⟨remainder, spelled⟩ :=
              inductionHypothesis rest.length (by omega) restBalanced rfl
            cases meaning : Command.ofChar? character with
            | none => exact ⟨remainder, .comment meaning spelled⟩
            | some command =>
                obtain rfl := Command.ofChar?_eq_some_iff.mp meaning
                cases command with
                | increment => exact ⟨_, .act .increment spelled⟩
                | decrement => exact ⟨_, .act .decrement spelled⟩
                | moveLeft => exact ⟨_, .act .moveLeft spelled⟩
                | moveRight => exact ⟨_, .act .moveRight spelled⟩
                | output => exact ⟨_, .act .output spelled⟩
                | input => exact ⟨_, .act .input spelled⟩
                | loopOpen => exact absurd rfl isOpen
                | loopClose => exact absurd rfl notClose

/-- A text that spells a block is balanced. -/
theorem Spells.balanced
    {text : List Char}
    {block : Block}
    (spelled : Spells text block) :
    Brackets.Balanced text := by
  induction spelled with
  | done => exact .nil
  | @comment character text _ isComment _ inductionHypothesis =>
      have single : Brackets.Balanced [character] := by
        apply Brackets.Balanced.singleton
        · rintro rfl
          cases isComment
        · rintro rfl
          cases isComment
      exact single.append inductionHypothesis
  | @act text _ action _ inductionHypothesis =>
      have single : Brackets.Balanced [action.command.symbol] := by
        cases action <;> exact Brackets.Balanced.singleton (by decide) (by decide)
      exact single.append inductionHypothesis
  | @loop inner after _ _ _ _ bodyHypothesis restHypothesis =>
      have shape : '[' :: (inner ++ ']' :: after) = '[' :: (inner ++ [']']) ++ after := by simp
      rw [shape]
      exact bodyHypothesis.enclose.append restHypothesis

end Block
end TapeMachine

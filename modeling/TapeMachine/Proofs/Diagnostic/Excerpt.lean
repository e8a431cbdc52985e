import TapeMachine.Proofs.Machine.Outcomes

/-!
# Excerpts

A diagnostic is shown with an excerpt of the program, which has to have the lines that the excerpt
is made of.  The line of a location is one more than the number of newlines before it, and a text
has one line more than it has newlines.  So the line of a location in a text is always there, and so
are the lines before it, however many of them are asked for.

A rejection is located in the text that it rejects, so it can always be shown.
-/

namespace TapeMachine

/-- If a step never fails on the elements of a list, it does not fail on the list. -/
theorem mapM_eq_pure_map
    {Effect : Type → Type}
    [Monad Effect]
    [LawfulMonad Effect]
    {Element Result : Type}
    {step : Element → Effect Result}
    {result : Element → Result}
    {elements : List Element}
    (never : ∀ element ∈ elements, step element = pure (result element)) :
    elements.mapM step = pure (elements.map result) := by
  induction elements with
  | nil => rw [List.mapM_nil, List.map_nil]
  | cons element rest inductionHypothesis =>
      obtain ⟨here, others⟩ := List.forall_mem_cons.mp never
      rw [List.mapM_cons, here, inductionHypothesis others, pure_bind, pure_bind, List.map_cons]

/-- A text has one line more than it has newlines. -/
theorem Text.length_lines (text : List Char) : (lines text).length = text.count '\n' + 1 := by
  induction text with
  | nil => rfl
  | cons character rest inductionHypothesis =>
      unfold lines
      split_ifs with isNewline
      · rw [List.length_cons, inductionHypothesis, isNewline, List.count_cons_self]
      · rw [List.count_cons_of_ne isNewline, ← inductionHypothesis]
        -- the character joins the first of the other lines, of which there is at least one
        split
        · next empty => exact absurd empty (lines_ne_nil rest)
        · next line more found => rw [found, List.length_cons, List.length_cons]

namespace Location

/-- The line of a location in a text is one of the lines of the text. -/
theorem line_ofOffset_le (program : List Char) (offset : Int) :
    (ofOffset program offset).line ≤ (Text.lines program).length := by
  have before := (List.take_sublist (extentBefore program.length offset) program).count_le '\n'
  rw [Text.length_lines]
  simp only [ofOffset]
  omega

end Location

namespace Diagnostic

/-- An excerpt has lines from the first one on up to the line of its location. -/
theorem bounds_of_mem_excerptNumbers
    {line context : Int}
    {number : Nat}
    (listed : number ∈ excerptNumbers line context) :
    1 ≤ number ∧ (number : Int) ≤ line := by
  simp only [excerptNumbers, List.mem_map, List.mem_range] at listed
  obtain ⟨step, small, rfl⟩ := listed
  omega

/-- An excerpt up to a line of a text has the lines of the text behind their numbers. -/
theorem excerpt?_eq
    {program : List Char}
    {line : Int}
    (inside : line ≤ (Text.lines program).length)
    (width : Nat)
    (context : Int) :
    excerpt? program width (excerptNumbers line context) =
      some ((excerptNumbers line context).map fun number =>
        row width (toString number)
          (String.ofList ((Text.lines program)[number - 1]?.getD []))) := by
  apply mapM_eq_pure_map
  intro number listed
  obtain ⟨positive, small⟩ := bounds_of_mem_excerptNumbers listed
  have present : number - 1 < (Text.lines program).length := by omega
  rw [List.getElem?_eq_getElem present]
  rfl

/-- A diagnostic that is located in a text can be shown with an excerpt of the text. -/
theorem exists_render?
    {found : Diagnostic}
    {program : List Char}
    {offset : Int}
    (located : found.location = .ofOffset program offset)
    (context : Int) :
    ∃ rendering, found.render? program context = some rendering := by
  have enough := Location.line_ofOffset_le program offset
  rw [← located] at enough
  simp only [render?, rows?, excerpt?_eq enough]
  exact ⟨_, rfl⟩

end Diagnostic

/-- A rejection is located in the text that has been rejected. -/
theorem Program.location_of_parse_eq_error
    {code : String}
    {rejection : Rejection}
    (rejected : parse code = .error rejection) :
    ∃ offset, rejection.location = .ofOffset code.toList offset := by
  have refused := matchLoops_of_parse_eq_error rejected
  unfold matchLoops at refused
  split at refused
  · cases refused
  · cases refused
    exact ⟨_, rfl⟩

end TapeMachine

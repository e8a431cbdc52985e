import TapeMachine.Proofs.Settings.Settling
import TapeMachine.Proofs.Text.Spelling

/-!
# Encodings of settings

Settings can be written to a document and to the environment, and both of them give the settings
back.  In the environment there is more than one way to write them: names may be spelled in any mix
of cases with blanks around them, and a number that is not there may be left out or left empty.
-/

namespace TapeMachine

theorem Addressing.isPlain_name (policy : Addressing) : Text.IsPlain policy.name := by
  cases policy <;> decide

theorem EofPolicy.isPlain_name (policy : EofPolicy) : Text.IsPlain policy.name := by
  cases policy <;> decide

theorem Value.ite_isNull (value : Value) :
    (if value.isNull then .null else value) = value := by
  unfold Value.isNull
  split
  · rfl
  · rfl

namespace Draft

/-! ## Values that name a policy or hold a number -/

theorem chooseAddressing_of_spells
    {text : String}
    {policy : Addressing}
    (spells : Text.Spells text policy.name) :
    chooseAddressing (.text text) = .ok policy := by
  have name : plainName (.text text) = policy.name := spells.lowerCase_strip policy.isPlain_name
  simp only [chooseAddressing, name, Addressing.ofName?_name]

theorem chooseEof_of_spells
    {text : String}
    {policy : EofPolicy}
    (spells : Text.Spells text policy.name) :
    chooseEof (.text text) = .ok policy := by
  have name : plainName (.text text) = policy.name := spells.lowerCase_strip policy.isPlain_name
  simp only [chooseEof, name, EofPolicy.ofName?_name]

/-- A text holds the number whose decimal it is. -/
theorem integer_toString
    {number : Nat}
    (short : (toString number).length ≤ Text.digitLimit) :
    integer (.text (toString number)) = .ok (number : Int) := by
  rw [integer, Value.toInt, Text.readInteger_toString short]
  rfl

/-- A text that is not empty holds a number that may be missing like one that may not. -/
theorem optionalInteger_text
    {content : String}
    (nonempty : content ≠ "") :
    optionalInteger (.text content) = (integer (.text content)).map some := by
  have given : Value.toOptionalInt (.text content) = (Value.toInt (.text content)).map some := by
    unfold Value.toOptionalInt
    split
    · rename_i same
      cases same
    · rename_i same
      cases same
      exact absurd rfl nonempty
    · rfl
  rw [optionalInteger, given, integer]
  cases Value.toInt (.text content) with
  | ok number => rfl
  | error fault => rfl

theorem optionalInteger_toString
    {number : Nat}
    (short : (toString number).length ≤ Text.digitLimit) :
    optionalInteger (.text (toString number)) = .ok (some (number : Int)) := by
  have nonempty : toString number ≠ "" := by
    intro empty
    have characters := congrArg String.toList empty
    rw [Nat.toString_eq_repr, Nat.toList_repr] at characters
    exact Nat.toDigits_ne_nil characters
  rw [optionalInteger_text nonempty, integer_toString short]
  rfl

end Draft

/-! ## The environment -/

namespace Variable

/-- A variable spells a name. -/
def Names (given : Option String) (name : String) : Prop :=
  ∃ text, given = some text ∧ Text.Spells text name

/-- A variable holds the decimal of a number, which has no more digits than can be read. -/
def Holds (given : Option String) (number : Nat) : Prop :=
  given = some (toString number) ∧ (toString number).length ≤ Text.digitLimit

/-- A variable holds a number that may be missing; it is then empty, or not set. -/
def HoldsOptional (given : Option String) : Option Nat → Prop
  | none => given = none ∨ given = some ""
  | some number => Holds given number

/-- The value of a variable; one that is not set is null. -/
abbrev value (given : Option String) : Value := given.elim .null .text

/-- A number that may be missing is read from its variable as it was written. -/
theorem HoldsOptional.optionalInteger
    {given : Option String}
    {expected : Option Nat}
    (holds : HoldsOptional given expected) :
    Draft.optionalInteger (value given) =
      .ok (expected.map fun number : Nat => (number : Int)) := by
  cases expected with
  | none =>
      rcases holds with rfl | rfl
      · rfl
      · rfl
  | some number =>
      obtain ⟨rfl, short⟩ := holds
      exact Draft.optionalInteger_toString short

end Variable

namespace Settings

/-- An environment in which settings are written.  Its other variables are of no concern. -/
structure WrittenIn
    (settings : Settings)
    (environment : String → Option String) : Prop where
  /-- The addressing is spelled in any way. -/
  addressing : Variable.Names (environment "BF_ADDRESSING") settings.addressing.name
  /-- The behaviour at the end of the input is spelled in any way. -/
  eof : Variable.Names (environment "BF_EOF") settings.eof.name
  /-- The number of cells is given. -/
  tapeSize : Variable.Holds (environment "BF_TAPE_SIZE") settings.tapeSize.val
  /-- The modulus is given if there is one. -/
  modulus :
    Variable.HoldsOptional (environment "BF_TAPE_MODULUS") (settings.modulus.map (·.val))
  /-- The number of steps is given if there is a limit. -/
  maxSteps : Variable.HoldsOptional (environment "BF_STEP_LIMIT") settings.maxSteps

/-- Settings are read from a document as they were written. -/
theorem ofValue_toEntries_eq_ok (settings : Settings) :
    ofValue (.map settings.toEntries) = .ok settings := by
  rw [ofValue_toEntries]
  apply Draft.settle_eq_ok
  case addressing =>
    exact Draft.chooseAddressing_of_spells (Text.spells_self settings.addressing.isPlain_name)
  case eof => exact Draft.chooseEof_of_spells (Text.spells_self settings.eof.isPlain_name)
  case tapeSize => rfl
  case modulus =>
    rw [get]
    cases settings.modulus with
    | none => rfl
    | some number => rfl
  case maxSteps =>
    rw [get]
    cases settings.maxSteps with
    | none => rfl
    | some limit => rfl

/-- Settings are read from an environment as they were written. -/
theorem WrittenIn.ofEnvironment_eq_ok
    {settings : Settings}
    {environment : String → Option String}
    (written : settings.WrittenIn environment) :
    ofEnvironment environment = .ok settings := by
  rw [ofEnvironment, ofVariables_eq_settle]
  apply Draft.settle_eq_ok
  case addressing =>
    obtain ⟨text, given, spells⟩ := written.addressing
    rw [Field.variableName, given]
    exact Draft.chooseAddressing_of_spells spells
  case eof =>
    obtain ⟨text, given, spells⟩ := written.eof
    rw [Field.variableName, given]
    exact Draft.chooseEof_of_spells spells
  case tapeSize =>
    obtain ⟨given, short⟩ := written.tapeSize
    rw [Field.variableName, given]
    exact Draft.integer_toString short
  -- A number that may be missing is missing by default, so its variable counts though it is null.
  case modulus =>
    have holds := written.modulus.optionalInteger
    rw [Option.map_map] at holds
    rw [Field.variableName, get, Option.elim_none, Value.ite_isNull]
    exact holds
  case maxSteps =>
    have holds := written.maxSteps.optionalInteger
    rw [Field.variableName, get, Option.elim_none, Value.ite_isNull]
    exact holds

/--
Settings survive both of their encodings: the document to which they are written gives them back,
and so does every environment in which they are written.
-/
theorem settings_survive_both_encodings (settings : Settings) :
    ofValue (.map settings.toEntries) = .ok settings ∧
      ∀ environment, settings.WrittenIn environment →
        ofEnvironment environment = .ok settings := by
  refine ⟨settings.ofValue_toEntries_eq_ok, ?_⟩
  intro environment written
  exact written.ofEnvironment_eq_ok

/--
Settings in an environment that spells the addressing in mixed cases between blanks, leaves the
limit empty, leaves the modulus out and has a variable of another kind.
-/
theorem settings_survive_mixed_environment :
    let settings : Settings :=
      { addressing := .sparse, tapeSize := ⟨12, by decide⟩, eof := .zero }
    let environment : String → Option String := fun name =>
      [("BF_ADDRESSING", " SpArSe\t"), ("BF_EOF", "ZERO\n"), ("BF_TAPE_SIZE", "12"),
        ("BF_STEP_LIMIT", ""), ("BF_MODULUS", "7")].lookup name
    settings.WrittenIn environment ∧ ofEnvironment environment = .ok settings := by
  intro settings environment
  have written : settings.WrittenIn environment := by
    refine ⟨⟨" SpArSe\t", rfl, ?_⟩, ⟨"ZERO\n", rfl, ?_⟩, ⟨by decide, by decide⟩,
      .inl rfl, .inr rfl⟩
    · exact ⟨[' '], "SpArSe".toList, ['\t'], by decide, List.forall_mem_singleton.mpr (by decide),
        List.forall_mem_singleton.mpr (by decide), by decide⟩
    · exact ⟨[], "ZERO".toList, ['\n'], by decide, List.forall_mem_nil _,
        List.forall_mem_singleton.mpr (by decide), by decide⟩
  exact ⟨written, (settings_survive_both_encodings settings).2 environment written⟩

end Settings
end TapeMachine

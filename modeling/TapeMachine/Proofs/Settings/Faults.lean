import TapeMachine.CommandLine.World
import TapeMachine.Proofs.Settings.Settling

/-!
# Faults of settings

Bad settings are meant to be reported.  Some values are of a kind that no integer can be made of,
and these break the command off instead.  The values of a draft are converted in a fixed order, so
that such a value breaks the command off exactly if every value before it can be converted.
-/

namespace TapeMachine

open CommandLine (Severity)

/-! ## Results that break off -/

/-- A result is a fault that is not reported. -/
def BreaksOff (severity : ε → Severity) (result : Except ε α) : Prop :=
  ∃ fault, result = .error fault ∧ severity fault ≠ .reported

namespace BreaksOff

variable {severity : ε → Severity}

@[simp]
theorem not_ok (value : α) : ¬ BreaksOff severity (.ok value) := by
  simp [BreaksOff]

@[simp]
theorem error_iff (fault : ε) :
    BreaksOff severity (.error fault : Except ε α) ↔ severity fault ≠ .reported := by
  simp [BreaksOff]

/-- Two results in turn break off if the first does, or if it is there and the second does. -/
theorem bind_iff
    (result : Except ε α)
    (next : α → Except ε β) :
    BreaksOff severity (result >>= next) ↔
      BreaksOff severity result ∨
        ∃ value, result = .ok value ∧ BreaksOff severity (next value) := by
  cases result with
  | ok value => simp [bind, Except.bind]
  | error fault => simp [bind, Except.bind]

theorem map_iff
    (result : Except ε α)
    (change : α → β) :
    BreaksOff severity (result.map change) ↔ BreaksOff severity result := by
  cases result with
  | ok value => simp [Except.map]
  | error fault => simp [Except.map]

/-- A fault that is restated is judged as it is restated. -/
theorem mapError_iff
    {restated : δ → Severity}
    (result : Except ε α)
    (restate : ε → δ) :
    BreaksOff restated (result.mapError restate) ↔
      BreaksOff (fun fault => restated (restate fault)) result := by
  cases result with
  | ok value => simp [Except.mapError]
  | error fault => simp [Except.mapError]

end BreaksOff

/-! ## Values and fields -/

namespace Value

/-- Whether integers are made of values of this kind: scalars but null, policies and infinities. -/
def isNumeric : Value → Bool
  | .null => false
  | .member _ => false
  | .float (.infinite _) => false
  | .scalar _ => true
  | _ => false

/-- Making an integer of a value breaks off exactly if the value is of another kind. -/
theorem breaksOff_toInt_iff (value : Value) :
    BreaksOff Severity.ofNumber value.toInt ↔ value.isNumeric = false := by
  cases value with
  | list items => simp [toInt, isNumeric, Severity.ofNumber]
  | map entries => simp [toInt, isNumeric, Severity.ofNumber]
  | scalar content =>
      cases content with
      | null => simp [toInt, isNumeric, Severity.ofNumber]
      | member policy => simp [toInt, isNumeric, Severity.ofNumber]
      | bool truth => simp [toInt, isNumeric]
      | int number => simp [toInt, isNumeric]
      | text content =>
          cases read : Text.readInteger content with
          | ok number => simp [toInt, isNumeric, read]
          | error fault =>
              simp [toInt, isNumeric, read, Severity.ofNumber]
      | float number =>
          cases number with
          | infinite negative => simp [toInt, isNumeric, Severity.ofNumber]
          | nan => simp [toInt, isNumeric, Severity.ofNumber]
          | finite negative mantissa exponent =>
              cases whole : Binary64.truncate? (.finite negative mantissa exponent) with
              | some integer => simp [toInt, isNumeric, whole]
              | none => simp [toInt, isNumeric, whole, Severity.ofNumber]

/-- A number that may be missing breaks off for the same values, except that null is accepted. -/
theorem breaksOff_toOptionalInt_iff (value : Value) :
    BreaksOff Severity.ofNumber value.toOptionalInt ↔
      value.isNull = false ∧ value.isNumeric = false := by
  unfold toOptionalInt
  split
  · simp [isNull]
  · simp [isNumeric]
  · rename_i notNull _
    have given : value.isNull = false := by
      unfold isNull
      split
      · exact absurd rfl notNull
      · rfl
    rw [BreaksOff.map_iff, breaksOff_toInt_iff, given]
    simp

end Value

namespace Field

/-- Whether a value of a field is converted or reported, and does not break the command off. -/
def fits : Field → Value → Bool
  | addressing, _ => true
  | eof, _ => true
  | tapeSize, value => value.isNumeric
  | modulus, value => value.isNull || value.isNumeric
  | maxSteps, value => value.isNull || value.isNumeric

/-- The place of a field in the order in which values are converted. -/
def place : Field → Nat
  | addressing => 0
  | eof => 1
  | tapeSize => 2
  | modulus => 3
  | maxSteps => 4

end Field

/-! ## Drafts -/

namespace Draft

theorem not_breaksOff_chooseAddressing (value : Value) :
    ¬ BreaksOff Severity.ofSettings (chooseAddressing value) := by
  unfold chooseAddressing
  split
  · simp
  · split <;> simp [Severity.ofSettings]

theorem not_breaksOff_chooseEof (value : Value) :
    ¬ BreaksOff Severity.ofSettings (chooseEof value) := by
  unfold chooseEof
  split
  · simp
  · split <;> simp [Severity.ofSettings]

theorem breaksOff_integer_iff (value : Value) :
    BreaksOff Severity.ofSettings (integer value) ↔ Field.tapeSize.fits value = false := by
  rw [integer, BreaksOff.mapError_iff]
  exact value.breaksOff_toInt_iff

theorem breaksOff_optionalInteger_iff (value : Value) :
    BreaksOff Severity.ofSettings (optionalInteger value) ↔
      (value.isNull || value.isNumeric) = false := by
  rw [optionalInteger, BreaksOff.mapError_iff, Bool.or_eq_false_iff]
  exact value.breaksOff_toOptionalInt_iff

theorem not_breaksOff_checkTapeSize (size : Int) :
    ¬ BreaksOff Severity.ofSettings (checkTapeSize size) := by
  unfold checkTapeSize
  split <;> simp [Severity.ofSettings]

theorem not_breaksOff_checkModulus (modulus : Option Int) :
    ¬ BreaksOff Severity.ofSettings (checkModulus modulus) := by
  unfold checkModulus
  split
  · simp
  · split <;> simp [Severity.ofSettings]

theorem not_breaksOff_checkMaxSteps (limit : Option Int) :
    ¬ BreaksOff Severity.ofSettings (checkMaxSteps limit) := by
  unfold checkMaxSteps
  split
  · simp
  · split <;> simp [Severity.ofSettings]

/-- The value of a field can be converted. -/
def Converts (draft : Draft) : Field → Prop
  | .addressing => ∃ policy, chooseAddressing (draft .addressing) = .ok policy
  | .eof => ∃ policy, chooseEof (draft .eof) = .ok policy
  | .tapeSize => ∃ number, integer (draft .tapeSize) = .ok number
  | .modulus => ∃ number, optionalInteger (draft .modulus) = .ok number
  | .maxSteps => ∃ number, optionalInteger (draft .maxSteps) = .ok number

/-- A value that does not fit its field is met when all values before it have been converted. -/
def MeetsMisfit (draft : Draft) : Prop :=
  ∃ field : Field, field.fits (draft field) = false ∧
    ∀ earlier : Field, earlier.place < field.place → draft.Converts earlier

/-- Settling a draft breaks off exactly if it meets a value that does not fit. -/
theorem breaksOff_settle_iff (draft : Draft) :
    BreaksOff Severity.ofSettings draft.settle ↔ draft.MeetsMisfit := by
  simp only [settle, BreaksOff.bind_iff, BreaksOff.not_ok, not_breaksOff_chooseAddressing,
    not_breaksOff_chooseEof, breaksOff_integer_iff, breaksOff_optionalInteger_iff,
    not_breaksOff_checkTapeSize, not_breaksOff_checkModulus, not_breaksOff_checkMaxSteps,
    and_false, exists_false, false_or, or_false]
  constructor
  · rintro ⟨policy, chosen, eof, chosenEof, later⟩
    rcases later with misfit | ⟨size, sized, misfit | ⟨modulus, moduled, misfit⟩⟩
    · refine ⟨.tapeSize, misfit, fun earlier before => ?_⟩
      cases earlier <;> simp_all [Field.place, Converts]
    · refine ⟨.modulus, misfit, fun earlier before => ?_⟩
      cases earlier <;> simp_all [Field.place, Converts]
    · refine ⟨.maxSteps, misfit, fun earlier before => ?_⟩
      cases earlier <;> simp_all [Field.place, Converts]
  · rintro ⟨field, misfit, earlier⟩
    -- Any value fits the two fields that come first, so these have been converted.
    have choices : field ≠ .addressing ∧ field ≠ .eof := by
      constructor <;> rintro rfl <;> cases misfit
    have late : 2 ≤ field.place := by
      cases field <;> simp_all [Field.place]
    obtain ⟨policy, chosen⟩ := earlier .addressing (Nat.lt_of_lt_of_le (by decide) late)
    obtain ⟨eof, chosenEof⟩ := earlier .eof (Nat.lt_of_lt_of_le (by decide) late)
    refine ⟨policy, chosen, eof, chosenEof, ?_⟩
    cases field with
    | addressing => cases misfit
    | eof => cases misfit
    | tapeSize => exact .inl misfit
    | modulus =>
        obtain ⟨size, sized⟩ := earlier .tapeSize (by decide)
        exact .inr ⟨size, sized, .inl misfit⟩
    | maxSteps =>
        obtain ⟨size, sized⟩ := earlier .tapeSize (by decide)
        obtain ⟨modulus, moduled⟩ := earlier .modulus (by decide)
        exact .inr ⟨size, sized, .inr ⟨modulus, moduled, misfit⟩⟩

/-! ## Entries -/

/-- Texts that are no names of fields are reported. -/
theorem not_breaksOff_checkNames
    {keys : List Scalar}
    (texts : ∀ key ∈ keys, key.isText = true) :
    ¬ BreaksOff Severity.ofSettings (checkNames keys) := by
  have named : keys.all Scalar.isText = true := List.all_eq_true.mpr texts
  rw [checkNames, named]
  simp only [Bool.not_true, Bool.false_eq_true, if_false]
  split <;> simp [Severity.ofSettings]

/-- Entries have known names, and the draft into which they are entered meets a misfit. -/
def Misfits (draft : Draft) (entries : Entries) : Prop :=
  (∀ entry ∈ entries, ∃ field : Field, entry.1 = .text field.name) ∧
    MeetsMisfit (entries.foldl enter draft)

/-- Settling a draft with entries breaks off only on values, and only if all names are known. -/
theorem breaksOff_settleWith_iff
    (draft : Draft)
    {entries : Entries}
    (texts : ∀ entry ∈ entries, entry.1.isText = true) :
    BreaksOff Severity.ofSettings (draft.settleWith entries) ↔ draft.Misfits entries := by
  have keys : ∀ key ∈ entries.map (·.1), key.isText = true := List.forall_mem_map.mpr texts
  have accepted_iff : checkNames (entries.map (·.1)) = .ok () ↔
      ∀ entry ∈ entries, ∃ field : Field, entry.1 = .text field.name := by
    rw [checkNames_eq_ok_iff, List.forall_mem_map]
  rw [settleWith, BreaksOff.bind_iff, or_iff_right (not_breaksOff_checkNames keys),
    breaksOff_settle_iff, Misfits, ← accepted_iff]
  constructor
  · rintro ⟨_, accepted, misfit⟩
    exact ⟨accepted, misfit⟩
  · rintro ⟨accepted, misfit⟩
    exact ⟨(), accepted, misfit⟩

end Draft

namespace Settings

/-- What settings hold fits. -/
theorem fits_get (settings : Settings) (field : Field) :
    field.fits (settings.get field) = true := by
  cases field with
  | addressing => rfl
  | eof => rfl
  | tapeSize => rfl
  | modulus =>
      rw [get]
      cases settings.modulus with
      | none => rfl
      | some modulus => rfl
  | maxSteps =>
      rw [get]
      cases settings.maxSteps with
      | none => rfl
      | some limit => rfl

/-- Overrides that are null or fit do not break off. -/
theorem not_breaksOff_replace_fields
    (settings : Settings)
    {overrides : Draft}
    (fitting : ∀ field : Field, (overrides field).isNull = true ∨
      field.fits (overrides field) = true) :
    ¬ BreaksOff Severity.ofSettings
      (settings.replace (Field.all.map fun field => (.text field.name, overrides field))) := by
  rw [replace_fields, Draft.breaksOff_settle_iff]
  rintro ⟨field, misfit, -⟩
  simp only at misfit
  split at misfit
  · rw [settings.fits_get field] at misfit
    cases misfit
  · rename_i given
    rw [(fitting field).resolve_left given] at misfit
    cases misfit

end Settings
end TapeMachine

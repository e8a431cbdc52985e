import Mathlib.Logic.Function.Basic
import TapeMachine.Proofs.Machine.History
import TapeMachine.Proofs.Settings.Accepting

/-!
# Limits from the environment

The variable `BF_STEP_LIMIT` is read twice: as the limit of single-byte runs that nothing else is
said about, and as a field of the settings.  Both readers take the same texts for integers.  They
differ in two points.  The settings take an empty text for a limit that is not given, where the
other reader finds no integer; and the settings refuse a negative limit, which the other reader lets
pass.  Under a negative limit nothing is executed, so that every single-byte run answers with
nothing.

Where both readers have accepted the variable, it makes no difference from which of them a run has
its limit.
-/

namespace TapeMachine
namespace Draft

/-- A draft that can be settled is settled with another limit exactly as that limit is accepted. -/
theorem settle_put_maxSteps
    {draft : Draft}
    {base : Settings}
    (settled : draft.settle = .ok base)
    (value : Value) :
    (draft.put .maxSteps value).settle =
      (optionalInteger value >>= checkMaxSteps).map fun limit =>
        { base with maxSteps := limit } := by
  have yields := settle_eq_ok_iff.mp settled
  have kept (field : Field) (other : field ≠ .maxSteps) :
      Yields base (draft.put .maxSteps value field) field := by
    rw [put_of_ne draft .maxSteps value other]
    exact yields field
  have addressing : chooseAddressing (draft.put .maxSteps value .addressing) =
      .ok base.addressing := kept .addressing (by decide)
  have eof : chooseEof (draft.put .maxSteps value .eof) = .ok base.eof := kept .eof (by decide)
  have tapeSize : integer (draft.put .maxSteps value .tapeSize) =
      .ok (base.tapeSize.val : Int) := kept .tapeSize (by decide)
  have modulus : optionalInteger (draft.put .maxSteps value .modulus) =
      .ok (base.modulus.map fun number => (number.val : Int)) := kept .modulus (by decide)
  simp only [settle, addressing, eof, tapeSize, modulus, put_self, bind, Except.bind,
    checkTapeSize_val, checkModulus_map_val]
  cases optionalInteger value with
  | error fault => rfl
  | ok given =>
      cases checkMaxSteps given with
      | error fault => rfl
      | ok limit => rfl

/-- The limit that a text gives settings, if it is accepted. -/
def readMaxSteps (value : String) : Except SettingsFault (Option Nat) :=
  optionalInteger (.text value) >>= checkMaxSteps

end Draft

/-! ## The two readers -/

/-- What the two readers make of a text: the limit of single-byte runs and that of the settings. -/
inductive LimitReadings (value : String) :
    Except Text.IntegerFault Int → Except SettingsFault (Option Nat) → Prop
  /-- An empty text is no integer; to the settings it is no limit. -/
  | empty (isEmpty : value = "") :
      LimitReadings value (.error (.malformed "")) (.ok none)
  /-- Another text that is no integer is refused by both for the same fault. -/
  | malformed (nonempty : value ≠ "") (fault : Text.IntegerFault) :
      LimitReadings value (.error fault) (.error (.number (.text fault)))
  /-- A negative integer is refused by the settings. -/
  | negative (nonempty : value ≠ "") (limit : Int) (isNegative : limit < 0) :
      LimitReadings value (.ok limit) (.error .maxSteps)
  /-- Any other integer is accepted by both. -/
  | natural (nonempty : value ≠ "") (limit : Nat) :
      LimitReadings value (.ok limit) (.ok (some limit))

theorem limitReadings (value : String) :
    LimitReadings value (stepLimit (some value)) (Draft.readMaxSteps value) := by
  by_cases isEmpty : value = ""
  · have unread : stepLimit (some "") = .error (.malformed "") := by decide
    subst isEmpty
    rw [unread]
    exact .empty rfl
  · have read : stepLimit (some value) = Text.readInteger value := rfl
    rw [Draft.readMaxSteps, Draft.optionalInteger_text isEmpty, Draft.integer, Value.toInt, read]
    cases Text.readInteger value with
    | error fault => exact .malformed isEmpty fault
    | ok limit =>
        rcases Int.lt_or_le limit 0 with isNegative | isNatural
        · have refused : Draft.checkMaxSteps (some limit) = .error .maxSteps := by
            rw [Draft.checkMaxSteps, if_pos isNegative]
          change LimitReadings value (.ok limit) (Draft.checkMaxSteps (some limit))
          rw [refused]
          exact .negative isEmpty limit isNegative
        · obtain ⟨number, rfl⟩ := Int.eq_ofNat_of_zero_le isNatural
          change LimitReadings value (.ok number) (Draft.checkMaxSteps (some number))
          rw [← Option.map_some, Draft.checkMaxSteps_map]
          exact .natural isEmpty number

namespace Settings

variable {environment : String → Option String} {base : Settings}

/-- What an environment gives the fields of settings; a field whose variable is not set is kept. -/
def drafted (settings : Settings) (environment : String → Option String) : Draft :=
  fun field => (environment field.variableName).elim (settings.get field) .text

theorem ofEnvironment_eq_settle (environment : String → Option String) :
    ofEnvironment environment = Draft.settle (drafted {} environment) := by
  rw [ofEnvironment, ofVariables_eq_settle]
  apply Draft.settle_congr
  intro field
  rw [drafted]
  cases environment field.variableName with
  | none => exact .refl _ field
  | some text => exact .refl _ field

/-- An environment in which no variable is set gives the standard settings. -/
theorem ofEnvironment_unset : ofEnvironment (fun _ => none) = .ok {} := by
  have standard : drafted {} (fun _ => none) = get {} := rfl
  rw [ofEnvironment_eq_settle, standard, ← ofValue_toEntries, ofValue_toEntries_eq_ok]

/-- An environment in which the limit is given as a text. -/
def withStepLimit (environment : String → Option String) (value : String) :
    String → Option String :=
  Function.update environment "BF_STEP_LIMIT" (some value)

/-- Giving the limit in the environment gives it in the draft of the settings. -/
theorem drafted_withStepLimit
    (settings : Settings)
    (environment : String → Option String)
    (value : String) :
    drafted settings (withStepLimit environment value) =
      (drafted settings environment).put .maxSteps (.text value) := by
  funext field
  unfold drafted withStepLimit
  cases field with
  | maxSteps =>
      rw [Field.variableName, Function.update_self, Draft.put_self, Option.elim_some]
  | addressing | tapeSize | modulus | eof =>
      rw [Draft.put_of_ne _ _ _ (by decide), Field.variableName,
        Function.update_of_ne (by decide)]

theorem ofEnvironment_withStepLimit
    (accepted : ofEnvironment environment = .ok base)
    (value : String) :
    ofEnvironment (withStepLimit environment value) =
      (Draft.readMaxSteps value).map fun limit => { base with maxSteps := limit } := by
  rw [ofEnvironment_eq_settle] at accepted ⊢
  rw [drafted_withStepLimit, Draft.settle_put_maxSteps accepted]
  rfl

/-! ## Single-byte runs -/

/-- Under a negative limit a run answers with nothing. -/
theorem runOnce?_of_neg
    (settings : Settings)
    {limit : Int}
    (isNegative : limit < 0)
    (fuel : Nat)
    (code : String)
    (byte : Int) :
    settings.runOnce? fuel (some limit) code byte = some none := by
  rw [runOnce?, run?]
  cases Program.parse code with
  | error rejection => rfl
  | ok program =>
      have spent : limit.toNat = 0 := Int.toNat_of_nonpos (Int.le_of_lt isNegative)
      obtain ⟨position, status, settled⟩ :=
        (settings.launch program (.whole [byteOfInt byte]) .absent).exists_run_zero_eq
      simp only [runProgram?, budget, Machine.runWithin?, spent, settled, Option.map_some,
        Machine.report, Machine.outcome, Outcome.firstByte?]
      split
      · rfl
      · rfl

/-- The settings of an environment have a limit. -/
def GivesLimit (environment : String → Option String) (limit : Int) : Prop :=
  ∃ settings, ofEnvironment environment = .ok settings ∧ settings.budget none = some limit

/-- The settings have just the limits that the other reader reads and that are not negative. -/
theorem givesLimit_withStepLimit_iff
    (accepted : ofEnvironment environment = .ok base)
    (value : String)
    (limit : Int) :
    GivesLimit (withStepLimit environment value) limit ↔
      stepLimit (some value) = .ok limit ∧ 0 ≤ limit := by
  have readings := limitReadings value
  rw [GivesLimit, ofEnvironment_withStepLimit accepted]
  generalize stepLimit (some value) = read at readings ⊢
  generalize Draft.readMaxSteps value = settled at readings ⊢
  cases readings with
  | empty | malformed => simp [Except.map, budget]
  | negative _ number isNegative =>
      simp only [Except.map, reduceCtorEq, false_and, exists_false, Except.ok.injEq, false_iff]
      omega
  | natural _ number =>
      constructor
      · rintro ⟨settings, settled, limited⟩
        cases settled
        cases limited
        exact ⟨rfl, Int.natCast_nonneg number⟩
      · rintro ⟨same, -⟩
        cases same
        exact ⟨_, rfl, rfl⟩

/-- There are settings for the empty text and for limits that are not negative. -/
theorem exists_ofEnvironment_withStepLimit_iff
    (accepted : ofEnvironment environment = .ok base)
    (value : String) :
    (∃ settings, ofEnvironment (withStepLimit environment value) = .ok settings) ↔
      value = "" ∨ ∃ limit, stepLimit (some value) = .ok limit ∧ 0 ≤ limit := by
  have readings := limitReadings value
  rw [ofEnvironment_withStepLimit accepted]
  generalize stepLimit (some value) = read at readings ⊢
  generalize Draft.readMaxSteps value = settled at readings ⊢
  cases readings with
  | empty isEmpty => simp [Except.map, isEmpty]
  | malformed nonempty fault => simp [Except.map, nonempty]
  | negative nonempty number isNegative => simp [Except.map, nonempty, isNegative]
  | natural nonempty number => simp [Except.map]

/-- A limit that both readers have accepted is the limit of the settings. -/
theorem eq_of_ofEnvironment_withStepLimit
    {value : String}
    {limit : Int}
    {settings : Settings}
    (accepted : ofEnvironment environment = .ok base)
    (read : stepLimit (some value) = .ok limit)
    (settled : ofEnvironment (withStepLimit environment value) = .ok settings) :
    settings = { base with maxSteps := some limit.toNat } ∧ 0 ≤ limit := by
  have readings := limitReadings value
  rw [ofEnvironment_withStepLimit accepted] at settled
  rw [read] at readings
  generalize Draft.readMaxSteps value = other at readings settled
  cases readings with
  | negative => cases settled
  | natural _ number =>
      cases settled
      exact ⟨rfl, Int.natCast_nonneg number⟩

theorem ofEnvironment_withStepLimit_of_neg
    {value : String}
    {limit : Int}
    (accepted : ofEnvironment environment = .ok base)
    (read : stepLimit (some value) = .ok limit)
    (isNegative : limit < 0) :
    ofEnvironment (withStepLimit environment value) = .error .maxSteps := by
  have readings := limitReadings value
  rw [ofEnvironment_withStepLimit accepted]
  rw [read] at readings
  generalize Draft.readMaxSteps value = other at readings
  cases readings with
  | negative => rfl
  | natural _ number => exact absurd isNegative (Int.not_lt.mpr (Int.natCast_nonneg number))

/--
The two readers of the limit agree except for negative limits and the empty text.  Take an
environment that gives settings, and set the limit in it to any text.  For each integer, the limit
of single-byte runs is read as that integer if and only if the settings have it as their limit,
unless it is read as that integer and is negative.  The readers accept the same texts, unless the
text is empty or the limit is negative: an empty text gives settings without a limit, and a negative
limit is refused by the settings, but lets every single-byte run answer with nothing.  If both
readers have accepted the text, a single-byte run with the first limit is the run with the settings
and no other limit.
-/
theorem step_limit_readers_agree_unless_negative_or_empty
    (environment : String → Option String)
    (base : Settings)
    (accepted : ofEnvironment environment = .ok base)
    (value : String) :
    let given := withStepLimit environment value
    (∀ limit : Int,
      (stepLimit (some value) = .ok limit ↔ GivesLimit given limit) ↔
        ¬ (stepLimit (some value) = .ok limit ∧ limit < 0)) ∧
    (((∃ limit, stepLimit (some value) = .ok limit) ↔
        ∃ settings, ofEnvironment given = .ok settings) ↔
      value ≠ "" ∧ ∀ limit, stepLimit (some value) = .ok limit → 0 ≤ limit) ∧
    (value = "" → stepLimit (some value) = .error (.malformed "") ∧
      ofEnvironment given = .ok { base with maxSteps := none }) ∧
    (∀ limit, stepLimit (some value) = .ok limit → limit < 0 →
      ofEnvironment given = .error .maxSteps ∧
        ∀ (settings : Settings) (fuel : Nat) (code : String) (byte : Int),
          settings.runOnce? fuel (some limit) code byte = some none) ∧
    ∀ (limit : Int) (settings : Settings),
      stepLimit (some value) = .ok limit → ofEnvironment given = .ok settings →
      ∀ (other : Option Nat) (fuel : Nat) (code : String) (byte : Int),
        { base with maxSteps := other }.runOnce? fuel (some limit) code byte =
          settings.runOnce? fuel none code byte := by
  intro given
  have unread : stepLimit (some "") = .error (.malformed "") := by decide
  refine ⟨fun limit => ?_, ?_, ?_, fun limit read isNegative => ⟨?_, ?_⟩, ?_⟩
  · rw [givesLimit_withStepLimit_iff accepted]
    grind
  · rw [exists_ofEnvironment_withStepLimit_iff accepted]
    grind
  · rintro rfl
    exact ⟨unread, ofEnvironment_withStepLimit accepted ""⟩
  · exact ofEnvironment_withStepLimit_of_neg accepted read isNegative
  · exact fun settings => settings.runOnce?_of_neg isNegative
  · intro limit settings read settled other fuel code byte
    obtain ⟨rfl, isNatural⟩ := eq_of_ofEnvironment_withStepLimit accepted read settled
    obtain ⟨number, rfl⟩ := Int.eq_ofNat_of_zero_le isNatural
    rfl

/-- Ten is read alike from a text with blanks around it, a sign and an underscore. -/
theorem step_limit_readers_agree_on_ten :
    ofEnvironment (fun _ => none) = .ok {} ∧ stepLimit (some " +1_0\n") = .ok 10 ∧
      GivesLimit (withStepLimit (fun _ => none) " +1_0\n") 10 := by
  have read : stepLimit (some " +1_0\n") = .ok 10 := by decide +kernel
  have notNegative : ¬ (stepLimit (some " +1_0\n") = .ok 10 ∧ (10 : Int) < 0) :=
    fun both => absurd both.2 (by decide)
  obtain ⟨agree, -⟩ :=
    step_limit_readers_agree_unless_negative_or_empty _ {} ofEnvironment_unset " +1_0\n"
  exact ⟨ofEnvironment_unset, read, ((agree 10).mpr notNegative).mp read⟩

/-- Minus one is read as a limit of single-byte runs, and the settings refuse it. -/
theorem step_limit_readers_differ_on_minus_one :
    ¬ ∀ (value : String) (limit : Int),
      stepLimit (some value) = .ok limit ↔
        GivesLimit (withStepLimit (fun _ => none) value) limit := by
  intro agree
  have read : stepLimit (some "-1") = .ok (-1) := by decide +kernel
  obtain ⟨-, isNatural⟩ :=
    (givesLimit_withStepLimit_iff ofEnvironment_unset "-1" (-1)).mp ((agree "-1" (-1)).mp read)
  exact absurd isNatural (by decide)

end Settings
end TapeMachine

import Mathlib.Tactic.Common
import TapeMachine.Settings.Draft

/-!
# Settling a draft

Settings come about by entering values into a draft and settling it.  Values that are entered under
the names of fields replace what the draft holds there and nothing else, so that settings from the
environment, and settings that have been written to a document, are drafts given field by field.

A draft is settled in two passes.  The values are converted first, in a fixed order of the fields,
and the first that cannot be converted decides what is wrong.  Only then are the ranges checked.
-/

namespace TapeMachine

theorem Field.mem_all (field : Field) : field ∈ Field.all := by
  cases field <;> decide

theorem Field.name_of_ofName?_eq_some
    {name : String}
    {field : Field}
    (found : ofName? name = some field) :
    field.name = name := by
  have same := List.find?_some found
  exact eq_of_beq same

namespace Draft

/-! ## Entering values -/

/-- Entering a value under the name of a field gives the field that value. -/
theorem enter_name (draft : Draft) (field : Field) (value : Value) :
    draft.enter (.text field.name, value) = draft.put field value := by
  simp only [enter, Field.ofName?_name]

/-- Entering values under the names of some fields leaves the other fields as they are. -/
theorem foldl_enter_fields
    (fields : List Field)
    (values draft : Draft) :
    (fields.map fun field => (Scalar.text field.name, values field)).foldl enter draft =
      fun field => if field ∈ fields then values field else draft field := by
  induction fields generalizing draft with
  | nil =>
      funext field
      rw [if_neg List.not_mem_nil]
      rfl
  | cons first rest inductionHypothesis =>
      rw [List.map_cons, List.foldl_cons, enter_name, inductionHypothesis]
      funext field
      by_cases isFirst : field = first
      · subst isFirst
        simp
      · simp [put_of_ne _ _ _ isFirst, isFirst]

/-- A key is none of the unknown names exactly if it is no text or names a field. -/
theorem unknownNames_eq_nil_iff (keys : List Scalar) :
    unknownNames keys = [] ↔
      ∀ key ∈ keys, key.isText = true → ∃ field : Field, key = .text field.name := by
  rw [unknownNames, List.filterMap_eq_nil_iff]
  refine forall₂_congr fun key _ => ?_
  cases key with
  | text name =>
      cases found : Field.ofName? name with
      | none =>
          have unnamed : ∀ field : Field, name ≠ field.name := by
            rintro field rfl
            rw [Field.ofName?_name] at found
            cases found
          simp [Scalar.isText, found, unnamed]
      | some field =>
          have named : name = field.name := (Field.name_of_ofName?_eq_some found).symm
          simp only [Scalar.isText, found, Option.isNone_some, Bool.false_eq_true, if_false,
            true_iff]
          exact fun _ => ⟨field, by rw [named]⟩
  | null | bool truth | int number | float number | member policy => simp [Scalar.isText]

/-- Keys are accepted exactly if each of them is the name of a field. -/
theorem checkNames_eq_ok_iff (keys : List Scalar) :
    checkNames keys = .ok () ↔ ∀ key ∈ keys, ∃ field : Field, key = .text field.name := by
  constructor
  · intro accepted key member
    unfold checkNames at accepted
    split at accepted
    · cases accepted
    · rename_i texts
      simp only [Bool.not_eq_true', Bool.not_eq_false] at texts
      simp only at accepted
      split at accepted
      · rename_i none
        exact (unknownNames_eq_nil_iff keys).mp (List.isEmpty_iff.mp none) key member
          (List.all_eq_true.mp texts key member)
      · cases accepted
  · intro named
    have texts : keys.all Scalar.isText = true := by
      rw [List.all_eq_true]
      intro key member
      obtain ⟨field, rfl⟩ := named key member
      rfl
    have known := (unknownNames_eq_nil_iff keys).mpr fun key member _ => named key member
    rw [checkNames, texts, known]
    rfl

/-- The names of fields are accepted. -/
theorem checkNames_fields (fields : List Field) :
    checkNames (fields.map fun field => .text field.name) = .ok () := by
  rw [checkNames_eq_ok_iff, List.forall_mem_map]
  exact fun field _ => ⟨field, rfl⟩

/-- Values that are given under the names of some fields are settled in place of the draft's. -/
theorem settleWith_fields
    (draft values : Draft)
    (fields : List Field) :
    draft.settleWith (fields.map fun field => (Scalar.text field.name, values field)) =
      settle fun field => if field ∈ fields then values field else draft field := by
  have names : (fields.map fun field => (Scalar.text field.name, values field)).map (·.1) =
      fields.map fun field => .text field.name := by
    rw [List.map_map]
    rfl
  simp only [settleWith, names, checkNames_fields, foldl_enter_fields, bind, Except.bind]

/--
Values that are given for some fields are settled in place of the draft's, unless they are null.
-/
theorem settleWith_given (draft values : Draft) :
    draft.settleWith ((Field.all.map fun field => (Scalar.text field.name, values field)).filter
        fun entry => !entry.2.isNull) =
      settle fun field => if (values field).isNull then draft field else values field := by
  have given : (Field.all.map fun field => (Scalar.text field.name, values field)).filter
        (fun entry => !entry.2.isNull) =
      (Field.all.filter fun field => !(values field).isNull).map fun field =>
        (Scalar.text field.name, values field) :=
    List.filter_map
  rw [given, settleWith_fields]
  congr 1
  funext field
  cases null : (values field).isNull with
  | true => simp [null]
  | false => simp [null, Field.mem_all]

/-! ## Settled drafts -/

theorem checkTapeSize_val (size : Positive) : checkTapeSize size.val = .ok size := by
  rw [checkTapeSize, Positive.ofInt?_val]

theorem checkModulus_map_val (modulus : Option Positive) :
    checkModulus (modulus.map fun number => (number.val : Int)) = .ok modulus := by
  cases modulus with
  | none => rfl
  | some number =>
      rw [Option.map_some, checkModulus, Positive.ofInt?_val]

theorem checkMaxSteps_map (limit : Option Nat) :
    checkMaxSteps (limit.map fun number : Nat => (number : Int)) = .ok limit := by
  cases limit with
  | none => rfl
  | some number =>
      rw [Option.map_some, checkMaxSteps, if_neg (Int.not_lt.mpr (Int.natCast_nonneg number)),
        Int.toNat_natCast]

/-- A draft is settled if each of its values is converted to what the settings hold. -/
theorem settle_eq_ok
    {draft : Draft}
    {settings : Settings}
    (addressing : chooseAddressing (draft .addressing) = .ok settings.addressing)
    (eof : chooseEof (draft .eof) = .ok settings.eof)
    (tapeSize : integer (draft .tapeSize) = .ok (settings.tapeSize.val : Int))
    (modulus : optionalInteger (draft .modulus) =
      .ok (settings.modulus.map fun number => (number.val : Int)))
    (maxSteps : optionalInteger (draft .maxSteps) =
      .ok (settings.maxSteps.map fun number : Nat => (number : Int))) :
    draft.settle = .ok settings := by
  simp only [settle, addressing, eof, tapeSize, modulus, maxSteps, bind, Except.bind,
    checkTapeSize_val, checkModulus_map_val, checkMaxSteps_map]

end Draft

namespace Settings

/-- Settings that have been written to a document are settled as they were written. -/
theorem ofValue_toEntries (settings : Settings) :
    ofValue (.map settings.toEntries) = Draft.settle settings.get := by
  rw [ofValue, ofEntries, toEntries, Draft.settleWith_fields]
  simp only [Field.mem_all, if_true]

/-- Keywords are accepted exactly if they are texts and none of them has been taken. -/
theorem checkKeywords_eq_ok_iff
    {function : String}
    {taken : List String}
    {overrides : Entries} :
    checkKeywords function taken overrides = .ok () ↔
      (∀ entry ∈ overrides, entry.1.isText = true) ∧
        ∀ entry ∈ overrides, entry.1.display ∉ taken := by
  have free : List.find? (fun entry => taken.contains entry.1.display) overrides = none ↔
      ∀ entry ∈ overrides, entry.1.display ∉ taken := by
    simp only [List.find?_eq_none, List.contains_iff_mem]
  rw [← free, ← List.all_eq_true, checkKeywords]
  cases overrides.all fun entry => entry.1.isText with
  | false => simp
  | true =>
      cases List.find? (fun entry => taken.contains entry.1.display) overrides with
      | none => simp
      | some entry => simp

theorem name_ne_ownKeyword (field : Field) : field.name ≠ ownKeyword := by
  cases field <;> decide

/-- The names of fields can be keywords. -/
theorem checkKeywords_fields (function : String) (values : Draft) :
    checkKeywords function [ownKeyword]
      (Field.all.map fun field => (.text field.name, values field)) = .ok () := by
  rw [checkKeywords_eq_ok_iff, List.forall_mem_map, List.forall_mem_map]
  refine ⟨fun field _ => rfl, fun field _ isOwn => ?_⟩
  exact name_ne_ownKeyword field (List.mem_singleton.mp isOwn)

/-- Overrides of all fields are settled in place of the settings, except where they are null. -/
theorem replace_fields (settings : Settings) (values : Draft) :
    settings.replace (Field.all.map fun field => (.text field.name, values field)) =
      Draft.settle fun field =>
        if (values field).isNull then settings.get field else values field := by
  rw [replace, checkKeywords_fields]
  exact Draft.settleWith_given settings.get values

/--
Settings from variables are settled field by field; a field whose variable is null is standard.
-/
theorem ofVariables_eq_settle (lookup : String → Value) :
    ofVariables lookup = Draft.settle fun field =>
      if (lookup field.variableName).isNull then get {} field else lookup field.variableName :=
  Draft.settleWith_given (get {}) fun field => lookup field.variableName

end Settings
end TapeMachine

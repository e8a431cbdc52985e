import TapeMachine.Proofs.Settings.Accepting

/-!
# Overriding settings

Overrides are a map from names to values.  One name is not free, because the settings themselves are
given to the call under it; a map that has it is refused.  Otherwise a value that is null stands for
nothing, whatever its name.  The others replace the values of the settings, and what results is
settled: the names have to be known, and each value has to be one that its field accepts.

What settings hold is settled to what they hold.  So overriding twice is overriding once with both
maps, where the values of the second take the place of those of the first.  This holds for what goes
wrong as well: the same names are unknown, and the same value is the first that is not accepted.
The exception is a null under the name that is not free, since it is refused although it overwrites
nothing.
-/

namespace TapeMachine
namespace Settings

/-- What settings hold is converted to what they hold. -/
theorem yields_get (settings : Settings) (field : Field) :
    Draft.Yields settings (settings.get field) field := by
  have settled : Draft.settle settings.get = .ok settings := by
    rw [← ofValue_toEntries]
    exact settings.ofValue_toEntries_eq_ok
  exact Draft.settle_eq_ok_iff.mp settled field

/-- Settings that a value of a field is converted to hold the same there. -/
theorem get_eq_of_yields
    {settings changed : Settings}
    {value : Value}
    {field : Field}
    (yields : Draft.Yields settings value field)
    (changedYields : Draft.Yields changed value field) :
    changed.get field = settings.get field := by
  cases field with
  | addressing =>
      have same : changed.addressing = settings.addressing :=
        Except.ok.inj (Eq.trans (Eq.symm changedYields) yields)
      rw [get, get, same]
  | eof =>
      have same : changed.eof = settings.eof :=
        Except.ok.inj (Eq.trans (Eq.symm changedYields) yields)
      rw [get, get, same]
  | tapeSize =>
      have same : (changed.tapeSize.val : Int) = settings.tapeSize.val :=
        Except.ok.inj (Eq.trans (Eq.symm changedYields) yields)
      rw [get, get, same]
  | modulus =>
      have same : changed.modulus.map (fun number => (number.val : Int)) =
          settings.modulus.map fun number => (number.val : Int) :=
        Except.ok.inj (Eq.trans (Eq.symm changedYields) yields)
      have shown (held : Settings) : held.get .modulus =
          (held.modulus.map fun number => (number.val : Int)).elim .null .int := by
        rw [Option.elim_map]
        rfl
      rw [shown, shown, same]
  | maxSteps =>
      have same : changed.maxSteps.map (fun limit : Nat => (limit : Int)) =
          settings.maxSteps.map fun limit : Nat => (limit : Int) :=
        Except.ok.inj (Eq.trans (Eq.symm changedYields) yields)
      have shown (held : Settings) : held.get .maxSteps =
          (held.maxSteps.map fun limit : Nat => (limit : Int)).elim .null .int := by
        rw [Option.elim_map]
        rfl
      rw [shown, shown, same]

variable {settings changed : Settings} {first second : Entries}

/--
The only map by name that cannot be the overrides of a call is one with the name of the settings.
-/
theorem checkKeywords_of_named
    (named : first.Named)
    (function : String) :
    checkKeywords function [ownKeyword] first =
      if first.find? ownKeyword = none then .ok ()
      else .error (.kind (.reserved function ownKeyword)) := by
  have texts : first.all (fun entry => entry.1.isText) = true := by
    rw [List.all_eq_true]
    intro entry member
    obtain ⟨name, isText⟩ := named.texts entry.1 (List.mem_map_of_mem member)
    rw [isText]
    rfl
  simp only [checkKeywords, texts, Bool.not_true, Bool.false_eq_true, if_false]
  cases found : List.find? (fun entry => [ownKeyword].contains entry.1.display) first with
  | none =>
      have free : first.find? ownKeyword = none := by
        rw [← Option.not_isSome_iff_eq_none, Entries.isSome_find?_iff]
        intro member
        obtain ⟨entry, listed, isOwn⟩ := List.mem_map.mp member
        exact List.find?_eq_none.mp found entry listed (by rw [isOwn]; rfl)
      rw [if_pos free]
  | some entry =>
      have listed := List.mem_of_find?_eq_some found
      have isOwn : entry.1.display = ownKeyword := by simpa using List.find?_some found
      obtain ⟨name, isText⟩ := named.texts entry.1 (List.mem_map_of_mem listed)
      obtain rfl : name = ownKeyword := by rwa [isText] at isOwn
      rw [if_neg (by simp [named.find?_of_mem listed isText])]
      simp only [isOwn]

/-- Dropping a value if it is null makes no difference if it is none. -/
theorem filter_isNull_of_ne
    {given : Option Value}
    (notNull : given ≠ some .null) :
    given.filter (!·.isNull) = given := by
  cases given with
  | none => rfl
  | some value =>
      have present : value.isNull = false := by
        rw [Bool.eq_false_iff]
        intro null
        apply notNull
        rw [← value.ite_isNull, if_pos null]
      rw [Option.filter_some_pos (by rw [present]; rfl)]

theorem replace_of_find?_ne_none
    (named : first.Named)
    (settings : Settings)
    (taken : first.find? ownKeyword ≠ none) :
    settings.replace first =
      .error (.kind (.reserved "InterpreterConfig.replace" ownKeyword)) := by
  rw [replace, checkKeywords_of_named named, if_neg taken]
  rfl

theorem replace_eq
    (named : first.Named)
    (settings : Settings)
    (free : first.find? ownKeyword = none) :
    settings.replace first =
      Draft.checkNames (first.given.map (·.1)) >>= fun _ =>
        Draft.settle fun field => (first.given.find? field.name).getD (settings.get field) := by
  rw [replace, checkKeywords_of_named named, if_pos free]
  exact Draft.settleWith_eq named.given settings.get

/-- Settings are replaced exactly if the names are known and the values are converted. -/
theorem replace_eq_ok_iff
    (named : first.Named) :
    settings.replace first = .ok changed ↔
      first.find? ownKeyword = none ∧
        (∀ key ∈ first.given.map (·.1), ∃ field : Field, key = .text field.name) ∧
        ∀ field : Field, Draft.Yields changed
          ((first.given.find? field.name).getD (settings.get field)) field := by
  by_cases free : first.find? ownKeyword = none
  · rw [replace_eq named settings free, Draft.bind_eq_ok_iff, ← Draft.checkNames_eq_ok_iff]
    simp only [Draft.settle_eq_ok_iff, free, true_and]
    constructor
    · rintro ⟨_, known, yields⟩
      exact ⟨known, yields⟩
    · rintro ⟨known, yields⟩
      exact ⟨(), known, yields⟩
  · rw [replace_of_find?_ne_none named settings free]
    simp [free]

/-- A field without a value in the overrides keeps the value that it has. -/
theorem get_of_replace
    {field : Field}
    (named : first.Named)
    (replaced : settings.replace first = .ok changed)
    (notGiven : first.given.find? field.name = none) :
    changed.get field = settings.get field := by
  obtain ⟨-, -, yields⟩ := (replace_eq_ok_iff named).mp replaced
  specialize yields field
  rw [notGiven, Option.getD_none] at yields
  exact get_eq_of_yields (settings.yields_get field) yields

/-- Overriding twice is overriding once with the values of both, the later ones first. -/
theorem replace_replace
    (firstNamed : first.Named)
    (secondNamed : second.Named)
    (notNull : second.find? ownKeyword ≠ some .null)
    (replaced : settings.replace first = .ok changed) :
    changed.replace second = settings.replace (first.overwrite second.given) := by
  obtain ⟨firstFree, known, yields⟩ := (replace_eq_ok_iff firstNamed).mp replaced
  have bothNamed := firstNamed.overwrite secondNamed.given
  have sameOwn : (first.overwrite second.given).find? ownKeyword = second.find? ownKeyword := by
    rw [secondNamed.given.find?_overwrite, firstFree, Option.or_none, secondNamed.find?_given]
    exact filter_isNull_of_ne notNull
  by_cases free : second.find? ownKeyword = none
  case neg =>
    rw [replace_of_find?_ne_none secondNamed changed free,
      replace_of_find?_ne_none bothNamed settings (by rwa [sameOwn])]
  have sameNames : Draft.checkNames (second.given.map (·.1)) =
      Draft.checkNames ((first.overwrite second.given).given.map (·.1)) := by
    apply Draft.checkNames_congr secondNamed.given.texts bothNamed.given.texts
    intro name unknown
    have notGiven : first.given.find? name = none := by
      rw [← Option.not_isSome_iff_eq_none, Entries.isSome_find?_iff]
      intro member
      obtain ⟨field, isField⟩ := known _ member
      rw [Scalar.text.inj isField, Field.ofName?_name] at unknown
      cases unknown
    rw [← Entries.isSome_find?_iff, ← Entries.isSome_find?_iff,
      firstNamed.find?_given_overwrite secondNamed, notGiven, Option.or_none]
  have sameDraft : Draft.settle (fun field =>
        (second.given.find? field.name).getD (changed.get field)) =
      Draft.settle fun field =>
        ((first.overwrite second.given).given.find? field.name).getD (settings.get field) := by
    apply Draft.settle_congr
    intro field
    rw [firstNamed.find?_given_overwrite secondNamed]
    cases second.given.find? field.name with
    | some value => exact .refl value field
    | none =>
        -- what the first overrides have been converted to is converted to itself
        exact (changed.yields_get field).alike (yields field)
  rw [replace_eq secondNamed changed free, replace_eq bothNamed settings (sameOwn.trans free),
    sameNames, sameDraft]

/-- Settings can be replaced exactly if each value that is not null is accepted under its name. -/
theorem exists_replace_iff (named : first.Named) :
    (∃ changed, settings.replace first = .ok changed) ↔
      first.find? ownKeyword = none ∧
        ∀ entry ∈ first.given, ∃ field : Field,
          entry.1 = .text field.name ∧ field.Accepts entry.2 := by
  constructor
  · rintro ⟨changed, replaced⟩
    obtain ⟨free, known, yields⟩ := (replace_eq_ok_iff named).mp replaced
    refine ⟨free, fun entry member => ?_⟩
    obtain ⟨field, isField⟩ := known entry.1 (List.mem_map_of_mem member)
    have accepted := (yields field).accepts
    rw [named.given.find?_of_mem member isField, Option.getD_some] at accepted
    exact ⟨field, isField, accepted⟩
  · rintro ⟨free, accepted⟩
    have settles : ∀ field : Field,
        field.Accepts ((first.given.find? field.name).getD (settings.get field)) := by
      intro field
      cases found : first.given.find? field.name with
      | none => exact (settings.yields_get field).accepts
      | some value =>
          obtain ⟨other, sameName, accepts⟩ := accepted _ (Entries.mem_of_find? found)
          obtain rfl : field = other := Field.name_injective (Scalar.text.inj sameName)
          exact accepts
    obtain ⟨changed, settled⟩ := (Draft.exists_settle_iff _).mpr settles
    refine ⟨changed, (replace_eq_ok_iff named).mpr
      ⟨free, ?_, Draft.settle_eq_ok_iff.mp settled⟩⟩
    intro key member
    obtain ⟨entry, listed, rfl⟩ := List.mem_map.mp member
    obtain ⟨field, isField, -⟩ := accepted entry listed
    exact ⟨field, isField⟩

theorem not_exists_ok_iff {result : Except ε α} :
    (¬ ∃ value, result = .ok value) ↔ ∃ fault, result = .error fault := by
  cases result with
  | ok value => simp
  | error fault => simp

/--
Overriding fails exactly if the name of the settings is given, or if a value that is not null has an
unknown name or is not accepted.
-/
theorem exists_replace_eq_error_iff (named : first.Named) :
    (∃ fault, settings.replace first = .error fault) ↔
      first.find? ownKeyword ≠ none ∨
        ∃ entry ∈ first, entry.2.isNull = false ∧
          ((∀ field : Field, entry.1 ≠ .text field.name) ∨
            ∃ field : Field, entry.1 = .text field.name ∧ ¬ field.Accepts entry.2) := by
  rw [← not_exists_ok_iff, exists_replace_iff named, not_and_or]
  apply or_congr_right
  simp only [Entries.given, List.mem_filter, Bool.not_eq_true']
  constructor
  · intro refused
    push Not at refused
    obtain ⟨entry, ⟨member, notNull⟩, rejected⟩ := refused
    refine ⟨entry, member, notNull, ?_⟩
    by_cases known : ∃ field : Field, entry.1 = .text field.name
    · obtain ⟨field, isField⟩ := known
      exact Or.inr ⟨field, isField, rejected field isField⟩
    · exact Or.inl (not_exists.mp known)
  · rintro ⟨entry, member, notNull, bad⟩ accepted
    obtain ⟨field, isField, accepts⟩ := accepted entry ⟨member, notNull⟩
    rcases bad with unknown | ⟨other, isOther, rejected⟩
    · exact unknown field isField
    · obtain rfl := Field.name_injective (Scalar.text.inj (isField.symm.trans isOther))
      exact rejected accepts

/-- A value that is null has no effect, unless it is given under the name of the settings. -/
theorem replace_without_null
    {before after : Entries}
    {key : Scalar}
    (named : (before ++ (key, .null) :: after).Named)
    (other : key ≠ .text ownKeyword)
    (settings : Settings) :
    settings.replace (before ++ (key, .null) :: after) = settings.replace (before ++ after) := by
  have fewer : (before ++ after).Sublist (before ++ (key, .null) :: after) :=
    (List.sublist_cons_self _ after).append_left before
  have fewerNamed : (before ++ after : Entries).Named :=
    ⟨fun name member => named.texts name ((fewer.map _).subset member),
      named.distinct.sublist (fewer.map _)⟩
  have sameOwn : Entries.find? (before ++ (key, .null) :: after) ownKeyword =
      Entries.find? (before ++ after) ownKeyword := by
    simp [Entries.find?, List.find?_append, other]
  have sameGiven : (before ++ (key, .null) :: after).filter (fun entry => !entry.2.isNull) =
      (before ++ after).filter fun entry => !entry.2.isNull := by
    rw [List.filter_append, List.filter_append, List.filter_cons_of_neg (by simp [Value.isNull])]
  rw [replace, replace, checkKeywords_of_named named, checkKeywords_of_named fewerNamed, sameOwn,
    sameGiven]

/-- Only a field that is null by default accepts null. -/
theorem get_default_of_accepts_null
    {field : Field}
    (accepts : field.Accepts .null) :
    get {} field = .null := by
  cases field with
  | addressing =>
      obtain ⟨policy, isMember | named⟩ := accepts
      · cases isMember
      · exact absurd named (by cases policy <;> decide)
  | eof =>
      obtain ⟨policy, isMember | named⟩ := accepts
      · cases isMember
      · exact absurd named (by cases policy <;> decide)
  | tapeSize =>
      obtain ⟨number, found, -⟩ := accepts
      cases found
  | modulus => rfl
  | maxSteps => rfl

/-- Settings that are read from entries are the standard ones with the entries as overrides. -/
theorem replace_of_ofEntries
    {base : Settings}
    (named : first.Named)
    (read : ofEntries first = .ok base) :
    ({} : Settings).replace first = .ok base := by
  rw [ofEntries, Draft.settleWith_eq named, Draft.bind_eq_ok_iff] at read
  obtain ⟨_, known, settled⟩ := read
  rw [Draft.checkNames_eq_ok_iff] at known
  have yields := Draft.settle_eq_ok_iff.mp settled
  refine (replace_eq_ok_iff named).mpr ⟨?_, ?_, fun field => ?_⟩
  · rw [← Option.not_isSome_iff_eq_none, Entries.isSome_find?_iff]
    intro member
    obtain ⟨field, isField⟩ := known _ member
    exact name_ne_ownKeyword field (Scalar.text.inj isField).symm
  · intro key member
    exact known key ((List.filter_sublist.map _).subset member)
  · have held := yields field
    rw [named.find?_given]
    cases found : first.find? field.name with
    | none =>
        rw [found] at held
        exact held
    | some value =>
        rw [found, Option.getD_some] at held
        cases null : value.isNull with
        | false =>
            rw [Option.filter_some_pos (by rw [null]; rfl)]
            exact held
        | true =>
            obtain rfl : .null = value := by
              rw [← value.ite_isNull, if_pos null]
            rw [Option.filter_some_neg (by decide), Option.getD_none,
              get_default_of_accepts_null held.accepts]
            exact held

/--
Overrides compose, and they leave alone what they do not give.  If settings are overridden, a field
without a value keeps the one that it has, and overriding the result once more comes to the same as
overriding the settings once with both maps, where the values of the second take precedence: the
same settings, or the same fault.  So do settings that are read from entries, which override the
standard ones.  A value that is null has no effect under any other name than that of the settings
themselves.  This name is always refused, so that the second map must not have a null under it.
Overriding fails exactly if it is given, or if a value that is not null has an unknown name or is
not accepted by its field.
-/
theorem overrides_compose_and_frame
    (settings : Settings)
    (first second : Entries)
    (firstNamed : first.Named)
    (secondNamed : second.Named) :
    (∀ changed, settings.replace first = .ok changed →
      (∀ field : Field, first.given.find? field.name = none →
        changed.get field = settings.get field) ∧
        (second.find? "self" ≠ some .null →
          changed.replace second = settings.replace (first.overwrite second.given))) ∧
      (∀ base, ofEntries first = .ok base → second.find? "self" ≠ some .null →
        base.replace second = ({} : Settings).replace (first.overwrite second.given)) ∧
      (∀ before key after, first = before ++ (key, .null) :: after → key ≠ .text "self" →
        settings.replace first = settings.replace (before ++ after)) ∧
      (first.find? "self" ≠ none →
        settings.replace first =
          .error (.kind (.reserved "InterpreterConfig.replace" "self"))) ∧
      ((∃ fault, settings.replace first = .error fault) ↔
        first.find? "self" ≠ none ∨
          ∃ entry ∈ first, entry.2.isNull = false ∧
            ((∀ field : Field, entry.1 ≠ .text field.name) ∨
              ∃ field : Field, entry.1 = .text field.name ∧ ¬ field.Accepts entry.2)) := by
  refine ⟨?_, ?_, ?_, ?_, ?_⟩
  · intro changed replaced
    refine ⟨?_, fun notNull => replace_replace firstNamed secondNamed notNull replaced⟩
    intro field notGiven
    exact get_of_replace firstNamed replaced notGiven
  · intro base read notNull
    exact replace_replace firstNamed secondNamed notNull (replace_of_ofEntries firstNamed read)
  · rintro before key after rfl other
    exact replace_without_null firstNamed other settings
  · exact replace_of_find?_ne_none firstNamed settings
  · exact exists_replace_eq_error_iff firstNamed

/--
Two maps that both give the number of cells, the first of them with a policy and a null under an
unknown name, and the second with a number out of range: the second one decides.
-/
theorem overrides_compose_to_fault_of_later :
    let first : Entries :=
      [(.text "addressing", .member (.addressing .sparse)), (.text "eof", .text " Zero"),
        (.text "tape_size", .text "12"), (.text "colour", .null)]
    let second : Entries := [(.text "modulus", .int 7), (.text "tape_size", .int 0)]
    let changed : Settings :=
      { addressing := .sparse, eof := .zero, tapeSize := ⟨12, by decide⟩ }
    first.Named ∧ second.Named ∧ ({} : Settings).replace first = .ok changed ∧
      changed.get .modulus = get {} .modulus ∧
      changed.replace second = ({} : Settings).replace (first.overwrite second.given) ∧
      ∃ fault, changed.replace second = .error fault := by
  intro first second changed
  have firstNamed : first.Named := ⟨by simp [first], by decide⟩
  have secondNamed : second.Named := ⟨by simp [second], by decide⟩
  have notNull : second.find? "self" ≠ some .null := nofun
  have replaced : ({} : Settings).replace first = .ok changed := by
    have found : (({} : Settings).replace first).toOption = some changed := by decide +kernel
    cases result : ({} : Settings).replace first with
    | ok settings =>
        rw [result] at found
        exact congrArg Except.ok (Option.some.inj found)
    | error fault =>
        rw [result] at found
        cases found
  obtain ⟨compose, -⟩ := overrides_compose_and_frame {} first second firstNamed secondNamed
  obtain ⟨frame, same⟩ := compose changed replaced
  obtain ⟨-, -, -, -, fails⟩ :=
    overrides_compose_and_frame changed second second secondNamed secondNamed
  refine ⟨firstNamed, secondNamed, replaced, frame .modulus (by simp [first]; decide),
    same notNull, fails.mpr (Or.inr ?_)⟩
  refine ⟨(.text "tape_size", .int 0), by simp [second], rfl, Or.inr ⟨.tapeSize, rfl, ?_⟩⟩
  rintro ⟨number, found, positive⟩
  cases found
  exact absurd positive (by decide)

/-- A null under the name of the settings is refused, while without it nothing is changed. -/
theorem replace_refuses_null_under_own_name :
    let overrides : Entries := [(.text "self", .null)]
    overrides.Named ∧ overrides.given = [] ∧ ({} : Settings).replace [] = .ok {} ∧
      ({} : Settings).replace overrides =
        .error (.kind (.reserved "InterpreterConfig.replace" "self")) := by
  intro overrides
  have named : overrides.Named := ⟨by simp [overrides], by decide⟩
  have noneNamed : Entries.Named [] := ⟨by simp, List.nodup_nil⟩
  refine ⟨named, rfl, ?_, replace_of_find?_ne_none named {} nofun⟩
  exact (replace_eq_ok_iff noneNamed).mpr ⟨rfl, nofun, yields_get {}⟩

end Settings
end TapeMachine

import TapeMachine.Proofs.Settings.Encoding
import TapeMachine.Proofs.Value.Maps

/-!
# Accepted values

Settings are settled from a map with a draft beneath it.  Two things decide about the result: which
of the names are unknown, whatever their order, and what the value of each field is converted to.
So values of different shapes that are converted to the same cannot be told apart, and there are
settings exactly if every field accepts its value.
-/

namespace TapeMachine
namespace Draft

/-! ## Unknown names -/

theorem nodup_eraseDups (names : List String) : names.eraseDups.Nodup := by
  -- what follows a name has all of its copies taken out, so it is shorter but no tail
  induction length : names.length using Nat.strong_induction_on generalizing names with
  | _ count inductionHypothesis =>
      cases names with
      | nil => exact List.nodup_nil
      | cons name rest =>
          rw [List.eraseDups_cons, List.nodup_cons, List.mem_eraseDups]
          refine ⟨by simp, inductionHypothesis _ ?_ _ rfl⟩
          rw [← length, List.length_cons]
          exact Nat.lt_succ_of_le (List.length_filter_le _ _)

/-- The order and the number of names do not matter when they are listed in order. -/
theorem ordered_congr
    {left right : List String}
    (same : ∀ name, name ∈ left ↔ name ∈ right) :
    ordered left = ordered right := by
  have sorted (names : List String) :
      (ordered names).Pairwise fun first second => decide (first ≤ second) = true := by
    apply List.pairwise_mergeSort
    · intro first second third
      simp only [decide_eq_true_eq]
      exact String.le_trans
    · intro first second
      simp only [Bool.or_eq_true, decide_eq_true_eq]
      exact String.le_total first second
  have perm : (ordered left).Perm (ordered right) := by
    have dups : left.eraseDups.Perm right.eraseDups := by
      rw [List.perm_ext_iff_of_nodup (nodup_eraseDups _) (nodup_eraseDups _)]
      intro name
      rw [List.mem_eraseDups, List.mem_eraseDups, same]
    exact ((List.mergeSort_perm _ _).trans dups).trans (List.mergeSort_perm _ _).symm
  apply List.Perm.eq_of_pairwise _ (sorted left) (sorted right) perm
  intro first second _ _ below above
  exact String.le_antisymm (of_decide_eq_true below) (of_decide_eq_true above)

theorem mem_unknownNames_iff (keys : List Scalar) (name : String) :
    name ∈ unknownNames keys ↔ .text name ∈ keys ∧ Field.ofName? name = none := by
  simp only [unknownNames, List.mem_filterMap]
  constructor
  · rintro ⟨key, member, found⟩
    cases key with
    | text other =>
        simp only [Option.ite_none_right_eq_some, Option.some.injEq, Option.isNone_iff_eq_none]
          at found
        obtain ⟨unknown, rfl⟩ := found
        exact ⟨member, unknown⟩
    | null | bool truth | int number | float number | member policy => cases found
  · rintro ⟨member, unknown⟩
    exact ⟨_, member, by simp [unknown]⟩

/-- Of keys that are texts only the unknown ones matter. -/
theorem checkNames_congr
    {left right : List Scalar}
    (leftTexts : ∀ key ∈ left, ∃ name, key = .text name)
    (rightTexts : ∀ key ∈ right, ∃ name, key = .text name)
    (same : ∀ name, Field.ofName? name = none → (.text name ∈ left ↔ .text name ∈ right)) :
    checkNames left = checkNames right := by
  have areNames {keys : List Scalar} (texts : ∀ key ∈ keys, ∃ name, key = .text name) :
      keys.all Scalar.isText = true := by
    rw [List.all_eq_true]
    intro key member
    obtain ⟨name, rfl⟩ := texts key member
    rfl
  have sameUnknown (name : String) : name ∈ unknownNames left ↔ name ∈ unknownNames right := by
    rw [mem_unknownNames_iff, mem_unknownNames_iff]
    exact and_congr_left fun unknown => same name unknown
  have sameEmpty : (unknownNames left).isEmpty = (unknownNames right).isEmpty := by
    rw [Bool.eq_iff_iff, List.isEmpty_iff, List.isEmpty_iff, List.eq_nil_iff_forall_not_mem,
      List.eq_nil_iff_forall_not_mem]
    exact forall_congr' fun name => not_congr (sameUnknown name)
  simp only [checkNames, areNames leftTexts, areNames rightTexts, sameEmpty,
    ordered_congr sameUnknown, Bool.not_true, Bool.false_eq_true, if_false]

/-! ## Entering and settling -/

theorem enter_of_ne
    (draft : Draft)
    {entry : Scalar × Value}
    {field : Field}
    (other : entry.1 ≠ .text field.name) :
    draft.enter entry field = draft field := by
  obtain ⟨key, value⟩ := entry
  cases key with
  | text name =>
      simp only [enter]
      cases known : Field.ofName? name with
      | none => rfl
      | some found =>
          apply put_of_ne
          rintro rfl
          exact other (congrArg Scalar.text (Field.name_of_ofName?_eq_some known).symm)
  | null | bool truth | int number | float number | member policy => rfl

/--
Entering a map gives the fields that it names their values, and leaves the others as they are.
-/
theorem foldl_enter_eq
    {entries : Entries}
    (named : entries.Named)
    (draft : Draft) :
    entries.foldl enter draft = fun field => (entries.find? field.name).getD (draft field) := by
  induction entries generalizing draft with
  | nil => rfl
  | cons entry rest inductionHypothesis =>
      obtain ⟨⟨name, isText, fresh⟩, restNamed⟩ := named.of_cons
      rw [List.foldl_cons, inductionHypothesis restNamed]
      funext field
      rw [Entries.find?_cons]
      by_cases isField : name = field.name
      · subst isField
        have entered : draft.enter entry = draft.put field entry.2 := by
          rw [← enter_name, ← isText]
        rw [fresh, if_pos isText, entered, put_self, Option.getD_none, Option.getD_some]
      · have other : entry.1 ≠ .text field.name := by
          rw [isText]
          exact fun same => isField (Scalar.text.inj same)
        rw [if_neg other, enter_of_ne draft other]

/-- Two results in turn are there if the first is there and then the second is. -/
theorem bind_eq_ok_iff
    {result : Except ε α}
    {next : α → Except ε β}
    {last : β} :
    result >>= next = .ok last ↔ ∃ value, result = .ok value ∧ next value = .ok last := by
  cases result with
  | ok value => simp [bind, Except.bind]
  | error fault => simp [bind, Except.bind]

theorem ofInt?_eq_some_iff
    {number : Int}
    {positive : Positive} :
    Positive.ofInt? number = some positive ↔ number = positive.val := by
  constructor
  · intro found
    unfold Positive.ofInt? at found
    split at found
    · cases found
      simp only
      omega
    · cases found
  · rintro rfl
    exact Positive.ofInt?_val positive

theorem checkTapeSize_eq_ok_iff
    {given : Int}
    {size : Positive} :
    checkTapeSize given = .ok size ↔ given = size.val := by
  rw [← ofInt?_eq_some_iff, checkTapeSize]
  cases Positive.ofInt? given with
  | none => simp
  | some number => simp

theorem checkModulus_eq_ok_iff
    {given : Option Int}
    {modulus : Option Positive} :
    checkModulus given = .ok modulus ↔ given = modulus.map fun number => (number.val : Int) := by
  constructor
  · intro accepted
    cases given with
    | none =>
        cases accepted
        rfl
    | some number =>
        rw [checkModulus] at accepted
        split at accepted
        · next positive found =>
            cases accepted
            rw [ofInt?_eq_some_iff.mp found]
            rfl
        · cases accepted
  · rintro rfl
    exact checkModulus_map_val modulus

theorem checkMaxSteps_eq_ok_iff
    {given : Option Int}
    {limit : Option Nat} :
    checkMaxSteps given = .ok limit ↔ given = limit.map fun number : Nat => (number : Int) := by
  constructor
  · intro accepted
    cases given with
    | none =>
        cases accepted
        rfl
    | some number =>
        rw [checkMaxSteps] at accepted
        split at accepted
        · cases accepted
        · next nonnegative =>
            cases accepted
            rw [Option.map_some, Int.toNat_of_nonneg (Int.not_lt.mp nonnegative)]
  · rintro rfl
    exact checkMaxSteps_map limit

/-- A value of a field is converted to what settings hold there. -/
def Yields (settings : Settings) (value : Value) : Field → Prop
  | .addressing => chooseAddressing value = .ok settings.addressing
  | .eof => chooseEof value = .ok settings.eof
  | .tapeSize => integer value = .ok (settings.tapeSize.val : Int)
  | .modulus => optionalInteger value = .ok (settings.modulus.map fun number => (number.val : Int))
  | .maxSteps =>
      optionalInteger value = .ok (settings.maxSteps.map fun number : Nat => (number : Int))

/-- A draft is settled to settings exactly if each of its values is converted to what they hold. -/
theorem settle_eq_ok_iff
    {draft : Draft}
    {settings : Settings} :
    draft.settle = .ok settings ↔ ∀ field, Yields settings (draft field) field := by
  constructor
  · intro settled
    simp only [settle, bind_eq_ok_iff, checkTapeSize_eq_ok_iff, checkModulus_eq_ok_iff,
      checkMaxSteps_eq_ok_iff] at settled
    obtain ⟨addressing, chosen, eof, chosenEof, size, sized, modulus, moduled, limit, limited,
      positive, sameSize, number, sameModulus, steps, sameLimit, same⟩ := settled
    cases same
    subst sameSize sameModulus sameLimit
    intro field
    cases field with
    | addressing => exact chosen
    | eof => exact chosenEof
    | tapeSize => exact sized
    | modulus => exact moduled
    | maxSteps => exact limited
  · intro yields
    exact settle_eq_ok (yields .addressing) (yields .eof) (yields .tapeSize) (yields .modulus)
      (yields .maxSteps)

/-- Two values of a field are converted to the same, or the same is wrong with both. -/
def Alike (left right : Value) : Field → Prop
  | .addressing => chooseAddressing left = chooseAddressing right
  | .eof => chooseEof left = chooseEof right
  | .tapeSize => integer left = integer right
  | .modulus => optionalInteger left = optionalInteger right
  | .maxSteps => optionalInteger left = optionalInteger right

theorem Alike.refl (value : Value) (field : Field) : Alike value value field := by
  cases field <;> rfl

theorem Yields.alike
    {settings : Settings}
    {left right : Value}
    {field : Field}
    (leftYields : Yields settings left field)
    (rightYields : Yields settings right field) :
    Alike left right field := by
  cases field <;> exact Eq.trans leftYields (Eq.symm rightYields)

/-- How a draft is settled depends on nothing but how its values are converted. -/
theorem settle_congr
    {left right : Draft}
    (alike : ∀ field, Alike (left field) (right field) field) :
    left.settle = right.settle := by
  have addressing : chooseAddressing (left .addressing) = chooseAddressing (right .addressing) :=
    alike .addressing
  have eof : chooseEof (left .eof) = chooseEof (right .eof) := alike .eof
  have tapeSize : integer (left .tapeSize) = integer (right .tapeSize) := alike .tapeSize
  have modulus : optionalInteger (left .modulus) = optionalInteger (right .modulus) :=
    alike .modulus
  have maxSteps : optionalInteger (left .maxSteps) = optionalInteger (right .maxSteps) :=
    alike .maxSteps
  simp only [settle, addressing, eof, tapeSize, modulus, maxSteps]

end Draft

theorem Field.name_injective : Function.Injective Field.name := by
  intro left right same
  rw [← Option.some.injEq, ← ofName?_name, same, ofName?_name]

theorem Addressing.name_injective : Function.Injective Addressing.name := by
  intro left right same
  rw [← Option.some.injEq, ← ofName?_name, same, ofName?_name]

theorem Addressing.name_of_ofName?_eq_some
    {name : String}
    {policy : Addressing}
    (found : ofName? name = some policy) :
    policy.name = name := by
  have same := List.find?_some found
  exact eq_of_beq same

theorem EofPolicy.name_injective : Function.Injective EofPolicy.name := by
  intro left right same
  rw [← Option.some.injEq, ← ofName?_name, same, ofName?_name]

theorem EofPolicy.name_of_ofName?_eq_some
    {name : String}
    {policy : EofPolicy}
    (found : ofName? name = some policy) :
    policy.name = name := by
  have same := List.find?_some found
  exact eq_of_beq same

/--
The values that a field accepts: its policies and the names of these, or the numbers in its range.
-/
def Field.Accepts (value : Value) : Field → Prop
  | .addressing => ∃ policy : Addressing,
      value = .member (.addressing policy) ∨ Draft.plainName value = policy.name
  | .eof => ∃ policy : EofPolicy,
      value = .member (.eof policy) ∨ Draft.plainName value = policy.name
  | .tapeSize => ∃ number, value.toInt = .ok number ∧ 1 ≤ number
  | .modulus => ∃ given, value.toOptionalInt = .ok given ∧ ∀ number ∈ given, 1 ≤ number
  | .maxSteps => ∃ given, value.toOptionalInt = .ok given ∧ ∀ number ∈ given, 0 ≤ number

namespace Draft

/-- A policy itself is not written like the name of one. -/
theorem plainName_member_ne_addressing (member : Member) (policy : Addressing) :
    plainName (.member member) ≠ policy.name := by
  cases member with
  | addressing other => cases other <;> cases policy <;> decide
  | eof other => cases other <;> cases policy <;> decide

theorem plainName_member_ne_eof (member : Member) (policy : EofPolicy) :
    plainName (.member member) ≠ policy.name := by
  cases member with
  | addressing other => cases other <;> cases policy <;> decide
  | eof other => cases other <;> cases policy <;> decide

theorem chooseAddressing_eq_ok_iff
    {value : Value}
    {policy : Addressing} :
    chooseAddressing value = .ok policy ↔
      value = .member (.addressing policy) ∨ plainName value = policy.name := by
  unfold chooseAddressing
  split
  · next other => simp [plainName_member_ne_addressing]
  · next notMember =>
      rw [or_iff_right (notMember policy)]
      cases found : Addressing.ofName? (plainName value) with
      | none =>
          have unnamed : plainName value ≠ policy.name := by
            intro named
            rw [named, Addressing.ofName?_name] at found
            cases found
          simp [unnamed]
      | some named =>
          rw [Except.ok.injEq, ← Addressing.name_of_ofName?_eq_some found,
            Addressing.name_injective.eq_iff]

theorem chooseEof_eq_ok_iff
    {value : Value}
    {policy : EofPolicy} :
    chooseEof value = .ok policy ↔
      value = .member (.eof policy) ∨ plainName value = policy.name := by
  unfold chooseEof
  split
  · next other => simp [plainName_member_ne_eof]
  · next notMember =>
      rw [or_iff_right (notMember policy)]
      cases found : EofPolicy.ofName? (plainName value) with
      | none =>
          have unnamed : plainName value ≠ policy.name := by
            intro named
            rw [named, EofPolicy.ofName?_name] at found
            cases found
          simp [unnamed]
      | some named =>
          rw [Except.ok.injEq, ← EofPolicy.name_of_ofName?_eq_some found,
            EofPolicy.name_injective.eq_iff]

theorem integer_eq_ok_iff
    {value : Value}
    {number : Int} :
    integer value = .ok number ↔ value.toInt = .ok number := by
  rw [integer]
  cases value.toInt with
  | ok found => simp [Except.mapError]
  | error fault => simp [Except.mapError]

theorem optionalInteger_eq_ok_iff
    {value : Value}
    {given : Option Int} :
    optionalInteger value = .ok given ↔ value.toOptionalInt = .ok given := by
  rw [optionalInteger]
  cases value.toOptionalInt with
  | ok found => simp [Except.mapError]
  | error fault => simp [Except.mapError]

theorem Yields.accepts
    {settings : Settings}
    {value : Value}
    {field : Field}
    (yields : Yields settings value field) :
    field.Accepts value := by
  cases field with
  | addressing => exact ⟨_, chooseAddressing_eq_ok_iff.mp yields⟩
  | eof => exact ⟨_, chooseEof_eq_ok_iff.mp yields⟩
  | tapeSize =>
      refine ⟨_, integer_eq_ok_iff.mp yields, ?_⟩
      have positive := settings.tapeSize.property
      omega
  | modulus =>
      refine ⟨_, optionalInteger_eq_ok_iff.mp yields, ?_⟩
      intro number member
      obtain ⟨modulus, -, rfl⟩ := Option.map_eq_some_iff.mp member
      have positive := modulus.property
      omega
  | maxSteps =>
      refine ⟨_, optionalInteger_eq_ok_iff.mp yields, ?_⟩
      intro number member
      obtain ⟨limit, -, rfl⟩ := Option.map_eq_some_iff.mp member
      exact Int.natCast_nonneg limit

/-- A draft can be settled exactly if every field accepts its value. -/
theorem exists_settle_iff (draft : Draft) :
    (∃ settings, draft.settle = .ok settings) ↔ ∀ field : Field, field.Accepts (draft field) := by
  constructor
  · rintro ⟨settings, settled⟩ field
    exact (settle_eq_ok_iff.mp settled field).accepts
  · intro accepts
    obtain ⟨addressing, chosen⟩ := accepts .addressing
    obtain ⟨eof, chosenEof⟩ := accepts .eof
    obtain ⟨size, sized, positive⟩ := accepts .tapeSize
    obtain ⟨modulus, moduled, modulusPositive⟩ := accepts .modulus
    obtain ⟨limit, limited, limitNonnegative⟩ := accepts .maxSteps
    obtain ⟨tapeSize, sameSize⟩ : ∃ tapeSize : Positive, size = tapeSize.val :=
      ⟨⟨size.toNat, by omega⟩, by simp only; omega⟩
    obtain ⟨number, sameModulus⟩ : ∃ number : Option Positive,
        modulus = number.map fun positive => (positive.val : Int) := by
      cases modulus with
      | none => exact ⟨none, rfl⟩
      | some modulus =>
          have positive := modulusPositive modulus rfl
          refine ⟨some ⟨modulus.toNat, by omega⟩, congrArg some ?_⟩
          simp only
          omega
    obtain ⟨steps, sameLimit⟩ : ∃ steps : Option Nat,
        limit = steps.map fun steps : Nat => (steps : Int) := by
      cases limit with
      | none => exact ⟨none, rfl⟩
      | some limit =>
          have nonnegative := limitNonnegative limit rfl
          exact ⟨some limit.toNat, congrArg some (Int.toNat_of_nonneg nonnegative).symm⟩
    subst sameSize sameModulus sameLimit
    refine ⟨⟨addressing, tapeSize, number, eof, steps⟩, settle_eq_ok_iff.mpr fun field => ?_⟩
    cases field with
    | addressing => exact chooseAddressing_eq_ok_iff.mpr chosen
    | eof => exact chooseEof_eq_ok_iff.mpr chosenEof
    | tapeSize => exact integer_eq_ok_iff.mpr sized
    | modulus => exact optionalInteger_eq_ok_iff.mpr moduled
    | maxSteps => exact optionalInteger_eq_ok_iff.mpr limited

/-- A map is settled with a draft by its names and by the values that it gives the fields. -/
theorem settleWith_eq
    {entries : Entries}
    (named : entries.Named)
    (draft : Draft) :
    draft.settleWith entries =
      checkNames (entries.map (·.1)) >>= fun _ =>
        settle fun field => (entries.find? field.name).getD (draft field) := by
  rw [settleWith, foldl_enter_eq named]

end Draft

end TapeMachine

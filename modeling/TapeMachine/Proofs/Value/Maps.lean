import Mathlib.Data.List.Induction
import Mathlib.Data.List.Nodup
import Mathlib.Tactic.Common
import TapeMachine.Value.Basic

/-!
# Maps by name

The entries of a document are a map if every key is a text and no two of them are the same.  Of such
a map only the value under each name matters, and not the order of the entries.  A value that is
null stands for nothing.  One map overwrites another if its values take the place of those that the
other has under the same names.
-/

namespace TapeMachine

/-- Only a text is the same key as a text. -/
theorem Scalar.sameKey_text (key : Scalar) (name : String) :
    key.sameKey (.text name) = decide (key = .text name) := by
  cases key with
  | text other =>
      simp only [sameKey, whole?, Scalar.text.injEq]
      rfl
  | null | bool truth | int number | float number | member policy => simp [sameKey, whole?]

namespace Entries

/-- Entries are a map by name: every key is a text, and no two of them are the same. -/
structure Named (entries : Entries) : Prop where
  /-- Every key is a text. -/
  texts : ∀ key ∈ entries.map (·.1), ∃ name, key = .text name
  /-- The keys are different. -/
  distinct : (entries.map (·.1)).Nodup

/-- The entries that are not null. -/
def given (entries : Entries) : Entries :=
  entries.filter fun entry => !entry.2.isNull

/-- The entries of a map and of another, which takes precedence. -/
def overwrite (entries other : Entries) : Entries :=
  other.foldl (fun whole entry => whole.put entry.1 entry.2) entries

/-- The entries under other keys than a name. -/
def without (entries : Entries) (name : String) : Entries :=
  entries.filter fun entry => entry.1 ≠ .text name

variable {entries first second : Entries} {name other : String} {value : Value}

theorem find?_cons (entry : Scalar × Value) (entries : Entries) (name : String) :
    find? (entry :: entries) name =
      if entry.1 = .text name then some entry.2 else entries.find? name := by
  simp only [find?, List.find?_cons]
  split <;> simp_all

theorem isSome_find?_iff : (entries.find? name).isSome ↔ .text name ∈ entries.map (·.1) := by
  simp [find?]

theorem mem_of_find? (found : entries.find? name = some value) : (.text name, value) ∈ entries := by
  obtain ⟨entry, listed, rfl⟩ := Option.map_eq_some_iff.mp found
  have isText := List.find?_some listed
  simp only [decide_eq_true_eq] at isText
  rw [← isText]
  exact List.mem_of_find?_eq_some listed

theorem find?_without
    (different : other ≠ name)
    (entries : Entries) :
    (entries.without name).find? other = entries.find? other := by
  rw [find?, without, List.find?_filter, find?]
  congr 2
  funext entry
  by_cases here : entry.1 = .text other
  · simp [here, different]
  · simp [here]

theorem find?_put :
    (entries.put (.text name) value).find? other =
      if name = other then some value else entries.find? other := by
  induction entries with
  | nil => simp [put, find?_cons]
  | cons entry rest inductionHypothesis =>
      rw [put, Scalar.sameKey_text]
      by_cases present : entry.1 = .text name
      · simp only [present, decide_true, if_true, find?_cons, Scalar.text.injEq]
        split <;> rfl
      · simp only [present, decide_false, Bool.false_eq_true, if_false, find?_cons,
          inductionHypothesis]
        split
        · next here =>
            have different : name ≠ other := by
              rintro rfl
              exact present here
            rw [if_neg different]
        · rfl

/-- A name that is present keeps its place, and another one comes last. -/
theorem keys_put :
    (entries.put (.text name) value).map (·.1) =
      if .text name ∈ entries.map (·.1) then entries.map (·.1)
      else entries.map (·.1) ++ [.text name] := by
  induction entries with
  | nil => simp [put]
  | cons entry rest inductionHypothesis =>
      rw [put, Scalar.sameKey_text]
      by_cases present : entry.1 = .text name
      · simp [present]
      · have absent : Scalar.text name ≠ entry.1 := Ne.symm present
        simp only [present, decide_false, Bool.false_eq_true, if_false, List.map_cons,
          inductionHypothesis, List.mem_cons, absent, false_or]
        split <;> rfl

theorem put_of_find?_eq_none
    (absent : entries.find? name = none)
    (value : Value) :
    entries.put (.text name) value = entries ++ [(.text name, value)] := by
  induction entries with
  | nil => rfl
  | cons entry rest inductionHypothesis =>
      rw [find?_cons] at absent
      by_cases here : entry.1 = .text name
      · rw [if_pos here] at absent
        cases absent
      · rw [if_neg here] at absent
        rw [put, Scalar.sameKey_text, decide_eq_false here, if_neg Bool.false_ne_true,
          inductionHypothesis absent, List.cons_append]

theorem overwrite_cons (entries rest : Entries) (entry : Scalar × Value) :
    entries.overwrite (entry :: rest) = (entries.put entry.1 entry.2).overwrite rest := rfl

namespace Named

theorem of_cons
    {entry : Scalar × Value}
    (named : Named (entry :: entries)) :
    (∃ name, entry.1 = .text name ∧ entries.find? name = none) ∧ entries.Named := by
  obtain ⟨texts, distinct⟩ := named
  rw [List.map_cons] at texts distinct
  obtain ⟨⟨name, isText⟩, restTexts⟩ := List.forall_mem_cons.mp texts
  obtain ⟨fresh, restDistinct⟩ := List.nodup_cons.mp distinct
  refine ⟨⟨name, isText, ?_⟩, restTexts, restDistinct⟩
  rw [← Option.not_isSome_iff_eq_none, isSome_find?_iff, ← isText]
  exact fresh

theorem given (named : entries.Named) : entries.given.Named := by
  have fewer : (entries.given.map (·.1)).Sublist (entries.map (·.1)) := List.filter_sublist.map _
  exact ⟨fun key member => named.texts key (fewer.subset member), named.distinct.sublist fewer⟩

theorem put
    (named : entries.Named)
    (name : String)
    (value : Value) :
    (entries.put (.text name) value).Named := by
  rcases Decidable.em (.text name ∈ entries.map (·.1)) with present | absent
  · constructor
    · rw [keys_put, if_pos present]
      exact named.texts
    · rw [keys_put, if_pos present]
      exact named.distinct
  · constructor
    · rw [keys_put, if_neg absent, List.forall_mem_append, List.forall_mem_singleton]
      exact ⟨named.texts, name, rfl⟩
    · rw [keys_put, if_neg absent, ← List.concat_eq_append]
      exact List.Nodup.concat absent named.distinct

theorem overwrite
    (firstNamed : first.Named)
    (secondNamed : second.Named) :
    (first.overwrite second).Named := by
  induction second generalizing first with
  | nil => exact firstNamed
  | cons entry rest inductionHypothesis =>
      obtain ⟨⟨name, isText, -⟩, restNamed⟩ := secondNamed.of_cons
      rw [overwrite_cons, isText]
      exact inductionHypothesis (firstNamed.put name entry.2) restNamed

/-- A map that is overwritten has the values of the other map, and its own where there is none. -/
theorem find?_overwrite
    (named : second.Named)
    (first : Entries)
    (name : String) :
    (first.overwrite second).find? name = (second.find? name).or (first.find? name) := by
  induction second generalizing first with
  | nil => rfl
  | cons entry rest inductionHypothesis =>
      obtain ⟨⟨present, isText, fresh⟩, restNamed⟩ := named.of_cons
      rw [overwrite_cons, inductionHypothesis restNamed, isText, find?_put, find?_cons, isText]
      by_cases same : present = name
      · subst same
        simp [fresh]
      · simp [same]

theorem find?_given
    (named : entries.Named)
    (name : String) :
    entries.given.find? name = (entries.find? name).filter (!·.isNull) := by
  induction entries with
  | nil => rfl
  | cons entry rest inductionHypothesis =>
      obtain ⟨⟨present, isText, fresh⟩, restNamed⟩ := named.of_cons
      have later := inductionHypothesis restNamed
      rw [Entries.given] at later ⊢
      simp only [find?_cons, isText, Scalar.text.injEq]
      by_cases same : present = name
      · subst same
        rw [fresh] at later
        cases null : entry.2.isNull with
        | true => simp [null, later, Option.filter]
        | false => simp [null, find?_cons, isText, Option.filter]
      · cases null : entry.2.isNull with
        | true => simp [null, later, same]
        | false => simp [null, find?_cons, isText, later, same]

theorem find?_of_mem
    {entry : Scalar × Value}
    (named : entries.Named)
    (member : entry ∈ entries)
    (isText : entry.1 = .text name) :
    entries.find? name = some entry.2 := by
  induction entries with
  | nil => cases member
  | cons head rest inductionHypothesis =>
      obtain ⟨⟨present, headText, fresh⟩, restNamed⟩ := named.of_cons
      rw [find?_cons]
      rcases List.mem_cons.mp member with rfl | later
      · rw [if_pos isText]
      · have found := inductionHypothesis restNamed later
        have other : head.1 ≠ .text name := by
          intro same
          rw [headText, Scalar.text.injEq] at same
          rw [← same, fresh] at found
          cases found
        rw [if_neg other, found]

/-- What is given by a map that is overwritten with what another map gives. -/
theorem find?_given_overwrite
    (firstNamed : first.Named)
    (secondNamed : second.Named)
    (name : String) :
    (first.overwrite second.given).given.find? name =
      (second.given.find? name).or (first.given.find? name) := by
  rw [(firstNamed.overwrite secondNamed.given).find?_given, secondNamed.given.find?_overwrite,
    firstNamed.find?_given, secondNamed.find?_given]
  cases second.find? name with
  | none => simp
  | some value => cases null : value.isNull <;> simp [null, Option.filter]

/-- The last key of a map is a text that stands nowhere before. -/
theorem of_concat
    {last : Scalar × Value}
    (named : Named (entries ++ [last])) :
    entries.Named ∧ ∃ name, last.1 = .text name ∧ entries.find? name = none := by
  obtain ⟨texts, distinct⟩ := named
  rw [List.map_append, List.map_singleton] at texts distinct
  obtain ⟨initTexts, lastText⟩ := List.forall_mem_append.mp texts
  obtain ⟨name, isText⟩ := List.forall_mem_singleton.mp lastText
  obtain ⟨initDistinct, -, apart⟩ := List.nodup_append.mp distinct
  refine ⟨⟨initTexts, initDistinct⟩, name, isText, ?_⟩
  rw [← Option.not_isSome_iff_eq_none, isSome_find?_iff, ← isText]
  exact fun present => apart _ present _ (List.mem_singleton_self _) rfl

/-- Entering the entries of a map in turn gives that map, in the same order. -/
theorem ofList_eq (named : entries.Named) : ofList entries = entries := by
  induction entries using List.reverseRecOn with
  | nil => rfl
  | append_singleton init last inductionHypothesis =>
      obtain ⟨initNamed, name, isText, fresh⟩ := named.of_concat
      rw [ofList, List.foldl_concat, ← ofList, inductionHypothesis initNamed, isText,
        put_of_find?_eq_none fresh, ← isText]

end Named
end Entries

end TapeMachine

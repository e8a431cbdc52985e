import Mathlib.Data.List.Forall2
import TapeMachine.Proofs.Value.Maps
import TapeMachine.Suite.Basic

/-!
# The shapes of a suite

A suite consists of named bodies, each of which makes a case.  Its document may be a list of the
bodies, each of them with its name among its entries, or a map that has the bodies under their
names.  Either may stand under the name `cases` of another map.  All these documents load alike: as
the cases that the bodies make, in order, or with the fault of the first body that makes none.

A map of bodies that has one of them under the name `cases` is the only document in doubt, since it
has the shape of a map in which another document stands.
-/

namespace TapeMachine
namespace Entries

/--
Entries are those of a body together with a name.  The name may stand anywhere among them; if the
body has a name of its own, it takes the place of that.
-/
structure Labels (entries : Entries) (name : String) (body : Entries) : Prop where
  /-- The name is entered. -/
  label : entries.find? "name" = some (.text name)
  /-- The other entries are those of the body. -/
  others : entries.without "name" = body.without "name"

end Entries

namespace Case

/-- The name among the entries of a body has no part in the case that it makes. -/
theorem ofEntries_without_name
    (title : String)
    (entries : Entries) :
    ofEntries title (entries.without "name") = ofEntries title entries := by
  have sameOverrides :
      (entries.without "name").filter (fun entry => !isOwn entry.1) =
        entries.filter fun entry => !isOwn entry.1 := by
    rw [Entries.without, List.filter_filter]
    apply List.filter_congr
    intro entry _
    by_cases here : entry.1 = .text "name"
    · simp [here, isOwn, ownNames]
    · simp [here]
  simp only [ofEntries, Entries.findOrNull, sameOverrides,
    Entries.find?_without (by decide : "program" ≠ "name"),
    Entries.find?_without (by decide : "input" ≠ "name"),
    Entries.find?_without (by decide : "expected" ≠ "name"),
    Entries.find?_without (by decide : "error" ≠ "name")]

theorem ofEntries_of_labels
    {entries body : Entries}
    {name : String}
    (labels : entries.Labels name body)
    (title : String) :
    ofEntries title entries = ofEntries title body := by
  rw [← ofEntries_without_name, labels.others, ofEntries_without_name]

end Case

namespace Suite

/-- The cases that named bodies make. -/
def makeAll (cases : List (String × Entries)) : Except CaseFault (List Case) :=
  cases.mapM fun case => Case.ofEntries case.1 case.2

/-- What the loading of named bodies comes to, whichever document they stand in. -/
inductive Loads : List (String × Entries) → Except SuiteFault (List Case) → Prop
  /-- Every body makes a case, and the cases are loaded in the order of the bodies. -/
  | all
      {cases : List (String × Entries)}
      {made : List Case}
      (makes : List.Forall₂ (fun case result => Case.ofEntries case.1 case.2 = .ok result)
        cases made) :
      Loads cases (.ok made)
  /-- A body makes no case, all before it make one, and the fault is its own. -/
  | firstBad
      (before after : List (String × Entries))
      {bad : String × Entries}
      {fault : CaseFault}
      (good : ∀ case ∈ before, ∃ made, Case.ofEntries case.1 case.2 = .ok made)
      (refused : Case.ofEntries bad.1 bad.2 = .error fault) :
      Loads (before ++ bad :: after) (.error (.case fault))

/-- A body that makes a case puts it first and changes no fault of those that follow. -/
theorem Loads.cons
    {case : String × Entries}
    {rest : List (String × Entries)}
    {made : Case}
    {loaded : Except SuiteFault (List Case)}
    (makes : Case.ofEntries case.1 case.2 = .ok made)
    (loads : Loads rest loaded) :
    Loads (case :: rest) (loaded.map (made :: ·)) := by
  cases loads with
  | all others => exact .all (.cons makes others)
  | firstBad before after good refused =>
      have allGood : ∀ earlier ∈ case :: before,
          ∃ made, Case.ofEntries earlier.1 earlier.2 = .ok made :=
        List.forall_mem_cons.mpr ⟨⟨made, makes⟩, good⟩
      exact .firstBad (case :: before) after allGood refused

theorem loads_makeAll (cases : List (String × Entries)) :
    Loads cases ((makeAll cases).mapError .case) := by
  induction cases with
  | nil => exact .all .nil
  | cons case rest inductionHypothesis =>
      rw [makeAll, List.mapM_cons, ← makeAll]
      cases here : Case.ofEntries case.1 case.2 with
      | error fault => exact .firstBad [] rest (List.forall_mem_nil _) here
      | ok made =>
          generalize makeAll rest = later at inductionHypothesis
          cases later with
          | error fault => exact inductionHypothesis.cons here
          | ok others => exact inductionHypothesis.cons here

/-- The items of a list are the named bodies, each with its name. -/
def Lists (items : List Entries) (cases : List (String × Entries)) : Prop :=
  List.Forall₂ (fun item case => item.Labels case.1 case.2) items cases

/-- Named bodies as entries. -/
def entered (cases : List (String × Entries)) : Entries :=
  cases.map fun case => (.text case.1, .map case.2)

/-- The map that results from entering named bodies in turn. -/
def byName (cases : List (String × Entries)) : Entries :=
  Entries.ofList (entered cases)

/-- A value holds named bodies, as a list or as a map. -/
inductive Holds (cases : List (String × Entries)) : Value → Prop
  /-- The bodies are listed. -/
  | list {items : List Entries} (lists : Lists items cases) : Holds cases (.list (items.map .map))
  /-- The bodies are entered under their names. -/
  | map : Holds cases (.map (byName cases))

/-- The documents of a suite. -/
inductive Documents (cases : List (String × Entries)) : Value → Prop
  /-- A list of the bodies. -/
  | list {items : List Entries} (lists : Lists items cases) :
      Documents cases (.list (items.map .map))
  /-- A map of the bodies, none of which is named `cases`. -/
  | map (free : "cases" ∉ cases.map (·.1)) : Documents cases (.map (byName cases))
  /-- A map that has a list or a map of the bodies under the name `cases`. -/
  | nested
      {document : Entries}
      {value : Value}
      (found : document.find? "cases" = some value)
      (holds : Holds cases value) :
      Documents cases (.map document)

variable {cases : List (String × Entries)}

theorem keys_entered (cases : List (String × Entries)) :
    (entered cases).map (·.1) = (cases.map (·.1)).map .text := by
  rw [entered, List.map_map, List.map_map]
  rfl

/-- Bodies with different names are entered in order, and none takes the place of another. -/
theorem byName_eq_entered (distinct : (cases.map (·.1)).Nodup) : byName cases = entered cases := by
  apply Entries.Named.ofList_eq
  constructor
  · rw [keys_entered]
    intro key member
    obtain ⟨name, -, rfl⟩ := List.mem_map.mp member
    exact ⟨name, rfl⟩
  · rw [keys_entered]
    exact distinct.map fun _ _ => Scalar.text.inj

theorem Documents.holds_content
    {value : Value}
    (distinct : (cases.map (·.1)).Nodup)
    (documents : Documents cases value) :
    Holds cases (content value) := by
  cases documents with
  | list lists => exact .list lists
  | map free =>
      have absent : (byName cases).find? "cases" = none := by
        rw [← Option.not_isSome_iff_eq_none, Entries.isSome_find?_iff, byName_eq_entered distinct,
          keys_entered, List.mem_map_of_injective fun _ _ => Scalar.text.inj]
        exact free
      rw [content, absent]
      exact .map
  | nested found holds =>
      rw [content, found]
      exact holds

/-- Listed bodies make the cases that they make under their names. -/
theorem mapM_listed
    {items : List Entries}
    (lists : Lists items cases)
    (start : Nat) :
    (((items.map Value.map).zipIdx start).mapM fun item =>
        Case.ofValue (listedName item.2 item.1) item.1) =
      makeAll cases := by
  induction lists generalizing start with
  | nil => rfl
  | cons labels _ inductionHypothesis =>
      -- The place of an item would name only a case that has no name.
      simp only [makeAll] at inductionHypothesis ⊢
      rw [List.map_cons, List.zipIdx_cons, List.mapM_cons, inductionHypothesis, List.mapM_cons,
        listedName, labels.label, Case.ofValue, Case.ofEntries_of_labels labels]
      rfl

theorem ofValue_of_holds
    {value : Value}
    (distinct : (cases.map (·.1)).Nodup)
    (holds : Holds cases (content value))
    (path : String) :
    ofValue path value = (makeAll cases).mapError .case := by
  rw [ofValue]
  generalize content value = held at holds
  cases holds with
  | list lists => exact congrArg (Except.mapError SuiteFault.case) (mapM_listed lists 0)
  | map =>
      rw [byName_eq_entered distinct]
      exact congrArg (Except.mapError SuiteFault.case) List.mapM_map

/--
All documents of a suite load alike.  Whatever the named bodies are, as long as their names are
different, and however documents are read, loading comes to the same for a file with a list of the
bodies, for one with a map of them in which none is named `cases`, and for one that has such a list
or any such map under the name `cases`: the cases that the bodies make in the order in which they
are given, or the fault of the first body that makes no case.
-/
theorem documents_load_alike
    (cases : List (String × Entries))
    (distinct : (cases.map (·.1)).Nodup) :
    ∃ loaded, Loads cases loaded ∧
      ∀ (reader : Yaml.DocumentReader) (path : String) (text : List Char) (value : Value),
        document reader path text = .ok value → Documents cases value →
          load reader path text = loaded := by
  refine ⟨_, loads_makeAll cases, ?_⟩
  intro reader path text value read documents
  rw [load, read]
  exact ofValue_of_holds distinct (documents.holds_content distinct) path

/--
A list of two bodies loads as the map of these bodies under the name `cases`.  One of the bodies has
its name in front and the other one at its end.
-/
theorem list_loads_as_nested_map :
    let printing : Entries := [(.text "program", .text "+."), (.text "eof", .text "zero")]
    let reading : Entries := [(.text "program", .text ",")]
    let cases := [("b", printing), ("a", reading)]
    (cases.map (·.1)).Nodup ∧ ∀ reader,
      load reader "list.json"
          ("[\x7b\"name\":\"b\",\"program\":\"+.\",\"eof\":\"zero\"\x7d," ++
            "\x7b\"program\":\",\",\"name\":\"a\"\x7d]").toList =
        load reader "map.json"
          ("\x7b\"cases\":\x7b\"b\":\x7b\"program\":\"+.\",\"eof\":\"zero\"\x7d," ++
            "\"a\":\x7b\"program\":\",\"\x7d\x7d\x7d").toList := by
  intro printing reading cases
  have distinct : (cases.map (·.1)).Nodup := by decide
  obtain ⟨loaded, -, alike⟩ := documents_load_alike cases distinct
  have lists :
      Lists [(.text "name", .text "b") :: printing, reading ++ [(.text "name", .text "a")]] cases :=
    .cons ⟨rfl, rfl⟩ (.cons ⟨rfl, rfl⟩ .nil)
  have nested : Documents cases (.map [(.text "cases", .map (byName cases))]) :=
    .nested rfl .map
  refine ⟨distinct, ?_⟩
  intro reader
  rw [alike reader "list.json" _ _ (by rfl) (.list lists),
    alike reader "map.json" _ _ (by rfl) nested]

end Suite
end TapeMachine

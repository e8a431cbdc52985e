import TapeMachine.Settings.Field
import TapeMachine.Text.Blank
import TapeMachine.Text.Letter
import TapeMachine.Value.Kind
import TapeMachine.Value.Number

/-!
# Drafts of settings

A draft gives every field a value of any shape.  Settling a draft turns the values into
settings or says what is wrong with the first bad one.  Settings read from a document, from the
environment or from other settings with overrides are all settled drafts; they differ only in
where the values come from.
-/

namespace TapeMachine

/-- Why there are no settings. -/
inductive SettingsFault
  /-- Some names are not names of fields; they are listed in order. -/
  | unknownNames (names : List String)
  /-- The addressing is no name of a policy. -/
  | addressing (given : Value)
  /-- The behaviour at the end of the input is no name of a policy. -/
  | eof (given : Value)
  /-- A number is none. -/
  | number (fault : NumberFault)
  /-- The tape has no cells. -/
  | tapeSize
  /-- The modulus is not positive. -/
  | modulus
  /-- The number of steps is negative. -/
  | maxSteps
  /-- A list stands where fields are expected, and its first item is no pair. -/
  | noPair (length : Nat)
  /-- The fields are given in a shape that has no names, or by names of the wrong kind. -/
  | kind (fault : KindFault)
  deriving Repr

namespace SettingsFault

/-- The wording of a bad choice among names. -/
def badChoice (kind : String) (given : Value) (names : List String) : String :=
  "invalid " ++ kind ++ " " ++ given.literal ++ "; expected one of: " ++ ", ".intercalate names

/-- The wording of a fault. -/
def message : SettingsFault → String
  | unknownNames names => "unknown config keys: " ++ ", ".intercalate names
  | addressing given => badChoice "AddressingPolicy" given (Addressing.all.map Addressing.name)
  | eof given => badChoice "EofPolicy" given (EofPolicy.all.map EofPolicy.name)
  | number fault => fault.message
  | tapeSize => "tape_size must be positive"
  | modulus => "modulus must be positive"
  | maxSteps => "max_steps must not be negative"
  | noPair length =>
    "dictionary update sequence element #0 has length " ++ toString length ++
      "; 2 is required"
  | kind fault => fault.message

end SettingsFault

/-- A value for every field. -/
abbrev Draft := Field → Value

namespace Draft

/-- Gives a field another value. -/
def put (draft : Draft) (field : Field) (value : Value) : Draft :=
  fun other => if other = field then value else draft other

@[simp]
theorem put_self (draft : Draft) (field : Field) (value : Value) :
    draft.put field value field = value := by
  simp [put]

/-- Giving a field another value leaves the other fields as they are. -/
theorem put_of_ne
    (draft : Draft)
    (field : Field)
    (value : Value)
    {other : Field}
    (different : other ≠ field) :
    draft.put field value other = draft other := by
  simp [put, different]

/-- The name that a value stands for: its display without outer blanks, in lower case. -/
def plainName (value : Value) : String :=
  Text.lowerCase (Text.strip value.display)

/-- The integer that a field holds. -/
def integer (value : Value) : Except SettingsFault Int :=
  value.toInt.mapError .number

/-- The integer that a field holds, if it is given. -/
def optionalInteger (value : Value) : Except SettingsFault (Option Int) :=
  value.toOptionalInt.mapError .number

/-- The addressing that a value is or names. -/
def chooseAddressing (value : Value) : Except SettingsFault Addressing :=
  match value with
  | .member (.addressing policy) => .ok policy
  | other =>
    match Addressing.ofName? (plainName other) with
    | some policy => .ok policy
    | none => .error (.addressing other)

/-- The behaviour at the end of the input that a value is or names. -/
def chooseEof (value : Value) : Except SettingsFault EofPolicy :=
  match value with
  | .member (.eof policy) => .ok policy
  | other =>
    match EofPolicy.ofName? (plainName other) with
    | some policy => .ok policy
    | none => .error (.eof other)

/-- A number of cells has to be positive. -/
def checkTapeSize (size : Int) : Except SettingsFault Positive :=
  match Positive.ofInt? size with
  | some number => .ok number
  | none => .error .tapeSize

/-- A modulus has to be positive if it is given. -/
def checkModulus : Option Int → Except SettingsFault (Option Positive)
  | none => .ok none
  | some modulus =>
    match Positive.ofInt? modulus with
    | some number => .ok (some number)
    | none => .error .modulus

/-- A number of steps must not be negative if it is given. -/
def checkMaxSteps : Option Int → Except SettingsFault (Option Nat)
  | none => .ok none
  | some limit => if limit < 0 then .error .maxSteps else .ok (some limit.toNat)

/-- Turns the values into settings: first every value is converted, then the ranges are checked. -/
def settle (draft : Draft) : Except SettingsFault Settings := do
  let addressing ← chooseAddressing (draft .addressing)
  let eof ← chooseEof (draft .eof)
  let givenSize ← integer (draft .tapeSize)
  let givenModulus ← optionalInteger (draft .modulus)
  let givenLimit ← optionalInteger (draft .maxSteps)
  let tapeSize ← checkTapeSize givenSize
  let modulus ← checkModulus givenModulus
  let maxSteps ← checkMaxSteps givenLimit
  .ok { addressing, tapeSize, modulus, eof, maxSteps }

/-- The names among keys that are texts and name no field. -/
def unknownNames (keys : List Scalar) : List String :=
  keys.filterMap fun key =>
    match key with
    | .text name => if (Field.ofName? name).isNone then some name else none
    | _ => none

/-- Texts in ascending order, each of them once. -/
def ordered (names : List String) : List String :=
  names.eraseDups.mergeSort fun left right => decide (left ≤ right)

/-- Whether a key is the name of a field. -/
def isField : Scalar → Bool
  | .text name => (Field.ofName? name).isSome
  | _ => false

/-- Every key has to be the name of a field. -/
def checkNames (keys : List Scalar) : Except SettingsFault Unit :=
  if !keys.all Scalar.isText then
    .error (.kind (.ofNames (keys.filter fun key => !isField key)))
  else
    let unknown := unknownNames keys
    if unknown.isEmpty then .ok () else .error (.unknownNames (ordered unknown))

/-- Enters a value under the name of a field; other keys are left out. -/
def enter (draft : Draft) (entry : Scalar × Value) : Draft :=
  match entry.1 with
  | .text name =>
    match Field.ofName? name with
    | some field => draft.put field entry.2
    | none => draft
  | _ => draft

/-- Enters values in turn after checking their keys, and settles what results. -/
def settleWith (draft : Draft) (entries : Entries) : Except SettingsFault Settings := do
  checkNames (entries.map (·.1))
  settle (entries.foldl enter draft)

end Draft

namespace Settings

/-- The settings that entries describe; what they leave out has its default. -/
def ofEntries (entries : Entries) : Except SettingsFault Settings :=
  Draft.settleWith (get {}) entries

/-- The first item of a list that cannot be a name. -/
def firstPart? (items : List Value) : Option Value :=
  items.find? fun item => item.scalar?.isNone

/--
The settings that a value describes.  A value other than a map has no fields; it is accepted
only if it is an empty list or text, and is reported by the names that it lists.
-/
def ofValue : Value → Except SettingsFault Settings
  | .map entries => ofEntries entries
  | .text content => do
    Draft.checkNames (content.toList.map fun character => .text (String.singleton character))
    ofEntries []
  | .list items =>
    match firstPart? items with
    | some part => .error (.kind (.unhashable part.kindName))
    | none => do
      let keys := items.filterMap Value.scalar?
      Draft.checkNames keys
      match keys with
      | .text name :: _ => .error (.noPair name.length)
      | _ => ofEntries []
  | .scalar content => .error (.kind (.notIterable content.kindName))

/--
The keywords of a call have to be texts, and none of them may be the name of a value that the call
has been given already.
-/
def checkKeywords (function : String) (taken : List String) (overrides : Entries) :
    Except SettingsFault Unit :=
  if !overrides.all fun entry => entry.1.isText then .error (.kind .keyword)
  else
    match List.find? (fun entry => taken.contains entry.1.display) overrides with
    | some entry => .error (.kind (.reserved function entry.1.display))
    | none => .ok ()

/-- The name under which the settings themselves are given to the call that replaces them. -/
def ownKeyword : String := "self"

/-- Settings with the overrides of a call that are not null. -/
def replace (settings : Settings) (overrides : Entries) : Except SettingsFault Settings := do
  checkKeywords "InterpreterConfig.replace" [ownKeyword] overrides
  Draft.settleWith settings.get (overrides.filter fun entry => !entry.2.isNull)

/-- The settings that variables describe; a variable that is null is not set. -/
def ofVariables (lookup : String → Value) : Except SettingsFault Settings :=
  let given := Field.all.map fun field => (Scalar.text field.name, lookup field.variableName)
  ofEntries (given.filter fun entry => !entry.2.isNull)

/-- The settings that the environment describes. -/
def ofEnvironment (environment : String → Option String) : Except SettingsFault Settings :=
  ofVariables fun name => (environment name).elim .null .text

/-- Settings with the overrides of a caller.  Without any the settings stay as they are. -/
def override (settings : Settings) (overrides : Entries) : Except SettingsFault Settings := do
  checkKeywords "BrainfuckInterpreter.__init__" ["self", "config"] overrides
  if overrides.isEmpty then .ok settings else settings.replace overrides

end Settings
end TapeMachine

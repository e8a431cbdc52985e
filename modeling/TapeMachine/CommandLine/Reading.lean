import TapeMachine.CommandLine.Word

/-!
# Reading a command line

The words of a command line are read from left to right.  A switch takes its argument from the
same word or from the plain word after it; the first plain words make the operand; everything
else is left over.
-/

namespace TapeMachine
namespace CommandLine

/-- What has been read of a command line. -/
structure Reading where
  /-- The switches that were given, the latest first, with their values. -/
  given : List (Key × Value) := []
  /-- The words of the operand, once it has been read. -/
  operand : Option (List String) := none
  /-- The words that are left over. -/
  extras : List String := []
  deriving Repr

/-- Why reading a command line stops early. -/
inductive Interruption
  /-- The usage is asked for. -/
  | help
  /-- The command line of a command is refused. -/
  | refused (command : String) (fault : UsageFault)
  deriving DecidableEq, Repr

namespace Interruption

/-- The line that reports a refusal. -/
def message : Interruption → String
  | help => ""
  | refused command fault => command ++ ": error: " ++ fault.message

end Interruption

namespace Reading

/-- The value of a switch; null if it was not given. -/
def value (reading : Reading) (key : Key) : Value :=
  ((reading.given.find? fun entry => entry.1 == key).map (·.2)).getD .null

/-- Whether a switch was given. -/
def has (reading : Reading) (key : Key) : Bool :=
  reading.given.any fun entry => entry.1 == key

end Reading

namespace Switch

/--
The value that an argument gives to a switch.  A separator attached to a switch stands for no
arguments, whatever the switch takes.
-/
def value (switch : Switch) (argument : String) : Except UsageFault Value :=
  if argument = separatorText then .ok (.list [])
  else
    match switch.argument with
    | .absent => .ok (.bool true)
    | .text => .ok (.text argument)
    | .integer =>
      match Text.readInteger argument with
      | .ok number => .ok (.int number)
      | .error _ => .error (.noInteger switch argument)
    | .choice names =>
      if names.contains argument then .ok (.text argument)
      else .error (.noChoice switch.label argument names)

end Switch

/-- The switches in one word: some that take no argument, and a last one. -/
structure Bundle where
  /-- The switches before the last one. -/
  flags : List Switch
  /-- The last switch. -/
  last : Switch
  /-- The argument that is attached to the last switch. -/
  attached : Option String

namespace Bundle

/-- The argument of the last switch in a word, and how many of the words after it make it up. -/
def argument (bundle : Bundle) (rest : List Word) : Except UsageFault (String × Nat) :=
  match bundle.attached with
  | some text => .ok (text, 0)
  | none =>
    if bundle.last.argument = .absent then .ok ("", 0)
    else
      match rest with
      | ⟨text, .plain⟩ :: _ => .ok (text, 1)
      | _ => .error (.noArgument bundle.last)

end Bundle

/-- How many separators stand in front of some words; after a separator there is no other. -/
def separatorCount : List Word → Nat
  | ⟨_, .separator⟩ :: _ => 1
  | _ => 0

namespace Operand

/--
The operand at the front of some words, and how many of the words make it up.  A separator
before or behind the operand goes with it.
-/
def front? (operand : Operand) (words : List Word) : Option (List String × Nat) :=
  let leading := separatorCount words
  match operand, words.drop leading with
  | .command _ _, ⟨_, .plain⟩ :: _ => some (words.map (·.text), words.length)
  | .command _ _, _ => none
  | _, ⟨text, .plain⟩ :: rest => some ([text], leading + 1 + separatorCount rest)
  | .optional, _ => some ([], leading)
  | .required _, _ => none

end Operand

namespace Grammar

/--
Takes apart a switch and the characters that are attached to it.  If the switch takes no
argument and has one dash, the characters are further switches of that form.
-/
def unbundle (grammar : Grammar) (switch : Switch) (short : Bool) :
    List Char → Except UsageFault Bundle
  | [] =>
    if switch.argument = .absent then .error (.unusedArgument switch "")
    else .ok ⟨[], switch, some ""⟩
  | letter :: rest =>
    if switch.argument ≠ .absent then .ok ⟨[], switch, some (String.ofList (letter :: rest))⟩
    else
      let following := if short then grammar.switch? (String.ofList ['-', letter]) else none
      match following, rest with
      | none, _ => .error (.unusedArgument switch (String.ofList (letter :: rest)))
      | some next, [] => .ok ⟨[switch], next, none⟩
      | some next, _ :: _ => do
        let bundle ← grammar.unbundle next true rest
        .ok { bundle with flags := switch :: bundle.flags }

/-- The switches in a word. -/
def bundle (grammar : Grammar) (switch : Switch) (spelling : String) :
    Option String → Except UsageFault Bundle
  | none => .ok ⟨[], switch, none⟩
  | some attached =>
    grammar.unbundle switch (spelling.toList[1]? != some '-') attached.toList

/-- The switch that excludes another one and was given before it. -/
def conflict? (grammar : Grammar) (reading : Reading) (key : Key) : Option Switch :=
  if grammar.exclusive.contains key then
    grammar.switches.find? fun other =>
      grammar.exclusive.contains other.key && other.key != key && reading.has other.key
  else none

/-- Takes note of a switch and its argument. -/
def take (grammar : Grammar) (reading : Reading) (switch : Switch) (argument : String) :
    Except Interruption Reading :=
  if switch.key = .help then .error .help
  else
    match switch.value argument with
    | .error fault => .error (.refused grammar.command fault)
    | .ok value =>
      match grammar.conflict? reading switch.key with
      | some other => .error (.refused grammar.command (.conflict switch other))
      | none => .ok { reading with given := (switch.key, value) :: reading.given }

/-- Takes note of switches without arguments. -/
def takeFlags (grammar : Grammar) (reading : Reading) (flags : List Switch) :
    Except Interruption Reading :=
  flags.foldlM (fun sofar switch => grammar.take sofar switch "") reading

/-- Reads words from left to right. -/
def consume (grammar : Grammar) (words : List Word) (reading : Reading) :
    Except Interruption Reading :=
  match words with
  | [] => .ok reading
  | word :: rest =>
    let leftOver := { reading with extras := reading.extras ++ [word.text] }
    match word.role with
    | .unknown => grammar.consume rest leftOver
    | .switch switch spelling attached =>
      match grammar.bundle switch spelling attached with
      | .error fault => .error (.refused grammar.command fault)
      | .ok bundle =>
        match bundle.argument rest with
        | .error fault => .error (.refused grammar.command fault)
        | .ok (text, used) => do
          let flagged ← grammar.takeFlags reading bundle.flags
          let taken ← grammar.take flagged bundle.last text
          grammar.consume (rest.drop used) taken
    | _ =>
      if reading.operand.isSome then grammar.consume rest leftOver
      else
        match grammar.operand.front? words with
        | none => grammar.consume rest leftOver
        | some (texts, used) =>
          grammar.consume (rest.drop (used - 1)) { reading with operand := some texts }
  termination_by words.length
  decreasing_by all_goals simp_all; try omega

/-- Refuses a command line that lacks its operand. -/
def checkOperand (grammar : Grammar) (reading : Reading) : Except Interruption Reading :=
  match grammar.operand, reading.operand with
  | .required name, none => .error (.refused grammar.command (.noOperand name))
  | .command name _, none => .error (.refused grammar.command (.noOperand name))
  | _, _ => .ok reading

/-- Reads a command line. -/
def read (grammar : Grammar) (arguments : List String) : Except Interruption Reading :=
  match grammar.words arguments with
  | .error fault => .error (.refused grammar.command fault)
  | .ok words => do
    let reading ← grammar.consume words {}
    grammar.checkOperand reading

end Grammar
end CommandLine
end TapeMachine

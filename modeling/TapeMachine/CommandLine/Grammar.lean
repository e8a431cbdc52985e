import TapeMachine.Settings.Field
import TapeMachine.Text.Integer

/-!
# The grammar of a command line

A command takes switches, which are spelled with one or two dashes and may have an argument,
and at most one operand.  The operand of the outermost command is the name of another command
together with everything that follows it.
-/

namespace TapeMachine
namespace CommandLine

/-- What a switch is about. -/
inductive Key
  /-- The usage is asked for. -/
  | help
  /-- The journal is shown. -/
  | verbose
  /-- The program is given on the command line. -/
  | code
  /-- The settings are read from a file. -/
  | config
  /-- A field of the settings is overridden. -/
  | setting (field : Field)
  /-- The input is given on the command line. -/
  | input
  /-- The input is read from the standard input. -/
  | stdin
  /-- The number of cells that are shown. -/
  | window
  deriving DecidableEq, Repr

/-- What a switch takes as its argument. -/
inductive Argument
  /-- Nothing. -/
  | absent
  /-- Any text. -/
  | text
  /-- An integer. -/
  | integer
  /-- One of some names. -/
  | choice (names : List String)
  deriving DecidableEq, Repr

/-- A switch of a command. -/
structure Switch where
  /-- The spellings of the switch. -/
  spellings : List String
  /-- What the switch is about. -/
  key : Key
  /-- What the switch takes as its argument. -/
  argument : Argument
  deriving DecidableEq, Repr

namespace Switch

/-- A switch as it is called in messages. -/
def label (switch : Switch) : String :=
  "/".intercalate switch.spellings

end Switch

/-- What a command takes besides its switches. -/
inductive Operand
  /-- A word that may be left out. -/
  | optional
  /-- A word that has to be given. -/
  | required (name : String)
  /-- The name of another command and all that follows it. -/
  | command (name : String) (commands : List String)
  deriving DecidableEq, Repr

/-- The grammar of a command. -/
structure Grammar where
  /-- The name of the command. -/
  command : String
  /-- The switches of the command. -/
  switches : List Switch
  /-- What the command takes besides its switches. -/
  operand : Operand
  /-- The switches of which at most one may be given. -/
  exclusive : List Key := []
  deriving DecidableEq, Repr

namespace Grammar

/-- The spellings of all switches in order. -/
def spelled (grammar : Grammar) : List (String × Switch) :=
  grammar.switches.flatMap fun switch =>
    switch.spellings.map fun spelling => (spelling, switch)

/-- The switch with a spelling. -/
def switch? (grammar : Grammar) (spelling : String) : Option Switch :=
  (grammar.spelled.find? fun entry => entry.1 == spelling).map (·.2)

end Grammar

/-- Why a command line is refused. -/
inductive UsageFault
  /-- A word abbreviates several spellings. -/
  | ambiguous (word : String) (spellings : List String)
  /-- A switch lacks its argument. -/
  | noArgument (switch : Switch)
  /-- A switch that takes no argument has one attached. -/
  | unusedArgument (switch : Switch) (argument : String)
  /-- The argument of a switch is no integer. -/
  | noInteger (switch : Switch) (argument : String)
  /-- A word is none of the names that it may be. -/
  | noChoice (label word : String) (names : List String)
  /-- Two switches exclude each other. -/
  | conflict (switch other : Switch)
  /-- The operand is missing. -/
  | noOperand (name : String)
  /-- Some words have no meaning. -/
  | unrecognized (words : List String)
  deriving DecidableEq, Repr

namespace UsageFault

/-- The wording of a fault of an argument. -/
def about (label message : String) : String :=
  "argument " ++ label ++ ": " ++ message

/-- The wording of a fault. -/
def message : UsageFault → String
  | ambiguous word spellings =>
    "ambiguous option: " ++ word ++ " could match " ++ ", ".intercalate spellings
  | noArgument switch => about switch.label "expected one argument"
  | unusedArgument switch argument =>
    about switch.label ("ignored explicit argument " ++ Text.quote argument)
  | noInteger switch argument =>
    about switch.label ("invalid int value: " ++ Text.quote argument)
  | noChoice label word names =>
    about label ("invalid choice: " ++ Text.quote word ++ " (choose from " ++
      ", ".intercalate (names.map Text.quote) ++ ")")
  | conflict switch other =>
    about switch.label ("not allowed with argument " ++ other.label)
  | noOperand name => "the following arguments are required: " ++ name
  | unrecognized words => "unrecognized arguments: " ++ " ".intercalate words

end UsageFault
end CommandLine
end TapeMachine

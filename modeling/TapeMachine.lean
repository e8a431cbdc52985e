import TapeMachine.Command
import TapeMachine.CommandLine.Basic
import TapeMachine.CommandLine.Grammar
import TapeMachine.CommandLine.Invocation
import TapeMachine.CommandLine.Reading
import TapeMachine.CommandLine.Word
import TapeMachine.CommandLine.World
import TapeMachine.Decimal.Binary64
import TapeMachine.Decimal.Notation
import TapeMachine.Decimal.Shortest
import TapeMachine.Diagnostic
import TapeMachine.Json
import TapeMachine.Location
import TapeMachine.Loops
import TapeMachine.Machine.Basic
import TapeMachine.Machine.Journal
import TapeMachine.Machine.Outcome
import TapeMachine.Main
import TapeMachine.Policy
import TapeMachine.Settings.Basic
import TapeMachine.Settings.Document
import TapeMachine.Settings.Draft
import TapeMachine.Settings.Field
import TapeMachine.Settings.Journal
import TapeMachine.Settings.Run
import TapeMachine.Sink
import TapeMachine.Source
import TapeMachine.Suite.Basic
import TapeMachine.Suite.Case
import TapeMachine.Tape.Basic
import TapeMachine.Tape.Cells
import TapeMachine.Tape.Storage
import TapeMachine.Text.Blank
import TapeMachine.Text.Digit
import TapeMachine.Text.Integer
import TapeMachine.Text.Latin
import TapeMachine.Text.Letter
import TapeMachine.Text.Line
import TapeMachine.Text.Pad
import TapeMachine.Text.Printable
import TapeMachine.Text.Quoted
import TapeMachine.Text.Utf8
import TapeMachine.Trace.Basic
import TapeMachine.Trace.Description
import TapeMachine.Trace.Prompt
import TapeMachine.Trace.View
import TapeMachine.Value.Basic
import TapeMachine.Value.Kind
import TapeMachine.Value.Number
import TapeMachine.Yaml.Basic
import TapeMachine.Yaml.Reader
import TapeMachine.Yaml.Scalar
import TapeMachine.Yaml.Token
import TapeMachine.Proofs.Block.Echo
import TapeMachine.Proofs.Block.Refinement
import TapeMachine.Proofs.Block.Semantics
import TapeMachine.Proofs.Block.Simulation
import TapeMachine.Proofs.Block.Syntax
import TapeMachine.Proofs.Brackets.Balance
import TapeMachine.Proofs.Brackets.Lone
import TapeMachine.Proofs.Brackets.Matching
import TapeMachine.Proofs.CommandLine.Endings
import TapeMachine.Proofs.CommandLine.Limits
import TapeMachine.Proofs.CommandLine.Reporting
import TapeMachine.Proofs.Comments.Matching
import TapeMachine.Proofs.Comments.Runs
import TapeMachine.Proofs.Diagnostic.Caret
import TapeMachine.Proofs.Diagnostic.Excerpt
import TapeMachine.Proofs.Diagnostic.Places
import TapeMachine.Proofs.Input.Causality
import TapeMachine.Proofs.Input.Chunks
import TapeMachine.Proofs.Input.Polling
import TapeMachine.Proofs.Input.Reading
import TapeMachine.Proofs.Machine.Accesses
import TapeMachine.Proofs.Machine.Accounting
import TapeMachine.Proofs.Machine.Addressing
import TapeMachine.Proofs.Machine.Budget
import TapeMachine.Proofs.Machine.Calls
import TapeMachine.Proofs.Machine.Dispatch
import TapeMachine.Proofs.Machine.Driving
import TapeMachine.Proofs.Machine.Edges
import TapeMachine.Proofs.Machine.Growth
import TapeMachine.Proofs.Machine.Guarded
import TapeMachine.Proofs.Machine.History
import TapeMachine.Proofs.Machine.Invariant
import TapeMachine.Proofs.Machine.Lockstep
import TapeMachine.Proofs.Machine.Modulus
import TapeMachine.Proofs.Machine.Outcomes
import TapeMachine.Proofs.Machine.Pending
import TapeMachine.Proofs.Machine.Recording
import TapeMachine.Proofs.Machine.Stepping
import TapeMachine.Proofs.Output.Writing
import TapeMachine.Proofs.Settings.Accepting
import TapeMachine.Proofs.Settings.Encoding
import TapeMachine.Proofs.Settings.Faults
import TapeMachine.Proofs.Settings.Overriding
import TapeMachine.Proofs.Settings.Settling
import TapeMachine.Proofs.Settings.StepLimits
import TapeMachine.Proofs.Suite.Shapes
import TapeMachine.Proofs.Tape.Extent
import TapeMachine.Proofs.Tape.Folding
import TapeMachine.Proofs.Tape.Growth
import TapeMachine.Proofs.Tape.Storage
import TapeMachine.Proofs.Tape.Store
import TapeMachine.Proofs.Tape.Windows
import TapeMachine.Proofs.Text.Rows
import TapeMachine.Proofs.Text.Spelling
import TapeMachine.Proofs.Trace.Display
import TapeMachine.Proofs.Trace.Faithful
import TapeMachine.Proofs.Trace.Telling
import TapeMachine.Proofs.Value.Maps

import Retarget.Text.Basic
import Retarget.Text.Blank
import Retarget.Text.UppercaseTable
import Retarget.Text.Uppercase
import Retarget.Text.PrintableTable
import Retarget.Text.Quoted
import Retarget.Text.Utf8
import Retarget.Text.Control
import Retarget.Table
import Retarget.Diagnostic
import Retarget.Register
import Retarget.Operation
import Retarget.IE32.Line
import Retarget.IE32.Operand
import Retarget.IE32.Instruction
import Retarget.IE32.Directive
import Retarget.IE64.Instruction
import Retarget.Lowering
import Retarget.Files.Path
import Retarget.Files.Access
import Retarget.Files.Tree
import Retarget.Failure
import Retarget.Conversion
import Retarget.Session
import Retarget.Session.Step
import Retarget.Command.Arguments
import Retarget.Command.Run
import Retarget.Main
import Retarget.Proofs.Fallible
import Retarget.Proofs.Text.Cutting
import Retarget.Proofs.Text.Lines
import Retarget.Proofs.Text.Trimming
import Retarget.Proofs.Text.Excerpt
import Retarget.Proofs.Text.Casing
import Retarget.Proofs.Text.Decoding
import Retarget.Proofs.Registers
import Retarget.Proofs.IE32.Reading
import Retarget.Proofs.IE32.Faults
import Retarget.Proofs.IE32.Writing
import Retarget.Proofs.IE32.Quotes
import Retarget.Proofs.IE32.Parsing
import Retarget.Proofs.IE32.Spans
import Retarget.Proofs.IE32.Directives
import Retarget.Proofs.IE64.Rendering
import Retarget.Proofs.IE64.Reading
import Retarget.Proofs.Machine
import Retarget.Proofs.IE32.Meaning
import Retarget.Proofs.Lowering
import Retarget.Proofs.Acceptance
import Retarget.Proofs.LoweringTable
import Retarget.Proofs.Simulation
import Retarget.Proofs.Conversion
import Retarget.Proofs.Comments
import Retarget.Proofs.Annotations
import Retarget.Proofs.Accounting
import Retarget.Proofs.Batches
import Retarget.Proofs.Sizes
import Retarget.Proofs.Command.Effect
import Retarget.Proofs.Files.Tree
import Retarget.Proofs.Files.Path
import Retarget.Proofs.Command.Checking
import Retarget.Proofs.IE32.Commas
import Retarget.Proofs.IE32.Groups
import Retarget.Proofs.Transfers
import Retarget.Proofs.OperandCounts
import Retarget.Proofs.Literals
import Retarget.Proofs.Statistics
import Retarget.Proofs.Reparsing
import Retarget.Proofs.Expansion
import Retarget.Proofs.DirectiveLines
import Retarget.Proofs.Brackets
import Retarget.Proofs.RegisterNames
import Retarget.Proofs.RegisterTables
import Retarget.Proofs.LineCounts
import Retarget.Proofs.FileSteps
import Retarget.Proofs.Files.Output
import Retarget.Proofs.Reports

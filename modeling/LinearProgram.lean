import LinearProgram.Text.Ranges
import LinearProgram.Text.Blank
import LinearProgram.Text.CharacterName
import LinearProgram.Text.Digit
import LinearProgram.Text.Identifier
import LinearProgram.Text.LineBreak
import LinearProgram.Text.Name
import LinearProgram.Text.Quoted
import LinearProgram.Text.Width
import LinearProgram.Text.LowerCase
import LinearProgram.Number.Rounding
import LinearProgram.Number.Basic
import LinearProgram.Number.Decimal
import LinearProgram.Number.Notation
import LinearProgram.Model
import LinearProgram.Journal
import LinearProgram.Notation.Fault
import LinearProgram.Notation.Sum
import LinearProgram.Notation.Operator
import LinearProgram.Notation.Statement
import LinearProgram.Notation.Policy
import LinearProgram.Notation.Document
import LinearProgram.StandardForm.Program
import LinearProgram.StandardForm.Assembler
import LinearProgram.StandardForm.Assembly
import LinearProgram.Solver.Problem
import LinearProgram.Solver.Simplex
import LinearProgram.Solver.Solution
import LinearProgram.Source.Utf8
import LinearProgram.Source.File
import LinearProgram.Source.SettingsFile
import LinearProgram.Source.Settings
import LinearProgram.Display.Screen
import LinearProgram.Display.Emoji
import LinearProgram.Display.Style
import LinearProgram.Display.Argument.Bracket
import LinearProgram.Display.Argument.Call
import LinearProgram.Display.Argument.Element
import LinearProgram.Display.Argument.Escape
import LinearProgram.Display.Argument.Expression
import LinearProgram.Display.Argument.Fault
import LinearProgram.Display.Argument.Function
import LinearProgram.Display.Argument.Insertion
import LinearProgram.Display.Argument.Operation
import LinearProgram.Display.Argument.Reader
import LinearProgram.Display.Argument.Token
import LinearProgram.Display.Argument.Value
import LinearProgram.Display.Markup
import LinearProgram.Display.Table
import LinearProgram.Display.Console
import LinearProgram.Display.Report
import LinearProgram.CommandLine.Options
import LinearProgram.CommandLine.Run
import LinearProgram.Data.Datum
import LinearProgram.Data.Validation
import LinearProgram.Main
import LinearProgram.Proofs.Sequence
import LinearProgram.Proofs.Text.Trim
import LinearProgram.Proofs.Text.Piece
import LinearProgram.Proofs.Text.Run
import LinearProgram.Proofs.Text.Mention
import LinearProgram.Proofs.Number.Literal
import LinearProgram.Proofs.Number.Rounding
import LinearProgram.Proofs.Number.Nearest
import LinearProgram.Proofs.Number.Digits
import LinearProgram.Proofs.Number.Decimal
import LinearProgram.Proofs.Number.SixDigits
import LinearProgram.Proofs.Notation.Reading
import LinearProgram.Proofs.Notation.FirstFault
import LinearProgram.Proofs.Notation.Order
import LinearProgram.Proofs.Notation.Joining
import LinearProgram.Proofs.Notation.Sum
import LinearProgram.Proofs.Notation.SumGrammar
import LinearProgram.Proofs.Notation.Form
import LinearProgram.Proofs.Notation.Spacing
import LinearProgram.Proofs.Notation.Tight
import LinearProgram.Proofs.Notation.Grammar
import LinearProgram.Proofs.Notation.Strictness
import LinearProgram.Proofs.Notation.Mention
import LinearProgram.Proofs.Notation.Kind
import LinearProgram.Proofs.Notation.Respacing
import LinearProgram.Proofs.Notation.LineBreak
import LinearProgram.Proofs.Notation.Names
import LinearProgram.Proofs.Notation.Writing
import LinearProgram.Proofs.Notation.RoundTrip
import LinearProgram.Proofs.Notation.Displayed
import LinearProgram.Proofs.StandardForm.Calls
import LinearProgram.Proofs.StandardForm.Layout
import LinearProgram.Proofs.StandardForm.Feeding
import LinearProgram.Proofs.StandardForm.Exact
import LinearProgram.Proofs.StandardForm.Slack
import LinearProgram.Proofs.StandardForm.Meaning
import LinearProgram.Proofs.StandardForm.Cells
import LinearProgram.Proofs.StandardForm.Session
import LinearProgram.Proofs.StandardForm.Filling
import LinearProgram.Proofs.StandardForm.Columns
import LinearProgram.Proofs.StandardForm.Outcome
import LinearProgram.Proofs.StandardForm.Document
import LinearProgram.Proofs.Solver.Point
import LinearProgram.Proofs.Solver.Answer
import LinearProgram.Proofs.Source.Utf8
import LinearProgram.Proofs.Source.File
import LinearProgram.Proofs.Data.Validation
import LinearProgram.Proofs.Display.Screen
import LinearProgram.Proofs.Display.Emoji
import LinearProgram.Proofs.Display.Escape
import LinearProgram.Proofs.Display.Piece
import LinearProgram.Proofs.Display.Rendering
import LinearProgram.Proofs.Display.Plain
import LinearProgram.Proofs.CommandLine.Message
import LinearProgram.Proofs.CommandLine.Options
import LinearProgram.Proofs.CommandLine.Outcome
import LinearProgram.Proofs.CommandLine.Items
import LinearProgram.Proofs.CommandLine.Refusal

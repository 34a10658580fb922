import FieldGuard.Condition.Basic
import FieldGuard.Condition.Context
import FieldGuard.Condition.Evaluation
import FieldGuard.Condition.Fault
import FieldGuard.Condition.Lexeme
import FieldGuard.Condition.Listing
import FieldGuard.Condition.Name
import FieldGuard.Condition.Operand
import FieldGuard.Condition.Operation
import FieldGuard.Condition.Postfix
import FieldGuard.Condition.Rules
import FieldGuard.Condition.Symbol
import FieldGuard.Condition.Token
import FieldGuard.Condition.Tree
import FieldGuard.Console.Answer
import FieldGuard.Console.Arguments
import FieldGuard.Console.Completion
import FieldGuard.Console.Directive
import FieldGuard.Console.LogFilter
import FieldGuard.Console.Reply
import FieldGuard.Console.Report
import FieldGuard.Console.Run
import FieldGuard.Console.Task
import FieldGuard.Decimal.Binary64
import FieldGuard.Decimal.Layout
import FieldGuard.Decimal.Numeral
import FieldGuard.Decimal.Shortest
import FieldGuard.Dictionary
import FieldGuard.Files.Path
import FieldGuard.Files.Program
import FieldGuard.Files.Store
import FieldGuard.Json.Cursor
import FieldGuard.Json.Reader
import FieldGuard.Json.Relaxed
import FieldGuard.Json.Scalar
import FieldGuard.Json.Value
import FieldGuard.Logged
import FieldGuard.Main
import FieldGuard.Proofs.Evaluation.Answers
import FieldGuard.Proofs.Evaluation.Applications
import FieldGuard.Proofs.Evaluation.Demand
import FieldGuard.Proofs.Evaluation.Dependence
import FieldGuard.Proofs.Evaluation.Kinds
import FieldGuard.Proofs.Evaluation.Meaning
import FieldGuard.Proofs.Evaluation.Refinement
import FieldGuard.Proofs.Evaluation.Remarks
import FieldGuard.Proofs.Grammar.Derivation
import FieldGuard.Proofs.Grammar.Reading
import FieldGuard.Proofs.Grammar.Sentence
import FieldGuard.Proofs.Grammar.Unambiguous
import FieldGuard.Proofs.Grammar.Waiting
import FieldGuard.Proofs.Loading.Enums
import FieldGuard.Proofs.Loading.Instances
import FieldGuard.Proofs.Loading.Members
import FieldGuard.Proofs.Reporting.Occurrences
import FieldGuard.Proofs.Selection.Agreement
import FieldGuard.Proofs.Selection.Order
import FieldGuard.Proofs.Selection.Restriction
import FieldGuard.Proofs.Source.Bare
import FieldGuard.Proofs.Source.Expression
import FieldGuard.Proofs.Source.Front
import FieldGuard.Proofs.Source.Lookahead
import FieldGuard.Proofs.Source.Numeral
import FieldGuard.Proofs.Source.Passage
import FieldGuard.Proofs.Source.Quoted
import FieldGuard.Proofs.Source.Signs
import FieldGuard.Proofs.Source.Spacing
import FieldGuard.Proofs.Source.Words
import FieldGuard.Reporter
import FieldGuard.Session
import FieldGuard.Settings.Basic
import FieldGuard.Settings.Change
import FieldGuard.Settings.File
import FieldGuard.Settings.Reading
import FieldGuard.Subject.Basic
import FieldGuard.Subject.Document
import FieldGuard.Subject.File
import FieldGuard.Subject.Reading
import FieldGuard.Subject.Selection
import FieldGuard.Text.Alphanumeric
import FieldGuard.Text.Classes
import FieldGuard.Text.CaseTable
import FieldGuard.Text.Letter
import FieldGuard.Text.Lowercase
import FieldGuard.Text.Pieces
import FieldGuard.Text.Quoted
import FieldGuard.Text.Suggestion
import FieldGuard.Text.Visible
import FieldGuard.Proofs.Reporting.Footprint
import FieldGuard.Proofs.Settings.Validity
import FieldGuard.Proofs.Settings.Changes
import FieldGuard.Proofs.Settings.Requests
import FieldGuard.Proofs.Loading.Fitting
import FieldGuard.Proofs.Loading.WellFormed
import FieldGuard.Proofs.Loading.Subjects
import FieldGuard.Proofs.Loading.References
import FieldGuard.Proofs.Evaluation.Extension
import FieldGuard.Proofs.Grammar.Viable
import FieldGuard.Proofs.Grammar.Mistake
import FieldGuard.Proofs.Console.Outcomes
import FieldGuard.Proofs.Json.Number
import FieldGuard.Proofs.Json.Text
import FieldGuard.Proofs.Console.Replies
import FieldGuard.Proofs.Console.Quiet
import FieldGuard.Proofs.Source.Names
import FieldGuard.Proofs.Source.Tiles
import FieldGuard.Proofs.Evaluation.Inequality
import FieldGuard.Proofs.Source.Stops
import FieldGuard.Proofs.Decimal.Distance
import FieldGuard.Proofs.Evaluation.Exchange
import FieldGuard.Proofs.Evaluation.Fallback
import FieldGuard.Proofs.Selection.Getters
import FieldGuard.Proofs.Selection.Equality
import FieldGuard.Proofs.Loading.Equality
import FieldGuard.Proofs.Text.Bytes
import FieldGuard.Proofs.Text.EditDistance
import FieldGuard.Proofs.Text.Suggestion
import FieldGuard.Proofs.Source.Longest
import FieldGuard.Proofs.Source.Unquoted
import FieldGuard.Proofs.Decimal.Unpacked
import FieldGuard.Proofs.Decimal.Whole
import FieldGuard.Proofs.Decimal.Limit
import FieldGuard.Proofs.Loading.Integers

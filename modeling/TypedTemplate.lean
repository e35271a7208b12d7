import TypedTemplate.CommandLine.Arguments
import TypedTemplate.CommandLine.Files
import TypedTemplate.CommandLine.Pages
import TypedTemplate.CommandLine.Run
import TypedTemplate.ErrorCode
import TypedTemplate.Input.Bank
import TypedTemplate.Input.Value
import TypedTemplate.Kind
import TypedTemplate.Main
import TypedTemplate.Messages.Catalog
import TypedTemplate.Messages.Default
import TypedTemplate.Messages.Localize
import TypedTemplate.Node.Basic
import TypedTemplate.Node.Parse
import TypedTemplate.Node.Settings
import TypedTemplate.Node.ValidationError
import TypedTemplate.Number.Binary64
import TypedTemplate.Number.Decimal
import TypedTemplate.Number.Format
import TypedTemplate.Number.Numeral
import TypedTemplate.Number.Read
import TypedTemplate.Number.Separators
import TypedTemplate.Proofs.CommandLine.Assignment
import TypedTemplate.Proofs.Input.Bank
import TypedTemplate.Proofs.Input.Changes
import TypedTemplate.Proofs.Messages.Overlay
import TypedTemplate.Proofs.Node.Addressing
import TypedTemplate.Proofs.Node.Agreement
import TypedTemplate.Proofs.Node.Assignment
import TypedTemplate.Proofs.Node.Binding
import TypedTemplate.Proofs.Node.Carryover
import TypedTemplate.Proofs.Node.Edition
import TypedTemplate.Proofs.Node.Feedback
import TypedTemplate.Proofs.Node.History
import TypedTemplate.Proofs.Node.Listing
import TypedTemplate.Proofs.Node.Once
import TypedTemplate.Proofs.Node.Reassignment
import TypedTemplate.Proofs.Node.Rebuild
import TypedTemplate.Proofs.Node.Rejection
import TypedTemplate.Proofs.Node.Rendering
import TypedTemplate.Proofs.Node.Turns
import TypedTemplate.Proofs.Node.Violation
import TypedTemplate.Proofs.Number.CutError
import TypedTemplate.Proofs.Number.Cutting
import TypedTemplate.Proofs.Number.Grouping
import TypedTemplate.Proofs.Number.Integers
import TypedTemplate.Proofs.Number.Monotonicity
import TypedTemplate.Proofs.Number.NumeralForm
import TypedTemplate.Proofs.Number.Order
import TypedTemplate.Proofs.Number.Printing
import TypedTemplate.Proofs.Number.ReadBack
import TypedTemplate.Proofs.Number.Reading
import TypedTemplate.Proofs.Number.Rounding
import TypedTemplate.Proofs.Number.SignificantDigits
import TypedTemplate.Proofs.Number.SignificantPart
import TypedTemplate.Proofs.Number.Whole
import TypedTemplate.Proofs.Outcome
import TypedTemplate.Proofs.Report.Place
import TypedTemplate.Proofs.Report.Pointing
import TypedTemplate.Proofs.Template.BracePairs
import TypedTemplate.Proofs.Template.Declaration
import TypedTemplate.Proofs.Template.GeneratedName
import TypedTemplate.Proofs.Template.IntegerMappings
import TypedTemplate.Proofs.Template.NumberedTexts
import TypedTemplate.Proofs.Template.NumericMappings
import TypedTemplate.Proofs.Template.PlaceholderForm
import TypedTemplate.Proofs.Template.PresentationForm
import TypedTemplate.Proofs.Template.Range
import TypedTemplate.Proofs.Template.Scan
import TypedTemplate.Proofs.Template.Session
import TypedTemplate.Proofs.Template.Styling
import TypedTemplate.Proofs.Template.TextMappings
import TypedTemplate.Proofs.Template.Transcript
import TypedTemplate.Proofs.Template.WellFormed
import TypedTemplate.Proofs.Text.Parts
import TypedTemplate.Proofs.Text.Replacement
import TypedTemplate.Report.Basic
import TypedTemplate.Report.Place
import TypedTemplate.Template.Presentation
import TypedTemplate.Template.PresentationGrammar
import TypedTemplate.Template.Rendering
import TypedTemplate.Template.Scan
import TypedTemplate.Template.Session
import TypedTemplate.Template.Token
import TypedTemplate.Text.Basic
import TypedTemplate.Text.CharacterClass
import TypedTemplate.Text.Columns
import TypedTemplate.Toml.Document
import TypedTemplate.Toml.Scalar
import TypedTemplate.Toml.Value

import Criteria.Arguments
import Criteria.Calendar
import Criteria.Command
import Criteria.Command.Run
import Criteria.Data
import Criteria.Data.Compare
import Criteria.Data.Text
import Criteria.Decimal.Binary64
import Criteria.Decimal.Numeral
import Criteria.Decimal.Shortest
import Criteria.Display
import Criteria.Expression
import Criteria.Fault
import Criteria.Files
import Criteria.Form.Pairs
import Criteria.Form.Percent
import Criteria.Json.Reader
import Criteria.Json.Writer
import Criteria.Machine
import Criteria.Machine.Action
import Criteria.Machine.Edit
import Criteria.Machine.State
import Criteria.Main
import Criteria.Report
import Criteria.Schema
import Criteria.Schema.Combine
import Criteria.Schema.Config
import Criteria.Schema.Draft
import Criteria.Schema.File
import Criteria.Schema.Standard
import Criteria.Suggestion
import Criteria.Suggestion.Item
import Criteria.Suggestion.Session
import Criteria.Terminal.Markup
import Criteria.Terminal.Table
import Criteria.Terminal.Wrap
import Criteria.Text.Alphanumeric
import Criteria.Text.Base64
import Criteria.Text.Blank
import Criteria.Text.Case
import Criteria.Text.CaseTable
import Criteria.Text.Digit
import Criteria.Text.Infix
import Criteria.Text.Lines
import Criteria.Text.Printable
import Criteria.Text.Quoted
import Criteria.Text.Ranges
import Criteria.Text.Utf8
import Criteria.Text.Width
import Criteria.Token
import Criteria.Token.Styled
import Criteria.Validation
import Criteria.Validation.Schema
import Criteria.Wire.Query
import Criteria.Wire.Restore
import Criteria.Wire.Separator
import Criteria.Wire.Store
import Criteria.Wire.Value
import Criteria.Yaml.Cursor
import Criteria.Yaml.Node
import Criteria.Yaml.Property
import Criteria.Yaml.Scalar
import Criteria.Yaml.ScalarText
import Criteria.Yaml.Tag
import Criteria.Yaml.Timestamp
import Criteria.Yaml.Token
import Criteria.Yaml.Value
import Criteria.Proofs.Fault
import Criteria.Proofs.Filter.Linked
import Criteria.Proofs.Json.Numbers
import Criteria.Proofs.Json.RoundTrip
import Criteria.Proofs.Json.Strings
import Criteria.Proofs.Machine.Edits
import Criteria.Proofs.Machine.Moves
import Criteria.Proofs.Machine.Runs
import Criteria.Proofs.Machine.Undo
import Criteria.Proofs.Suggestion.Choices
import Criteria.Proofs.Suggestion.Guided
import Criteria.Proofs.Validation.Expressions
import Criteria.Proofs.Validation.Lists
import Criteria.Proofs.Validation.Schemas
import Criteria.Proofs.Wire.RoundTrip
import Criteria.Proofs.Wire.JsonText
import Criteria.Proofs.Filter.Joined
import Criteria.Proofs.Wire.Entries
import Criteria.Proofs.Form.Pairs
import Criteria.Proofs.Wire.Query
import Criteria.Proofs.Machine.Rows
import Criteria.Proofs.Data.Written
import Criteria.Proofs.Validation.Findings
import Criteria.Proofs.Schema.Breaks
import Criteria.Proofs.Schema.Loaded
import Criteria.Proofs.Json.Values
import Criteria.Proofs.Wire.Answers
import Criteria.Proofs.Suggestion.Search
import Criteria.Proofs.Validation.SelfCheck
import Criteria.Proofs.Schema.Usable
import Criteria.Proofs.Machine.Building
import Criteria.Proofs.Machine.Commits
import Criteria.Proofs.Token.Display
import Criteria.Proofs.Suggestion.Deliveries
import Criteria.Proofs.Wire.FirstOperators
import Criteria.Proofs.Suggestion.Histories
import Criteria.Proofs.Wire.Origins
import Criteria.Proofs.Machine.Loading
import Criteria.Proofs.Wire.Settled
import Criteria.Proofs.Text.Marks
import Criteria.Proofs.Text.Strip
import Criteria.Proofs.Wire.Splitting
import Criteria.Proofs.Wire.StoredLists
import Criteria.Proofs.Validation.Restored
import Criteria.Proofs.Machine.Legality
import Criteria.Proofs.Machine.Redo
import Criteria.Proofs.Machine.AtomicEdits
import Criteria.Proofs.Machine.IndependentEdits
import Criteria.Proofs.Validation.Edited
import Criteria.Proofs.Wire.Conversions
import Criteria.Proofs.Decimal.Numeral
import Criteria.Proofs.Text.Words
import Criteria.Proofs.Wire.JoinedLists
import Criteria.Proofs.Machine.Emptying
import Criteria.Proofs.Validation.Unambiguous
import Criteria.Proofs.Validation.Rules
import Criteria.Proofs.Wire.Restricted
import Criteria.Proofs.Schema.Merging
import Criteria.Proofs.Schema.Contents
import Criteria.Proofs.Token.Numbering
import Criteria.Proofs.Validation.Repeats
import Criteria.Proofs.Text.Growing
import Criteria.Proofs.Suggestion.Offers
import Criteria.Proofs.Suggestion.Narrowing
import Criteria.Proofs.Suggestion.SingleUse

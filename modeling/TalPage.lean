import TalPage.Command.Line
import TalPage.Command.Run
import TalPage.Config.Basic
import TalPage.Config.Check
import TalPage.Config.Load
import TalPage.Config.Override
import TalPage.File.Access
import TalPage.File.Path
import TalPage.File.Store
import TalPage.Json.Basic
import TalPage.Json.Reader
import TalPage.Json.Script
import TalPage.Json.Stable
import TalPage.Main
import TalPage.Markup.Cursor
import TalPage.Markup.Element
import TalPage.Markup.Fault
import TalPage.Markup.Reader
import TalPage.Markup.Symbol
import TalPage.Numeric.Binary
import TalPage.Numeric.Numeral
import TalPage.Options.Grammar
import TalPage.Options.Reader
import TalPage.Page.Body
import TalPage.Page.Escape
import TalPage.Page.Template
import TalPage.Setting.Check
import TalPage.Setting.Issue
import TalPage.Setting.Literal
import TalPage.Setting.Moment
import TalPage.Setting.Scalar
import TalPage.Setting.Shape
import TalPage.Setting.WholeNumber
import TalPage.Text.Base64
import TalPage.Text.Blank
import TalPage.Text.Cased
import TalPage.Text.CodePoint
import TalPage.Text.Digit
import TalPage.Text.Encoding
import TalPage.Text.Lower
import TalPage.Text.Newline
import TalPage.Text.Pattern
import TalPage.Text.Printable
import TalPage.Text.Quoted
import TalPage.Yaml.Fault
import TalPage.Yaml.Graph
import TalPage.Yaml.Kind
import TalPage.Yaml.Lexer
import TalPage.Yaml.Load
import TalPage.Yaml.Merge
import TalPage.Yaml.Numeral
import TalPage.Yaml.Part
import TalPage.Yaml.Place
import TalPage.Yaml.Property
import TalPage.Yaml.Reader
import TalPage.Yaml.Scalar
import TalPage.Yaml.Timestamp
import TalPage.Yaml.Token
import TalPage.Proofs.Markup.Head
import TalPage.Proofs.Markup.Rendering
import TalPage.Proofs.Markup.Step
import TalPage.Proofs.Markup.Descent
import TalPage.Proofs.Markup.Document
import TalPage.Proofs.Markup.Written
import TalPage.Proofs.Markup.Lossless
import TalPage.Proofs.Markup.Repair
import TalPage.Proofs.Markup.Cause
import TalPage.Proofs.Markup.Limit
import TalPage.Proofs.Markup.Mark
import TalPage.Proofs.Markup.Tree
import TalPage.Proofs.Markup.Unambiguous
import TalPage.Proofs.File.Hierarchy
import TalPage.Proofs.Command.Effect
import TalPage.Proofs.Config.Report
import TalPage.Proofs.Command.Agreement
import TalPage.Proofs.Command.Repetition
import TalPage.Proofs.Json.Escape
import TalPage.Proofs.Json.Order
import TalPage.Proofs.Json.Reading
import TalPage.Proofs.Json.ScriptText
import TalPage.Proofs.Json.StableText
import TalPage.Proofs.Page.Holes
import TalPage.Proofs.Page.Places
import TalPage.Proofs.Setting.Checked
import TalPage.Proofs.Setting.Field
import TalPage.Proofs.Setting.Members
import TalPage.Proofs.Setting.Shape
import TalPage.Proofs.Config.Fields
import TalPage.Proofs.Config.Layout
import TalPage.Proofs.Config.WellFormed
import TalPage.Proofs.Config.Overlay
import TalPage.Proofs.Options.Reading
import TalPage.Proofs.Command.Settings
import TalPage.Proofs.Markup.Position
import TalPage.Proofs.Markup.Lookahead
import TalPage.Proofs.Markup.Chain
import TalPage.Proofs.File.RoundTrip
import TalPage.Proofs.Command.Checking
import TalPage.Proofs.Command.Ending
